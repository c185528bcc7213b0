import CallAtlas.Shell.Format
import CallAtlas.Shell.State

/-!
# Options of utilities

A utility has options of one letter, some of which take a value, and operands. Options may stand
after operands, up to a double dash. `withOptions` reads them and complains about those that are not
known.
-/

namespace CallAtlas.Shell.Utility

open Effect

/-- What a utility was asked to do. -/
structure Options where
  /-- The letters in order, with their values. -/
  chosen : List (Char × String) := []
  operands : List String := []

namespace Options

/-- Whether an option was chosen. -/
def has (o : Options) (c : Char) : Bool :=
  o.chosen.any (·.1 == c)

/-- The last value of an option. -/
def value? (o : Options) (c : Char) : Option String :=
  o.chosen.reverse.lookup c

/-- Add an option. -/
def choose (c : Char) (value : String) (o : Options) : Options :=
  { o with chosen := (c, value) :: o.chosen }

/-- Whether a letter is known, and whether it takes a value. -/
def takesValue? : List Char → Char → Option Bool
  | [], _ => none
  | d :: ':' :: rest, c => if c == d then some true else takesValue? rest c
  | d :: rest, c => if c == d then some false else takesValue? rest c

/-- Read the letters of one argument. A letter that needs a value and has none is left to the
next argument. -/
def letters (known : List Char) : List Char → Except String (List (Char × String) × Option Char)
  | [] => .ok ([], none)
  | c :: cs =>
    match takesValue? known c with
    | none => .error ("invalid option -- '" ++ c.toString ++ "'")
    | some true => if cs.isEmpty then .ok ([], some c) else .ok ([(c, String.ofList cs)], none)
    | some false =>
      match letters known cs with
      | .error e => .error e
      | .ok (more, open?) => .ok ((c, "") :: more, open?)

/-- Read arguments. -/
def parse (known : List Char) : Nat → List String → Except String Options
  | 0, args => .ok { operands := args }
  | _, [] => .ok {}
  | n + 1, a :: args =>
    match a.toList with
    | ['-', '-'] => .ok { operands := args }
    | '-' :: '-' :: _ => .error ("unrecognized option '" ++ a ++ "'")
    | '-' :: c :: cs =>
      match letters known (c :: cs) with
      | .error e => .error e
      | .ok (found, none) =>
        (parse known n args).map fun o => { o with chosen := found ++ o.chosen }
      | .ok (found, some c) =>
        match args with
        | [] => .error ("option requires an argument -- '" ++ c.toString ++ "'")
        | value :: args =>
          (parse known n args).map fun o => { o with chosen := found ++ (c, value) :: o.chosen }
    | _ => (parse known n args).map fun o => { o with operands := a :: o.operands }

end Options

/-- Complain in the name of a utility. -/
def complain (name text : String) : Effect Unit :=
  writeText 2 (name ++ ": " ++ text ++ "\n")

/-- Complain about how a utility was called. -/
def misused (name text : String) (status : Nat) : Effect Nat := do
  complain name text
  writeText 2 ("Try '" ++ name ++ " --help' for more information.\n")
  return status

/-- Read the options of a utility. -/
def withOptions (name known : String) (status : Nat) (args : List String)
    (run : Options → Effect Nat) : Effect Nat := do
  match Options.parse known.toList (args.length + 1) args with
  | .ok o => run o
  | .error e => misused name e status

/-- Complain about the first option that is not known, if there is one. -/
def withoutOptions (name : String) (args : List String) (run : List String → Effect Nat) :
    Effect Nat :=
  withOptions name "" 1 args fun o => run o.operands

/-- Write to the standard output. -/
def out (bs : List UInt8) : Effect Unit := do
  let _ ← write 1 (Format.ofBytes bs)

/-- Write a text to the standard output. -/
def outText (s : String) : Effect Unit :=
  writeText 1 s

/-- The bytes of the files at paths, one after another, or of the standard input if there are none.
A dash stands for the standard input. Each comes with its path. -/
def inputs (name : String) (paths : List String) : Effect (List (String × ByteArray) × Nat) := do
  if paths.isEmpty then return ([("", ← readAll 0)], 0)
  let mut found := []
  let mut status := 0
  for path in paths do
    if path == "-" then found := found ++ [(path, ← readAll 0)]
    else
      match ← readFile path with
      | .ok b => found := found ++ [(path, b)]
      | .error e =>
        complain name (path ++ ": " ++ e.text)
        status := 1
  return (found, status)

/-- The lines of bytes, without their ends. -/
def lines (b : List UInt8) : List (List UInt8) :=
  let parts := b.foldr (fun c parts =>
    match parts with
    | [] => [[c]]
    | p :: ps => if c == 10 then [] :: p :: ps else (c :: p) :: ps) [[]]
  if parts.getLast? == some [] then parts.dropLast else parts

/-- Lines with their ends. -/
def unlines (ls : List (List UInt8)) : List UInt8 :=
  ls.flatMap (· ++ [10])

end CallAtlas.Shell.Utility

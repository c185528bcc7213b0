import CallAtlas.Shell.Arithmetic
import CallAtlas.Shell.Pattern
import CallAtlas.Shell.State

/-!
# Filling in words

The pieces of a word are filled in one after another. What comes out unquoted of a parameter or of a
command is divided into fields, and a field with an open pattern is replaced by the paths that match
it. `fields`, `text` and `pattern` fill in a word as arguments, as one text, and as a pattern. How
the output of a command is taken is given from outside.
-/

namespace CallAtlas.Shell.Expansion

open CallAtlas.Text Effect

/-- A character of a word that was filled in, a place where quotes keep a field that may be empty,
or an end of a field. -/
inductive Glyph where
  | char (c : Char) (quoted divides : Bool)
  | quote
  | division
  deriving DecidableEq, Repr

/-- The characters of a text. -/
def glyphs (quoted divides : Bool) (s : String) : List Glyph :=
  s.toList.map (.char · quoted divides)

/-- The text of glyphs. Where a field ends there is a blank. -/
def textOf (gs : List Glyph) : String :=
  String.ofList (gs.filterMap fun g =>
    match g with
    | .char c _ _ => some c
    | .quote => none
    | .division => some ' ')

/-- The characters of a pattern. -/
def markedOf (gs : List Glyph) : List Marked :=
  gs.flatMap fun g =>
    match g with
    | .char c quoted _ => marked quoted c.toString
    | _ => []

/-! ## Parameters -/

/-- The value of a parameter, if it is set. -/
def parameter (name : String) : Effect (Option String) := do
  let s ← get
  match name with
  | "@" => return if s.arguments.isEmpty then none else some (" ".intercalate s.arguments)
  | "*" => return if s.arguments.isEmpty then none else some (" ".intercalate s.arguments)
  | "#" => return some (toString s.arguments.length)
  | "?" => return some (toString s.status)
  | "$" => return some (toString processNumber)
  | "!" => return none
  | "-" => return some (String.ofList s.options.reverse)
  | "0" => return some s.name
  | _ =>
    if name.toList.all Decimal.isDigit then
      return s.arguments[Nat.ofDigitChars 10 name.toList 0 - 1]?
    else value? name

/-- All arguments, each as a field of its own, or as one field. -/
def allArguments (separate quoted : Bool) : Effect (List Glyph) := do
  let args := (← get).arguments
  if quoted && !separate then
    let between := match (← value? "IFS") with
      | none => " "
      | some ifs => String.ofList (ifs.toList.take 1)
    return .quote :: glyphs true false (between.intercalate args)
  else
    let one (a : String) : List Glyph :=
      (if quoted then [.quote] else []) ++ glyphs quoted (!quoted) a
    return ([Glyph.division].intercalate (args.map one))

/-- The glyphs of a value. -/
def valueGlyphs (quoted : Bool) (s : String) : List Glyph :=
  (if quoted then [.quote] else []) ++ glyphs quoted (!quoted) s

/-- Whether a parameter counts as unset. -/
def isMissing (orNull : Bool) (value : Option String) : Bool :=
  match value with
  | none => true
  | some s => orNull && s.isEmpty

/-- The bytes of a text as one text again. -/
def ofBytes (bs : List UInt8) : String :=
  Lossy.decode ⟨bs.toArray⟩

/-- The value of an arithmetic expression. -/
def arithmetic (s : String) : Effect String := do
  let before := (← get).bindings.filterMap fun (name, v) => v.value.map (name, ·)
  match Arithmetic.evaluate s before with
  | .error f => fail (f.message s)
  | .ok (n, after) =>
    for (name, value) in (after.take (after.length - before.length)).reverse do
      assign name value
    return Arithmetic.text n

/-! ## Words -/

mutual

/-- Fill in a piece. `inner` is whether it stands in the braces of a parameter, where texts are
divided too. -/
def piece (output : Command → Effect String) (inner : Bool) : Piece → Effect (List Glyph)
  | .text s => return glyphs false inner s
  | .quoted s => return .quote :: glyphs true false s
  | .output c quoted => return valueGlyphs quoted (← output c)
  | .number expression quoted => do
    let gs ← pieces output false expression
    return valueGlyphs quoted (← arithmetic (textOf gs))
  | .parameter name use quoted word => do
    let value ← parameter name
    let whole : Effect (List Glyph) := do
      if name == "@" || name == "*" then allArguments (name == "@") quoted
      else
        if value.isNone && (← hasOption 'u') then fail (name ++ ": parameter not set")
        return valueGlyphs quoted (value.getD "")
    let isAll := name == "@" || name == "*"
    match use with
    | .plain => whole
    | .malformed => fail "Bad substitution"
    | .length =>
      if value.isNone && !isAll && (← hasOption 'u') then fail (name ++ ": parameter not set")
      return valueGlyphs quoted (toString (value.getD "").utf8ByteSize)
    | .withDefault orNull => if isMissing orNull value then pieces output true word else whole
    | .alternative orNull => if isMissing orNull value then return [] else pieces output true word
    | .withAssignment orNull =>
      if isMissing orNull value then
        let new := textOf (← pieces output false word)
        if !isName name then fail (name ++ ": bad variable name")
        assign name new
        return valueGlyphs quoted new
      else whole
    | .required orNull =>
      if isMissing orNull value then
        let complaint := textOf (← pieces output false word)
        let usual := if orNull then "parameter not set or null" else "parameter not set"
        fail (name ++ ": " ++ if complaint.isEmpty then usual else complaint)
      else whole
    | .withoutStart longest =>
      if value.isNone && !isAll && (← hasOption 'u') then fail (name ++ ": parameter not set")
      let p := Pattern.ofMarked (markedOf (← pieces output false word))
      return valueGlyphs quoted (ofBytes (p.dropStart longest (value.getD "").toUTF8.toList))
    | .withoutEnd longest =>
      if value.isNone && !isAll && (← hasOption 'u') then fail (name ++ ": parameter not set")
      let p := Pattern.ofMarked (markedOf (← pieces output false word))
      return valueGlyphs quoted (ofBytes (p.dropEnd longest (value.getD "").toUTF8.toList))

/-- Fill in pieces from left to right. -/
def pieces (output : Command → Effect String) (inner : Bool) : List Piece → Effect (List Glyph)
  | [] => return []
  | p :: ps => do
    let first ← piece output inner p
    return first ++ (← pieces output inner ps)

end

/-- Replace a tilde in front by the home directory. -/
def withHome : Word → Effect Word
  | .text s :: rest => do
    match s.toList, ← value? "HOME" with
    | ['~'], some home => return if rest.isEmpty then [.quoted home] else .text s :: rest
    | '~' :: '/' :: path, some home =>
      return .quoted home :: .text (String.ofList ('/' :: path)) :: rest
    | _, _ => return .text s :: rest
  | w => return w

/-- Fill in a word as one text. -/
def text (output : Command → Effect String) (w : Word) : Effect String := do
  return textOf (← pieces output false (← withHome w))

/-- Fill in a word as a pattern. -/
def pattern (output : Command → Effect String) (w : Word) : Effect Pattern := do
  return Pattern.ofMarked (markedOf (← pieces output false (← withHome w)))

/-! ## Fields -/

/-- The state of dividing : the fields so far and the current one, the last glyphs first, and
whether a blank has just ended a field. -/
structure Division where
  done : List (List Glyph) := []
  current : Option (List Glyph) := none
  afterBlank : Bool := false

/-- End the current field, if there is one. -/
def Division.finish (d : Division) : Division :=
  match d.current with
  | none => d
  | some gs => { done := gs :: d.done, current := none, afterBlank := false }

/-- Divide at the next glyph. Blanks around a divider belong to it. -/
def Division.step (dividers : List Char) (d : Division) (g : Glyph) : Division :=
  match g with
  | .division => d.finish
  | .quote => { d with current := some (g :: d.current.getD []), afterBlank := false }
  | .char c _ divides =>
    if divides && dividers.contains c then
      let isBlank := c == ' ' || c == '\t' || c == '\n'
      match d.current with
      | some _ => { d.finish with afterBlank := isBlank }
      | none =>
        if isBlank then d
        else if d.afterBlank then { d with afterBlank := false }
        else { d with done := [] :: d.done }
    else { d with current := some (g :: d.current.getD []), afterBlank := false }

/-- Divide glyphs into fields. -/
def divide (dividers : List Char) (gs : List Glyph) : List (List Glyph) :=
  let d := (gs.foldl (Division.step dividers) {}).finish
  (d.done.map List.reverse).reverse

/-! ## Paths -/

/-- The parts of a path pattern between separators. -/
def pathParts (cs : List Marked) : List (List Marked) :=
  cs.foldr (fun c parts =>
    match parts with
    | [] => [[c]]
    | p :: ps => if c.1 == Pattern.byte '/' then [] :: p :: ps else (c :: p) :: ps) [[]]

/-- The names in a directory that a pattern may match. A dot in front must be matched by a dot. -/
def candidates (fs : FileSystem) (directory : String) (part : List Marked) : List String :=
  let names := match fs.find (if directory.isEmpty then "." else directory) with
    | .ok t => t.entries.map (·.1)
    | .error _ => []
  let names := if part.head?.map (·.1) == some (Pattern.byte '.') then "." :: ".." :: names
    else names.filter fun n => !n.startsWith "."
  let p := Pattern.ofMarked part
  names.filter fun n => p.fits n.toUTF8.toList

/-- The paths that match, from those that match the parts in front. -/
def matching (fs : FileSystem) : List (List Marked) → List String → List String
  | [], found => found
  | part :: parts, found =>
    let next := found.flatMap fun path =>
      if Pattern.isOpen part then (candidates fs path part).map (path ++ ·)
      else [path ++ ofBytes (part.map (·.1))]
    match parts with
    | [] => next.filter fun path => (fs.find path).toOption.isSome
    | _ =>
      matching fs parts
        ((next.filter fun path => path.isEmpty || fs.isDirectory path).map (· ++ "/"))

/-- The paths that a field stands for. -/
def paths (fs : FileSystem) (field : List Glyph) : List String :=
  let cs := markedOf field
  let found := if Pattern.isOpen cs then matching fs (pathParts cs) [""] else []
  if found.isEmpty then [textOf field] else found.mergeSort fun a b => a ≤ b

/-- Fill in a word as arguments. -/
def fields (output : Command → Effect String) (w : Word) : Effect (List String) := do
  let gs ← pieces output false (← withHome w)
  let divided := divide (← separators).toList gs
  if ← hasOption 'f' then return divided.map textOf
  let fs := (← get).files
  return divided.flatMap (paths fs)

end CallAtlas.Shell.Expansion

import CallAtlas.Text.Blank
import CallAtlas.Text.Decimal

/-!
# The log level

A configured directive is usually a level, given by its word or its number. Asking for more output
raises the level and never lowers it. `LogLevel.directive` is the directive that results; a
directive that is no level is kept, with the asked level as its default.
-/

namespace CallAtlas

/-- Levels, the quietest first. -/
inductive LogLevel where
  | off
  | error
  | warn
  | info
  | debug
  | trace
  deriving DecidableEq, Repr

namespace LogLevel

/-- All levels, the quietest first. -/
def all : List LogLevel :=
  [.off, .error, .warn, .info, .debug, .trace]

/-- The word for a level. -/
def name : LogLevel → String
  | .off => "off"
  | .error => "error"
  | .warn => "warn"
  | .info => "info"
  | .debug => "debug"
  | .trace => "trace"

/-- How much a level lets through. -/
def rank (l : LogLevel) : Nat :=
  all.idxOf l

/-- The level that a text names : by number, or by word in any case. An empty text names the level
of errors. -/
def parse? (s : String) : Option LogLevel :=
  let byNumber := (Text.Decimal.word? s.toList).bind (all[·]?)
  byNumber <|>
    if s.isEmpty then some .error else all.find? (·.name = s.toLower)

/-- The louder of two levels. -/
def max (a b : LogLevel) : LogLevel :=
  if a.rank < b.rank then b else a

/-- The level that is asked for by a number of requests for more output. -/
def requested : Nat → Option LogLevel
  | 0 => none
  | 1 => some .info
  | _ => some .debug

/-- The directive for a configured one and a number of requests for more output. -/
def directive (configured : String) (verbosity : Nat) : String :=
  match requested verbosity with
  | none => configured
  | some level =>
    match parse? (Text.trim configured) with
    | some l => (l.max level).name
    | none => configured ++ "," ++ level.name

/-- Whether a directive lets warnings through. One that is no level does. -/
def showsWarnings (directive : String) : Bool :=
  (parse? (Text.trim directive)).all fun l => warn.rank ≤ l.rank

end LogLevel

end CallAtlas

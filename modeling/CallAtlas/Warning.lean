/-!
# Warnings

Work that goes on after a fault says what it left out. A warning is a message with named details.
-/

namespace CallAtlas

/-- A message and the details that belong to it. -/
structure Warning where
  message : String
  details : List (String × String) := []
  deriving DecidableEq, Repr

/-- A warning as it stands in the log : the message, and the details with their names set off. -/
def Warning.logText (w : Warning) : String :=
  "WARN " ++ w.message ++ String.join (w.details.map fun (name, value) =>
    " \x1b[3m" ++ name ++ "\x1b[0m\x1b[2m=\x1b[0m" ++ value)

end CallAtlas

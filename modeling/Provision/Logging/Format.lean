import Provision.Text.Blank

/-! # Log formats -/

namespace Provision.Logging

/-- How log lines are written. -/
inductive Format where
  | pretty
  | compact
  | json
  deriving DecidableEq, Repr

/-- Why logging could not be set up. -/
inductive SetupError where
  /-- There is no format of this name. -/
  | unknownFormat (name : String)
  /-- The filter is malformed; `detail` says how. -/
  | invalidFilter (directives detail : String)
  /-- The filter has a part that ends inside a character; `detail` says where. -/
  | misplacedPart (detail : String)
  /-- Logging is already set up; `detail` is the refusal. -/
  | alreadyInstalled (detail : String)
  deriving DecidableEq, Repr

/-- The wording of a failed setup. -/
def SetupError.message : SetupError → String
  | unknownFormat name =>
    "unknown log format '" ++ name ++ "', expected pretty, compact or json"
  | invalidFilter directives detail => "invalid log filter '" ++ directives ++ "': " ++ detail
  | misplacedPart detail => detail
  | alreadyInstalled detail => "tracing subscriber already installed: " ++ detail

namespace Format

/-- A format as diagnostics show it. -/
def inspect : Format → String
  | pretty => "Pretty"
  | compact => "Compact"
  | json => "Json"

/-- The format of a name. Blanks around the name and the case of its letters do not matter. -/
def ofName (name : String) : Except SetupError Format :=
  match (Text.trim name).map Text.lowerAscii with
  | "pretty" => .ok pretty
  | "compact" => .ok compact
  | "json" => .ok json
  | _ => .error (.unknownFormat name)

end Format

end Provision.Logging

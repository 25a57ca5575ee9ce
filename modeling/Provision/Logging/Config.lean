import Provision.Logging.Filter
import Provision.Logging.Format
import Provision.Text.Inspect

/-! # Logging setup

The setup is read from environment variables or made by hand. It takes effect when it is
installed, which can be done once. -/

namespace Provision.Logging

/-- How a node logs. -/
structure Config where
  /-- What gets into the log if there is no filter. -/
  level : Level := .info
  format : Format := .pretty
  /-- The text of a filter. -/
  filter : Option String := none
  /-- Whether the start and the end of spans are logged. -/
  spanEvents : Bool := false
  deriving DecidableEq, Repr

namespace Config

/-- The variable that holds a filter. -/
def filterVariable : String := "GRIDNODE_LOG"

/-- The variable that holds the name of a format. -/
def formatVariable : String := "GRIDNODE_LOG_FORMAT"

/-- The setup that environment variables ask for. A blank filter is none. -/
def ofVariables (value? : String → Option String) : Except SetupError Config := do
  let filter := (value? filterVariable).filter fun text => !text.toList.all Text.isBlank
  match value? formatVariable with
  | none => return { filter }
  | some name => return { filter, format := ← Format.ofName name }

/-- A setup as diagnostics show it. -/
def inspect (config : Config) : String :=
  Text.inspectRecord "TracingConfig"
    [("level", config.level.inspect), ("format", config.format.inspect),
      ("env_filter",
        config.filter.elim "None" fun text => "Some(" ++ Text.inspect text ++ ")"),
      ("span_events", toString config.spanEvents)]

/-- What the setup lets into the log. -/
def filter? (config : Config) : Except SetupError Filter :=
  match config.filter with
  | none => .ok (.upTo config.level)
  | some text =>
    match Filter.parse text with
    | .ok filter => .ok filter
    | .error .malformed => .error (.invalidFilter text "invalid filter directive")
    | .error (.misplaced detail) => .error (.misplacedPart detail)

/-- Installs the setup, unless one is installed. -/
def install (config : Config) (isInstalled : Bool) : Except SetupError Filter := do
  let filter ← config.filter?
  if isInstalled then
    throw (.alreadyInstalled "a global default trace dispatcher has already been set")
  return filter

end Config

end Provision.Logging

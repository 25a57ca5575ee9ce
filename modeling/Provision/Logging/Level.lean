/-! # Severity levels -/

namespace Provision.Logging

/-- The severity of a log entry, most severe first. -/
inductive Level where
  | error
  | warn
  | info
  | debug
  | trace
  deriving DecidableEq, Repr

namespace Level

/-- How much a level lets through: more severe levels come first. -/
def rank : Level → Nat
  | error => 1
  | warn => 2
  | info => 3
  | debug => 4
  | trace => 5

/-- The name of a level. -/
def name : Level → String
  | error => "ERROR"
  | warn => "WARN"
  | info => "INFO"
  | debug => "DEBUG"
  | trace => "TRACE"

/-- A level as diagnostics show it. -/
def inspect : Level → String
  | error => "Level(Error)"
  | warn => "Level(Warn)"
  | info => "Level(Info)"
  | debug => "Level(Debug)"
  | trace => "Level(Trace)"

/-- All levels. -/
def all : List Level := [error, warn, info, debug, trace]

end Level

end Provision.Logging

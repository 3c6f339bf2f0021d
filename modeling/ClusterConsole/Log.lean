/-!
# Log entries

What the console does leaves entries in a log.  They are kept as data and handed on, so the log of
a step is part of its result; where they are written, and from which level on, is decided by the
program.
-/

set_option autoImplicit false

namespace ClusterConsole

/-- How serious an entry is, the most serious first. -/
inductive Level where
  | error
  | warn
  | info
  | debug
  | trace
  deriving DecidableEq, Repr

/-- How a level stands in the log. -/
def Level.label : Level → String
  | .error => "ERROR"
  | .warn => "WARN"
  | .info => "INFO"
  | .debug => "DEBUG"
  | .trace => "TRACE"

/-- The place of a level: the larger, the less serious. -/
def Level.rank : Level → Nat
  | .error => 1
  | .warn => 2
  | .info => 3
  | .debug => 4
  | .trace => 5

/-- One entry. -/
structure LogEntry where
  level : Level
  text : String
  deriving DecidableEq, Repr

/-- A log, the oldest entry first. -/
abbrev Log := List LogEntry

namespace Log

/-- The entries that a log with the given limit keeps. -/
def upTo (limit : Level) (log : Log) : Log := log.filter fun e ↦ e.level.rank ≤ limit.rank

/-- What stands for the identifier of a request. -/
def requestMark : String := "[ID]"

end Log
end ClusterConsole

/-!
# Log records

A record says how urgent it is, which part of the plane speaks, what happened, and to whom. The
texts that vary stand in named fields.
-/

namespace ServicePlane

/-- How urgent a record is. -/
inductive LogLevel where
  | error
  | warn
  | info
  | debug
  | trace
  deriving DecidableEq, Repr

namespace LogLevel

/-- How much has to be switched on before records of this level are shown. -/
def verbosity : LogLevel → Nat
  | error => 1
  | warn => 2
  | info => 3
  | debug => 4
  | trace => 5

def name : LogLevel → String
  | error => "ERROR"
  | warn => "WARN"
  | info => "INFO"
  | debug => "DEBUG"
  | trace => "TRACE"

end LogLevel

/-- The fields of a record whose values are texts. -/
inductive LogField where
  | hook
  | service
  | server
  | reason
  | error
  deriving DecidableEq, Repr

namespace LogField

/-- Every field, in the order in which a line shows them. -/
def all : List LogField :=
  [hook, service, server, reason, error]

def name : LogField → String
  | hook => "hook"
  | service => "service"
  | server => "server"
  | reason => "reason"
  | error => "error"

end LogField

/-- One log record. -/
structure LogRecord where
  level : LogLevel
  target : String
  message : String
  fields : List (LogField × String)
  deriving DecidableEq, Repr

namespace LogRecord

/-- The value of a field, if the record has it. -/
def field? (r : LogRecord) (f : LogField) : Option String :=
  (r.fields.find? fun entry => entry.1 = f).map (·.2)

/-- A record as one line: level, target, message, and the fields that are there. -/
def line (r : LogRecord) : String :=
  let shown := LogField.all.filterMap fun f =>
    (r.field? f).map fun v => s!" {f.name}={v}"
  s!"{r.level.name} {r.target}: {r.message}" ++ String.join shown

end LogRecord

end ServicePlane

import WorkflowExchange.Value.Basic

/-!
# Log messages

A message is a template with the values to put into it.  It becomes a record,
which is a level and a finished line, once the template is filled in.
-/

namespace WorkflowExchange.Log

/-- The level of a message. -/
inductive Level where
  | debug
  | info
  | warning
  | error
  | critical
  deriving DecidableEq

def Level.name : Level → String
  | .debug => "DEBUG"
  | .info => "INFO"
  | .warning => "WARNING"
  | .error => "ERROR"
  | .critical => "CRITICAL"

/-- A template and the values for its places. -/
structure Message where
  level : Level
  template : String
  arguments : List Value

/-- A finished log line. -/
structure Record where
  level : Level
  line : String
  deriving DecidableEq

end WorkflowExchange.Log

import WorkflowExchange.Log.Template

/-!
# Log context

A message can be bound to the context of the call that it belongs to.  The parts
of the context are added to the end of its template, in square brackets.
`Context.ofValues` makes a context from values, of which those that are null are
not shown.
-/

namespace WorkflowExchange.Log

/-- The names and texts that tell where a message comes from. -/
abbrev Context := List (String × String)

namespace Context

/-- The text that a context adds to a template. -/
def suffix (context : Context) : String :=
  let parts := context.map fun part => part.1 ++ "=" ++ part.2
  if parts.isEmpty then "" else " [" ++ String.intercalate " " parts ++ "]"

def bind (context : Context) (message : Message) : Message :=
  { message with template := message.template ++ context.suffix }

/-- The context of a call: the user and the operation. -/
def ofCall (userId operation : String) : Context :=
  [("user_id", userId), ("operation", operation)]

def isShown : Value → Bool
  | .scalar .null => false
  | _ => true

/-- The name of the logger itself, which no part of a context can have. -/
def loggerName : String := "logger"

/-- The names under which a record keeps what it is made of. -/
def recordNames : List String :=
  ["name", "msg", "args", "levelname", "levelno", "pathname", "filename",
    "module", "exc_info", "exc_text", "stack_info", "lineno", "funcName",
    "created", "msecs", "relativeCreated", "thread", "threadName",
    "processName", "process", "message", "asctime"]

/-- The context that some values are.  A value that is not shown must have an
admissible name as well. -/
def ofValues (parts : List (String × Value)) : Except Fault Context := do
  if parts.any (·.1 = loggerName) then .error .wrongType
  let shown ← (parts.filter fun part => isShown part.2).mapM fun part => do
    pure (part.1, (← part.2.display Number.digitLimit).shown)
  if parts.any fun part => recordNames.contains part.1 then .error .noEntry
  pure shown

end Context

end WorkflowExchange.Log

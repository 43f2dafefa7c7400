import WorkflowExchange.Description.Generator
import WorkflowExchange.Failure
import WorkflowExchange.Log.Context
import WorkflowExchange.Store.Tables

/-!
# Sessions

The work of the exchange runs in a session: it reads and changes a draft of the
store, and only a commit saves the draft.  Numbers that were used for
identifiers stay used and messages stay logged, whatever the work ends in.

Every use of the store is a `StoreCall`.  The environment tells for each call,
given the calls made before it, whether it meets a mishap: it can fail with an
error of the database, break off with a fault of the host, or find nothing.
-/

namespace WorkflowExchange

/-- The uses of the store, each of which can meet a mishap of its own.  Reading users
and memberships is part of the call that asks for them. -/
inductive StoreCall where
  | personalProject
  | accessibleWorkflow
  | accessibleIds
  | workflowsWithIds
  | insertWorkflow
  | updateWorkflow
  | linkOwner
  | getEntry
  | findVisible
  | findByOrigin
  | savepoint
  | insertEntry
  | updateEntry
  | incrementDownloads
  | deleteEntry
  | commit
  deriving DecidableEq

/-- What can go wrong with a use of the store. -/
inductive Mishap where
  | error (error : DatabaseError)
  | fault (found : Fault)
  /-- A lookup finds nothing, or no row is counted as affected. -/
  | nothing
  deriving DecidableEq

/-- What work depends on besides the session. -/
structure Environment where
  now : Moment
  generator : Generator
  /-- Does publishing require the right to update? -/
  strict : Bool
  /-- The mishap of a call, given the calls made before it, the last one first. -/
  mishap : List StoreCall → StoreCall → Option Mishap

/-- The environment of calls that send the database something: those meet a mishap unless
they fail before. -/
def Environment.sending (environment : Environment) (sends : StoreCall → Bool)
    (mishap : Mishap) : Environment :=
  { environment with
    mishap := fun calls call =>
      match environment.mishap calls call with
      | some (.error error) => some (.error error)
      | some (.fault found) => some (.fault found)
      | other => if sends call then some mishap else other }

/-- How many identifiers of each kind were made. -/
structure Counters where
  users : Nat := 0
  projects : Nat := 0
  workflows : Nat := 0
  entries : Nat := 0
  versions : Nat := 0
  deriving DecidableEq

namespace Counters

def count (counters : Counters) : Identifier.Kind → Nat
  | .user => counters.users
  | .project => counters.projects
  | .workflow => counters.workflows
  | .entry => counters.entries
  | .version => counters.versions

def advance (counters : Counters) : Identifier.Kind → Counters
  | .user => { counters with users := counters.users + 1 }
  | .project => { counters with projects := counters.projects + 1 }
  | .workflow => { counters with workflows := counters.workflows + 1 }
  | .entry => { counters with entries := counters.entries + 1 }
  | .version => { counters with versions := counters.versions + 1 }

end Counters

/-- What work goes on with and leaves behind: what is saved, the draft of it that is
worked on, and what is never undone. -/
structure Session where
  saved : Store
  draft : Store
  counters : Counters
  /-- The calls made so far, the last one first. -/
  calls : List StoreCall
  messages : List Log.Message
  commits : Nat

/-- The session in which work on a store begins: nothing was done in it yet. -/
def Session.start (store : Store) (counters : Counters) : Session :=
  ⟨store, store, counters, [], [], 0⟩

/-- Work in a session: it ends with a result or a failure, and changes the
session in either case. -/
abbrev Work := ReaderT Environment (ExceptT Failure (StateM Session))

namespace Work

/-- What work ends in, and the session that it leaves. -/
def outcome {α : Type} (work : Work α) (environment : Environment)
    (session : Session) : Except Failure α × Session :=
  ((work.run environment).run).run session

/-- End work with a failure.  What was done to the session stays done. -/
def fail {α : Type} (failure : Failure) : Work α :=
  throw failure

/-- End work for a cause that the caller is shown. -/
def refuse {α : Type} (cause : Cause) : Work α :=
  throw (.because cause)

/-- Do work in which some calls send the database what it does not take. -/
def unbound {α : Type} (sends : StoreCall → Bool) (mishap : Mishap)
    (work : Work α) : Work α :=
  withReader (·.sending sends mishap) work

def now : Work Moment := do
  pure (← read).now

/-- The draft that work goes on with. -/
def store : Work Store := do
  pure (← get).draft

/-- Go on with another draft. -/
def setStore (store : Store) : Work Unit :=
  modify fun session => { session with draft := store }

/-- Log a message with what the call is known by. -/
def log (context : Log.Context) (message : Log.Message) : Work Unit :=
  modify fun session =>
    { session with messages := session.messages ++ [context.bind message] }

/-- Do what a trial does: log its messages and end as it does. -/
def ofTrial {α : Type} (context : Log.Context) (trial : Trial Failure α) :
    Work α := do
  trial.messages.forM (log context)
  match trial.outcome with
  | .ok result => pure result
  | .error failure => fail failure

/-- Work that ends as it is told to. -/
def ofExcept {α : Type} (outcome : Except Failure α) : Work α :=
  match outcome with
  | .ok result => pure result
  | .error failure => fail failure

/-- Make an identifier of a kind.  It is never made again, even when the work is
undone. -/
def fresh (kind : Identifier.Kind) : Work String := do
  let counters := (← get).counters.advance kind
  modify fun session => { session with counters }
  pure (kind.numbered (counters.count kind))

/-- Note a use of the store and tell its mishap. -/
def met (call : StoreCall) : Work (Option Mishap) := do
  let session ← get
  set { session with calls := call :: session.calls }
  pure ((← read).mishap session.calls call)

/-- Look something up, or count what is affected.  A mishap that finds nothing
gives the result `none`. -/
def call {α : Type} (call : StoreCall) (none : α) (work : Work α) :
    Work α := do
  match ← met call with
  | .none => work
  | .some (.error error) => fail (.database error)
  | .some (.fault found) => fail (.fault found)
  | .some .nothing => pure none

/-- Make a change.  A change is made or fails: there is nothing that it could
fail to find. -/
def change {α : Type} (call : StoreCall) (work : Work α) : Work α := do
  match ← met call with
  | some (.error error) => fail (.database error)
  | some (.fault found) => fail (.fault found)
  | _ => work

/-- Save the draft. -/
def commit : Work Unit :=
  change .commit (modify fun session =>
    { session with saved := session.draft, commits := session.commits + 1 })

/-- Forget what was not saved. -/
def discard : Work Unit :=
  modify fun session => { session with draft := session.saved }

/-- Run work on a draft and forget what it did not save. -/
def unit {α : Type} (work : Work α) : Work α := do
  discard
  try
    let result ← work
    discard
    pure result
  catch failure =>
    discard
    fail failure

/-- The message that an error of the database undid work. -/
def undoneMessage (error : DatabaseError) : Log.Message :=
  ⟨.error, "Transaction rolled back: %s", [.text error.className]⟩

/-- Run work on a draft.  An error of the database undoes it and is reported
without any detail of the error. -/
def transaction {α : Type} (undone : Undone) (context : Log.Context)
    (work : Work α) : Work α :=
  tryCatch work.unit fun failure =>
    match failure with
    | .database error => do
      log context (undoneMessage error)
      refuse (.notSaved undone)
    | other => fail other

end Work

end WorkflowExchange

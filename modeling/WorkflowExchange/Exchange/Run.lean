import WorkflowExchange.Exchange.Catalog
import WorkflowExchange.Exchange.Workflows

/-!
# Runs

Many users act on one exchange.  An `Action` is something that a user does from
its beginning to its end.  Every transaction is atomic, but a publication takes
two of them, and any number of turns of others can come in between: a `Turn` is
either a whole action, the first transaction of a publication, or the rest of a
publication that waits.

Every turn has an environment of its own, and so any of its uses of the store can
meet a mishap.  In a run there is one that the store itself makes: a full table
refuses a row.  The data of a request comes as it was sent, and a turn fails when
the data does not fit.
-/

namespace WorkflowExchange

/-- What a user does from its beginning to its end. -/
inductive Action where
  | findAll (user : User)
  | showEntry (user : User) (entryId : String)
  | findUserWorkflows (user : User)
  | preview (user : User) (workflowId : String)
  | publish (user : User) (heap : Heap) (data : Value)
  | importEntry (user : User) (entryId : String)
  | delete (user : User) (entryId : String)
  | create (user : User) (heap : Heap) (data : Value)
  | showWorkflow (user : User) (workflowId : String)
  | update (user : User) (workflowId : String) (heap : Heap) (data : Value)

/-- The request that data was read as. -/
def Work.reading {α : Type} (read : Fit α) : Work α :=
  ofExcept read.toExcept

/-- Work of which only the end counts. -/
def Work.done {α : Type} (work : Work α) : Work Unit := do
  let _ ← work

/-- Do what a user does. -/
def Action.perform : Action → Work Unit
  | findAll user => (Catalog.findAll user).done
  | showEntry user entryId => (Catalog.get user entryId).done
  | findUserWorkflows user => (Catalog.findUserWorkflows user).done
  | preview user workflowId => (Catalog.preview user workflowId).done
  | publish user heap data => do
    let request ← .reading (PublishRequest.read heap data)
    (Catalog.publish user request).done
  | importEntry user entryId => (Catalog.importEntry user entryId).done
  | delete user entryId => Catalog.delete user entryId
  | create user heap data => do
    let request ← .reading (CreateRequest.read heap data)
    (Workflows.create user request).done
  | showWorkflow user workflowId => (Workflows.get user workflowId).done
  | update user workflowId heap data => do
    let request ← .reading (UpdateRequest.read heap data)
    (Workflows.update user workflowId request).done

/-- A publication whose first transaction was passed: the user may publish the
workflow, and its name and graph are known. -/
structure Publication where
  user : User
  request : PublishRequest
  name : Value
  graph : GraphCopy

namespace Publication

/-- The first transaction of a publication. -/
def begin (user : User) (request : PublishRequest) : Work Publication := do
  let (name, graph) ← Catalog.beginPublish user request
  pure ⟨user, request, name, graph⟩

/-- The rest of a publication. -/
def finish (publication : Publication) : Work EntrySummary :=
  Catalog.finishPublish publication.user publication.request publication.name
    publication.graph

end Publication

/-- What happens between two worlds: an action as a whole, or one of the two
transactions of a publication. -/
inductive Turn where
  | act (action : Action)
  | begin (user : User) (heap : Heap) (data : Value)
  /-- Finish the publication at a position among those that wait. -/
  | finish (position : Nat)

/-- Is the table full to which a use of the store adds a row? -/
def Store.isFullFor (store : Store) : StoreCall → Bool
  | .insertWorkflow => Store.isFull store.workflows
  | .linkOwner => Store.isFull store.sharings
  | .insertEntry => Store.isFull store.entries
  | _ => false

/-- An exchange between two turns: what is saved, the identifiers that were made
and the publications that wait. -/
structure World where
  store : Store
  counters : Counters
  waiting : List Publication

namespace World

/-- The world before any turn: there are only users, projects and
memberships. -/
def start (users : List User) (projects : List Project)
    (memberships : List Membership) (counters : Counters) : World where
  store := ⟨users, projects, memberships, [], [], []⟩
  counters := counters
  waiting := []

/-- The session in which the next turn is taken. -/
def session (world : World) : Session :=
  .start world.store world.counters

/-- The work of a turn; it ends with the publication that waits from then on, if
one does. -/
def work (world : World) : Turn → Work (Option Publication)
  | .act action => do
    action.perform
    pure none
  | .begin user heap data => do
    let request ← .reading (PublishRequest.read heap data)
    some <$> Publication.begin user request
  | .finish position =>
    match world.waiting[position]? with
    | none => pure none
    | some publication => do
      let _ ← publication.finish
      pure none

/-- The publications that wait still while a turn is taken. -/
def stillWaiting (world : World) : Turn → List Publication
  | .finish position => world.waiting.eraseIdx position
  | _ => world.waiting

/-- The outcome of a turn and the session after it. -/
def outcome (world : World) (environment : Environment) (turn : Turn) :
    Except Failure (Option Publication) × Session :=
  (world.work turn).outcome environment world.session

/-- The world after a turn. -/
def after (world : World) (environment : Environment) (turn : Turn) : World :=
  let (result, session) := world.outcome environment turn
  { store := session.saved
    counters := session.counters
    waiting :=
      match result with
      | .ok (some publication) => world.stillWaiting turn ++ [publication]
      | _ => world.stillWaiting turn }

/-- The environment of the next turn: besides the mishaps that it has, a row for a full
table is an error of the database. -/
def within (world : World) (environment : Environment) : Environment :=
  { environment with
    mishap := fun calls call =>
      if world.store.isFullFor call then some (.error .operational)
      else environment.mishap calls call }

/-- The world after the next turn of a run. -/
def step (world : World) (environment : Environment) (turn : Turn) : World :=
  world.after (world.within environment) turn

/-- The world after some turns, each in an environment of its own. -/
def run (world : World) (turns : List (Environment × Turn)) : World :=
  turns.foldl (fun current turn => current.step turn.1 turn.2) world

/-- Does a turn save anything? -/
def commits (world : World) (environment : Environment) (turn : Turn) : Bool :=
  (world.outcome environment turn).2.commits != 0

end World

end WorkflowExchange

import WorkflowExchange.Failure

/-!
# Fitting data to declared fields

Reading data as something declared either fits, or finds the places where it
does not fit, or breaks off with a fault of the host.  When several parts are
read together, the misfits of all of them are collected in order, while a fault
ends the reading at once.
-/

namespace WorkflowExchange

/-- The outcome of reading data as something declared. -/
inductive Fit (α : Type) where
  | fits (result : α)
  | misfits (found : List Misfit)
  | breaks (fault : Fault)

namespace Fit

def map {α β : Type} (change : α → β) : Fit α → Fit β
  | .fits result => .fits (change result)
  | .misfits found => .misfits found
  | .breaks fault => .breaks fault

/-- Read two parts together. -/
def and {α β : Type} (first : Fit (α → β)) (second : Fit α) : Fit β :=
  match first, second with
  | .breaks fault, _ => .breaks fault
  | _, .breaks fault => .breaks fault
  | .fits change, .fits result => .fits (change result)
  | .fits _, .misfits found => .misfits found
  | .misfits found, .fits _ => .misfits found
  | .misfits found, .misfits more => .misfits (found ++ more)

instance : Applicative Fit where
  pure := .fits
  map := map
  seq first second := and first (second ())

def andThen {α β : Type} (reading : Fit α) (next : α → Fit β) : Fit β :=
  match reading with
  | .fits result => next result
  | .misfits found => .misfits found
  | .breaks fault => .breaks fault

/-- One misfit at the place that is being read. -/
def misfit {α : Type} (kind message : String) : Fit α :=
  .misfits [⟨[], kind, message⟩]

/-- A reading of the part of the data that a step leads to. -/
def within {α : Type} (step : Step) : Fit α → Fit α
  | .misfits found =>
    .misfits (found.map fun misfit => { misfit with place := step :: misfit.place })
  | other => other

/-- Read some parts together. -/
def all {α β : Type} (read : α → Fit β) : List α → Fit (List β)
  | [] => .fits []
  | first :: rest => List.cons <$> read first <*> all read rest

/-- The result of a reading, or the failure that it is. -/
def toExcept {α : Type} : Fit α → Except Failure α
  | .fits result => .ok result
  | .misfits found => .error (.misfits found)
  | .breaks fault => .error (.fault fault)

end Fit

end WorkflowExchange

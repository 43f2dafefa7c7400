import WorkflowExchange.Store.Cell
import WorkflowExchange.Time.Iso
import WorkflowExchange.Value.Agreement
import WorkflowExchange.Value.Serialized

/-!
# Prepared rows

The values that are given for the columns of a row are prepared together, each
in the way of its column.  When several of them cannot be stored, a value that
has no form in its column is reported first, then the first value of a kind that
the store does not take, and last a column that lacks a value.
-/

namespace WorkflowExchange

/-- The outcome of preparing what is given for a row or a part of it. -/
inductive Prepared (α : Type) where
  | ready (result : α)
  /-- A value has no form in its column. -/
  | malformed
  | refused (failure : Failure)
  /-- A column that has to have a value lacks one. -/
  | lacking

namespace Prepared

def map {α β : Type} (change : α → β) : Prepared α → Prepared β
  | .ready result => .ready (change result)
  | .malformed => .malformed
  | .refused failure => .refused failure
  | .lacking => .lacking

def and {α β : Type} (first : Prepared (α → β)) (second : Prepared α) :
    Prepared β :=
  match first, second with
  | .malformed, _ => .malformed
  | _, .malformed => .malformed
  | .refused failure, _ => .refused failure
  | _, .refused failure => .refused failure
  | .lacking, _ => .lacking
  | _, .lacking => .lacking
  | .ready change, .ready result => .ready (change result)

instance : Applicative Prepared where
  pure := .ready
  map := map
  seq first second := and first (second ())

/-- What was prepared, or the failure that preparing it met. -/
def toExcept {α : Type} : Prepared α → Except Failure α
  | .ready result => .ok result
  | .malformed => .error (.database .statement)
  | .refused failure => .error failure
  | .lacking => .error (.database .integrity)

end Prepared

abbrev Column (α : Type) := Value → Prepared α

namespace Column

/-- A column that may be null, given how it keeps what the store is given. -/
def keeping {α : Type} (keep : Datum → Option α) : Column (Option α) :=
  fun value =>
    match Datum.ofValue value with
    | .ok datum => .ready (keep datum)
    | .error failure => .refused failure

def required {α : Type} (column : Column (Option α)) : Column α := fun value =>
  match column value with
  | .ready (some result) => .ready result
  | .ready none => .lacking
  | .malformed => .malformed
  | .refused failure => .refused failure
  | .lacking => .lacking

/-- A column that has a value of its own where null is given. -/
def orElse {α : Type} (default : α) (column : Column α) : Column α := fun value =>
  match value with
  | .scalar .null => .ready default
  | other => column other

def text? : Column (Option TextCell) := keeping TextCell.ofDatum?

def text : Column TextCell := required text?

def count : Column CountCell := required (keeping CountCell.ofDatum?)

/-- A column of truth values, also given as the real numbers that agree with
them. -/
def truth : Column Bool := fun value =>
  match value.plain with
  | .scalar .null => .lacking
  | .scalar (.complex _ _) => .malformed
  | plain =>
    if plain.agrees (.bool true) then .ready true
    else if plain.agrees (.bool false) then .ready false
    else .malformed

/-- A column of moments, given as dates with a time of day and an offset from
universal time. -/
def moment : Column Moment := fun value =>
  match value with
  | .scalar (.datetime iso) =>
    match (IsoTime.ofDatetime iso).moment? with
    | some moment => if moment.hasDate then .ready moment else .malformed
    | none => .malformed
  | _ => .malformed

def json : Column Json := fun value =>
  match value.stored with
  | .ok given => .ready given.kept
  | .error _ => .malformed

end Column

end WorkflowExchange

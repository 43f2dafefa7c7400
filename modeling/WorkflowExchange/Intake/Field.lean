import WorkflowExchange.Intake.Rule

/-!
# Declared fields

A field of a request has a name and may have another spelling, which wins when
the data has both.  A misfit names the spelling that the data used.  A field
that may be left out is read as `Sent`, so that nothing is confused with what
was sent as null.
-/

namespace WorkflowExchange

/-- What was sent for a field, if it was sent at all. -/
abbrev Sent (α : Type) := Option α

/-- A declared field: the spelling used in requests, and its other name. -/
structure Spelling where
  outer : String
  inner : String

namespace Spelling

/-- A field with one spelling. -/
def plain (name : String) : Spelling := ⟨name, name⟩

/-- The value that data has for a field, with the spelling it used. -/
def find? (spelling : Spelling) (entries : List (Value × Value)) :
    Option (Step × Value) :=
  match Value.lookup? entries spelling.outer with
  | some value => some (.field spelling.outer, value)
  | none =>
    (Value.lookup? entries spelling.inner).map fun value =>
      (.field spelling.inner, value)

/-- Read a field that has to be there. -/
def required {α : Type} (spelling : Spelling) (rule : Rule α) (heap : Heap)
    (entries : List (Value × Value)) : Fit α :=
  match spelling.find? entries with
  | some (step, value) => (rule heap value).within step
  | none => (Fit.misfit "missing" "Field required").within (.field spelling.outer)

/-- Read a field that may be left out. -/
def sent {α : Type} (spelling : Spelling) (rule : Rule α) (heap : Heap)
    (entries : List (Value × Value)) : Fit (Sent α) :=
  match spelling.find? entries with
  | some (step, value) => some <$> (rule heap value).within step
  | none => .fits none

end Spelling

end WorkflowExchange

import WorkflowExchange.Copy.Degraded
import WorkflowExchange.Copy.Depth
import WorkflowExchange.Copy.Full
import WorkflowExchange.Log.Trial

/-!
# Safe copies

`Heap.safeCopy` makes a full copy and falls back to a one-level copy when the
full one meets a fault.  A fallback is logged as a warning; when the one-level
copy fails as well, that is logged as an error and nothing is copied.
-/

namespace WorkflowExchange

/-- A value could not be copied, not even one level of it. -/
inductive Uncopied where
  | uncopied
  deriving DecidableEq

namespace Heap

/-- The warning that a full copy met a fault. -/
def fallbackWarning (fault : Fault) : Log.Message :=
  ⟨.warning, "Safe clone failed (%s); storing a degraded copy",
    [.text fault.className]⟩

/-- The error that a one-level copy met a fault. -/
def fallbackError (fault : Fault) : Log.Message :=
  ⟨.error, "Degraded copy failed as well (%s)", [.text fault.className]⟩

/-- A full copy down to the depth of a graph, or else a one-level copy. -/
def safeCopy (heap : Heap) (value : Value) : Trial Uncopied Value :=
  match heap.copy graphDepth value with
  | .ok copied => ⟨.ok copied, []⟩
  | .error fault =>
    match heap.degradedCopy value with
    | .ok copied => ⟨.ok copied, [fallbackWarning fault]⟩
    | .error second =>
      ⟨.error .uncopied, [fallbackWarning fault, fallbackError second]⟩

end Heap

end WorkflowExchange

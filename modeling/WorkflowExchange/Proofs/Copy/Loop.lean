import Mathlib.Logic.Function.Iterate
import WorkflowExchange.Copy.Loop

/-!
# The loop makes the recursive copy

`CopyLoop.step` handles one child at a time with an explicit stack.  Run long
enough, it ends with the outcome of `Heap.copy`, whatever containers are shared,
contain themselves or cannot be read: `CopyLoop.ends_with_copy`.

The central statement is about one container on top of the stack.  Its waiting
children are all read, the identities beside the stack are the same before and
after, and each child contributes what the recursion makes of it with the levels
that are left.
-/

namespace WorkflowExchange

/-- The copy that the copied children of a container make up, unless the reading
of the container ended with a fault. -/
def Contents.close (contents : Contents) (children : List (Value × Value)) :
    Except Fault Value :=
  match contents.failure with
  | some fault => .error fault
  | none => .ok (contents.form.build children)

namespace Heap

/-- The copy of a child under its key, as the recursion makes it. -/
def copyChild (heap : Heap) (room : Nat) (trail : List Identity)
    (child : Value × Value) : Except Fault (Value × Value) := do
  let copied ← heap.copyBelow room trail child.2
  pure (child.1, copied)

variable {heap : Heap} {room : Nat} {trail : List Identity} {value : Value}
  {contents : Contents}

/-- Nothing is met again on the way to a root. -/
@[simp]
theorem onPath_nil (value : Value) : onPath [] value = false := by
  cases value <;> rfl

theorem copyBelow_leaf (leaf : heap.contents? value = none) :
    heap.copyBelow room trail value = .ok (heap.resolve value).leafCopy := by
  rw [copyBelow]
  rw [leaf]

theorem copyBelow_circular (container : heap.contents? value = some contents)
    (met : onPath trail value = true) :
    heap.copyBelow room trail value = .ok (.text Value.circularText) := by
  rw [copyBelow]
  rw [container]
  simp [met]

theorem copyBelow_truncated (container : heap.contents? value = some contents)
    (new : onPath trail value = false) :
    heap.copyBelow 0 trail value =
      .ok (.text (Value.truncatedText (heap.typeName value))) := by
  rw [copyBelow]
  rw [container]
  simp [new]

theorem copyBelow_opened (container : heap.contents? value = some contents)
    (new : onPath trail value = false) :
    heap.copyBelow (room + 1) trail value =
      contents.children.mapM (heap.copyChild room (extend trail value)) >>=
        contents.close := by
  rw [copyBelow]
  rw [container]
  simp only [new, Bool.false_eq_true, if_false]
  rfl

end Heap

/-- The container with all its children read. -/
def Frame.filled (frame : Frame) (children : List (Value × Value)) : Frame :=
  { frame with built := frame.built ++ children, waiting := [] }

namespace CopyLoop

variable {heap : Heap} {limit : Int}

/-- Some number of steps leads from one state of the loop to another. -/
def Leads (heap : Heap) (limit : Int) (first last : CopyLoop) : Prop :=
  ∃ steps, (step heap limit)^[steps] first = last

theorem Leads.refl (state : CopyLoop) : Leads heap limit state state :=
  ⟨0, rfl⟩

theorem Leads.trans {first middle last : CopyLoop}
    (before : Leads heap limit first middle)
    (after : Leads heap limit middle last) :
    Leads heap limit first last := by
  rcases before with ⟨steps, rfl⟩
  rcases after with ⟨more, rfl⟩
  exact ⟨more + steps, Function.iterate_add_apply _ _ _ _⟩

theorem Leads.of_step {first last : CopyLoop}
    (next : step heap limit first = last) :
    Leads heap limit first last :=
  ⟨1, next⟩

theorem Leads.head {first middle last : CopyLoop}
    (next : step heap limit first = middle)
    (after : Leads heap limit middle last) :
    Leads heap limit first last :=
  (Leads.of_step next).trans after

/-- A container that was entered is no longer noted once it is left. -/
theorem leave_extend {entered : List Identity} {value : Value}
    (new : Heap.onPath entered value = false) :
    leave (Heap.extend entered value) value = entered := by
  cases value with
  | shared identity =>
      have absent : identity ∉ entered := by
        simpa [Heap.onPath, Value.identity?] using new
      simp only [leave, Heap.extend, Value.identity?, Option.toList_some,
        List.singleton_append, ne_eq, Option.some.injEq]
      rw [List.filter_cons_of_neg (by simp), List.filter_eq_self]
      intro other member
      have different : identity ≠ other := by
        rintro rfl
        exact absent member
      simpa using different
  | _ => simp [leave, Heap.extend, Value.identity?]

/-! ## One container -/

/-- The state of the loop after one child of the container on top. -/
def afterChild (top : Frame) (below : List Frame) (entered : List Identity)
    (key : Value) : Except Fault Value → CopyLoop
  | .error fault => .ended (.error fault)
  | .ok copied => .running (top.put key copied) below entered

/-- The state of the loop after the last child of the container on top. -/
def afterChildren (top : Frame) (below : List Frame) (entered : List Identity) :
    Except Fault (List (Value × Value)) → CopyLoop
  | .error fault => .ended (.error fault)
  | .ok children => .running (top.filled children) below entered

/-- The loop deals with a child as the recursion does with `room` levels left. -/
def VisitsLike (heap : Heap) (limit : Int) (room : Nat) : Prop :=
  ∀ (top : Frame) (below : List Frame) (entered : List Identity)
    (key child : Value),
    (limit - top.level).toNat = room →
      Leads heap limit (visit heap limit top below entered key child)
        (afterChild top below entered key (heap.copyBelow room entered child))

theorem leads_afterChildren {room : Nat} (visits : VisitsLike heap limit room)
    (waiting : List (Value × Value)) :
    ∀ (top : Frame) (below : List Frame) (entered : List Identity),
      top.waiting = waiting → (limit - top.level).toNat = room →
        Leads heap limit (.running top below entered)
          (afterChildren top below entered
            (waiting.mapM (heap.copyChild room entered))) := by
  induction waiting with
  | nil =>
      intro top below entered read levels
      have filled : top.filled [] = top := by
        cases top
        cases read
        simp [Frame.filled]
      simp only [List.mapM_nil, pure, Except.pure, afterChildren, filled]
      exact Leads.refl _
  | cons child rest induction =>
      intro top below entered read levels
      rcases child with ⟨key, child⟩
      have next : step heap limit (.running top below entered) =
          visit heap limit { top with waiting := rest } below entered key
            child := by
        simp [step, read]
      refine Leads.head next ?_
      have visited :=
        visits { top with waiting := rest } below entered key child levels
      refine visited.trans ?_
      simp only [List.mapM_cons, Heap.copyChild]
      cases copy : heap.copyBelow room entered child with
      | error fault => exact Leads.refl _
      | ok copied =>
          have others := induction
            (Frame.put { top with waiting := rest } key copied) below entered
            rfl levels
          refine others.trans ?_
          cases rest.mapM (heap.copyChild room entered) with
          | error fault => exact Leads.refl _
          | ok children =>
              have same : (Frame.put { top with waiting := rest } key copied).filled
                  children = top.filled ((key, copied) :: children) := by
                simp [Frame.filled, Frame.put]
              simp only [afterChildren, same, bind, Except.bind, pure,
                Except.pure]
              exact Leads.refl _

/-- A container that was opened is closed again, with its copy given to the
container below it. -/
theorem leads_closed {room : Nat} (visits : VisitsLike heap limit room)
    {top : Frame} {below : List Frame} {entered : List Identity}
    {key child : Value} {contents : Contents}
    (new : Heap.onPath entered child = false)
    (levels : (limit - (top.level + 1 : Nat)).toNat = room) :
    Leads heap limit
      (.running (.opened child contents key (top.level + 1)) (top :: below)
        (Heap.extend entered child))
      (afterChild top below entered key
        (contents.children.mapM
            (heap.copyChild room (Heap.extend entered child)) >>=
          contents.close)) := by
  have read := leads_afterChildren visits contents.children
    (.opened child contents key (top.level + 1)) (top :: below)
    (Heap.extend entered child) rfl levels
  refine read.trans ?_
  cases contents.children.mapM
      (heap.copyChild room (Heap.extend entered child)) with
  | error fault => exact Leads.refl _
  | ok children =>
      refine Leads.of_step ?_
      cases failed : contents.failure with
      | some fault =>
          simp [afterChildren, step, Frame.filled, Frame.opened, failed,
            afterChild, bind, Except.bind, Contents.close]
      | none =>
          simp [afterChildren, step, Frame.filled, Frame.opened, failed, close,
            afterChild, bind, Except.bind, Contents.close, Frame.result,
            leave_extend new]

/-- A child that is no container, or a container on the stack, is not opened. -/
theorem leads_unopened {room : Nat} (top : Frame) (below : List Frame)
    (key : Value) {entered : List Identity} {child : Value}
    (unopened :
      heap.contents? child = none ∨ Heap.onPath entered child = true) :
    Leads heap limit (visit heap limit top below entered key child)
      (afterChild top below entered key
        (heap.copyBelow room entered child)) := by
  cases container : heap.contents? child with
  | none =>
      rw [Heap.copyBelow_leaf container]
      simp only [visit, container]
      exact Leads.refl _
  | some contents =>
      have met : Heap.onPath entered child = true := by
        simpa [container] using unopened
      rw [Heap.copyBelow_circular container met]
      simp only [visit, container, met, if_true]
      exact Leads.refl _

/-- The induction is on the levels that are left below the container on top. -/
theorem visitsLike (room : Nat) : VisitsLike heap limit room := by
  induction room with
  | zero =>
      intro top below entered key child levels
      by_cases unopened :
          heap.contents? child = none ∨ Heap.onPath entered child = true
      · exact leads_unopened top below key unopened
      · rw [not_or, Bool.not_eq_true] at unopened
        rcases Option.ne_none_iff_exists'.mp unopened.1 with
          ⟨contents, container⟩
        have low : limit ≤ top.level := by omega
        rw [Heap.copyBelow_truncated container unopened.2]
        simp only [visit, container, unopened.2, low, Bool.false_eq_true,
          if_false, if_true]
        exact Leads.refl _
  | succ room induction =>
      intro top below entered key child levels
      by_cases unopened :
          heap.contents? child = none ∨ Heap.onPath entered child = true
      · exact leads_unopened top below key unopened
      · rw [not_or, Bool.not_eq_true] at unopened
        rcases Option.ne_none_iff_exists'.mp unopened.1 with
          ⟨contents, container⟩
        have high : ¬ limit ≤ top.level := by omega
        rw [Heap.copyBelow_opened container unopened.2]
        simp only [visit, container, unopened.2, high, Bool.false_eq_true,
          if_false]
        exact leads_closed induction unopened.2 (by omega)

/-! ## The whole copy -/

/-- The loop ends, and its outcome is that of the recursion. -/
theorem ends_with_copy (heap : Heap) (limit : Int) (value : Value) :
    Leads heap limit (start heap value) (.ended (heap.copy limit value)) := by
  rw [start, Heap.copy]
  cases container : heap.contents? value with
  | none =>
      rw [Heap.copyBelow_leaf container]
      exact Leads.refl _
  | some contents =>
      have levels : (max 1 limit).toNat = (limit - 1).toNat + 1 := by omega
      rw [levels, Heap.copyBelow_opened container (Heap.onPath_nil value)]
      have visits : VisitsLike heap limit (limit - 1).toNat := visitsLike _
      have read := leads_afterChildren visits
        contents.children (.opened value contents .null 1) []
        (Heap.extend [] value) rfl rfl
      refine read.trans ?_
      cases contents.children.mapM
          (heap.copyChild (limit - 1).toNat (Heap.extend [] value)) with
      | error fault => exact Leads.refl _
      | ok children =>
          refine Leads.of_step ?_
          cases failed : contents.failure with
          | some fault =>
              simp [afterChildren, step, Frame.filled, Frame.opened, failed,
                bind, Except.bind, Contents.close]
          | none =>
              simp [afterChildren, step, Frame.filled, Frame.opened, failed,
                close, bind, Except.bind, Contents.close, Frame.result]

end CopyLoop

end WorkflowExchange

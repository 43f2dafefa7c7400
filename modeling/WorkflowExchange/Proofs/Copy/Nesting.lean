import Mathlib.Logic.Relation
import WorkflowExchange.Copy.Worklist
import WorkflowExchange.Proofs.Copy.Shape

/-!
# How deep containers are nested

The nesting check counts levels without noting what it has met.  Its loop ends
with the outcome of the recursion, and of data that can be read it tells whether a
chain of containers is longer than the limit.  A container that contains itself
begins chains of every length: `Heap.chain_of_return`.
-/

namespace WorkflowExchange

/-! ## The loop -/

namespace NestingLoop

variable {heap : Heap} {limit : Nat}

/-- Some number of steps leads from one state of the loop to another. -/
def Leads (heap : Heap) (limit : Nat) : NestingLoop → NestingLoop → Prop :=
  Relation.ReflTransGen fun state next => step heap limit state = next

/-- The state of the loop after a value and everything below it. -/
def afterValue (rest : List (Value × Nat)) : Except Fault Bool → NestingLoop
  | .ok false => .running rest
  | .ok true => .ended (.ok true)
  | .error fault => .ended (.error fault)

/-- The loop deals with a value as the recursion does with `room` levels left. -/
def VisitsLike (heap : Heap) (limit room : Nat) : Prop :=
  ∀ (value : Value) (level : Nat) (rest : List (Value × Nat)),
    limit + 1 = level + room →
      Leads heap limit (visit heap limit value level rest)
        (afterValue rest (heap.isNestedBeyond room value))

theorem leads_afterValues {room level : Nat}
    (visits : VisitsLike heap limit room) (levels : limit + 1 = level + room)
    (values : List Value) (rest : List (Value × Nat)) :
    Leads heap limit
      (.running (values.map (fun value => (value, level)) ++ rest))
      (afterValue rest (anyChecked (heap.isNestedBeyond room) values)) := by
  induction values with
  | nil => exact .refl
  | cons value others induction =>
      refine .head rfl ((visits value level _ levels).trans ?_)
      rw [anyChecked]
      cases heap.isNestedBeyond room value with
      | error fault => exact .refl
      | ok beyond =>
          cases beyond with
          | true => exact .refl
          | false => exact induction

/-- The induction is on the levels that are left below the value. -/
theorem visitsLike (room : Nat) : VisitsLike heap limit room := by
  induction room with
  | zero =>
      intro value level rest levels
      have high : limit < level := by omega
      rw [visit, Heap.isNestedBeyond]
      cases (heap.resolve value).nested? with
      | none => exact .refl
      | some found =>
          rcases found with ⟨children, failure⟩
          simp only [high, if_true]
          exact .refl
  | succ room induction =>
      intro value level rest levels
      have low : ¬ limit < level := by omega
      rw [visit, Heap.isNestedBeyond]
      cases (heap.resolve value).nested? with
      | none => exact .refl
      | some found =>
          rcases found with ⟨children, failure⟩
          simp only [low, if_false]
          cases failure with
          | some fault => exact .refl
          | none =>
              exact leads_afterValues induction (by omega) children.reverse rest

/-- The loop ends, and its outcome is that of the recursion. -/
theorem ends_with_check (heap : Heap) (limit : Nat) (value : Value) :
    Leads heap limit (start value)
      (.ended (heap.isNestedBeyond limit value)) := by
  have visits : VisitsLike heap limit limit := visitsLike limit
  refine .head rfl ((visits value 1 [] (Nat.add_comm limit 1)).trans ?_)
  cases heap.isNestedBeyond limit value with
  | error fault => exact .refl
  | ok beyond =>
      cases beyond with
      | true => exact .refl
      | false => exact .single rfl

end NestingLoop

/-! ## Data -/

namespace Value

/-- What a dictionary of data has as keys: scalars of a certain kind, members of
enumerations, tuples of keys, and keys that stand in a heap. -/
inductive IsKey (fine : Scalar → Prop) : Value → Prop where
  | scalar {data : Scalar} (known : fine data) : IsKey fine (.scalar data)
  | bare (type name : String) (value : Value) :
      IsKey fine (.member type name none value)
  | based (type name : String) (base : MemberBase) {data : Scalar}
      (known : fine data) :
      IsKey fine (.member type name (some base) (.scalar data))
  | tuple (cls : TupleClass) {items : List Value}
      (parts : ∀ item ∈ items, IsKey fine item) :
      IsKey fine (.tuple cls none items)
  | shared (identity : Identity) : IsKey fine (.shared identity)

/-- Data with no reference in front of it: a scalar of a certain kind, a member
of an enumeration, or a dictionary, list or tuple that can be read. -/
inductive IsDatum (fine : Scalar → Prop) : Value → Prop where
  | scalar {data : Scalar} (known : fine data) : IsDatum fine (.scalar data)
  | bare (type name : String) (value : Value) :
      IsDatum fine (.member type name none value)
  | based (type name : String) (base : MemberBase) {data : Scalar}
      (known : fine data) :
      IsDatum fine (.member type name (some base) (.scalar data))
  | dict (type : String) {entries : List (Value × Value)}
      (keys : ∀ entry ∈ entries, IsKey fine entry.1) :
      IsDatum fine (.dict type none entries)
  | list (type : String) (items : List Value) :
      IsDatum fine (.list type none items)
  | tuple (cls : TupleClass) (items : List Value) :
      IsDatum fine (.tuple cls none items)

/-- Nesting is counted through exactly the containers of data. -/
theorem IsDatum.nested?_eq {fine : Scalar → Prop} {value : Value}
    (datum : value.IsDatum fine) :
    value.nested? =
      value.contents?.map fun contents => (contents.children.map (·.2), none) := by
  cases datum <;> simp [nested?, contents?, readable]

theorem IsDatum.failure {fine : Scalar → Prop} {value : Value}
    {contents : Contents} (datum : value.IsDatum fine)
    (container : value.contents? = some contents) : contents.failure = none := by
  cases datum <;> cases container <;> rfl

end Value

namespace Heap

/-- Is everything data that a path from a value leads to? -/
def IsData (heap : Heap) (fine : Scalar → Prop) (root : Value) : Prop :=
  ∀ path above last, heap.Along root path above last →
    (heap.resolve last).IsDatum fine

variable {heap : Heap} {fine : Scalar → Prop} {root value : Value}
  {contents : Contents}

theorem IsData.datum (data : heap.IsData fine value) :
    (heap.resolve value).IsDatum fine :=
  data [] [] value (.root value)

theorem IsData.child {child : Value × Value} (data : heap.IsData fine value)
    (container : heap.contents? value = some contents)
    (held : child ∈ contents.children) : heap.IsData fine child.2 := by
  intro path above last along
  rcases List.mem_iff_getElem?.mp held with ⟨position, held⟩
  exact data _ _ last (.child container held along)

theorem IsData.readable (data : heap.IsData fine root) : heap.Readable root := by
  intro path above last contents along container
  exact (data path above last along).failure container

/-- Values are data that lie in a set of data which is closed under children. -/
theorem isData_of_closed (inside : Value → Prop)
    (datum : ∀ value, inside value → (heap.resolve value).IsDatum fine)
    (closed : ∀ value contents, inside value →
      heap.contents? value = some contents →
        ∀ child ∈ contents.children, inside child.2)
    (rooted : inside root) : heap.IsData fine root := by
  intro path above last along
  induction along with
  | root value => exact datum value rooted
  | child outer held further induction =>
      exact induction (closed _ _ rooted outer _ (List.mem_of_getElem? held))

/-! ## Chains -/

/-- Chains of containers, each of them a child of the one before, that begin at a
value.  A container may be on a chain many times. -/
inductive Chain (heap : Heap) : Nat → Value → Prop where
  | last {value : Value} {contents : Contents}
      (container : heap.contents? value = some contents) : Chain heap 1 value
  | more {length : Nat} {value : Value} {contents : Contents}
      {child : Value × Value}
      (container : heap.contents? value = some contents)
      (held : child ∈ contents.children)
      (further : Chain heap length child.2) : Chain heap (length + 1) value

theorem Chain.container {length : Nat} (chain : heap.Chain length value) :
    ∃ contents, heap.contents? value = some contents := by
  cases chain with
  | last container => exact ⟨_, container⟩
  | more container held further => exact ⟨_, container⟩

theorem not_chain_of_leaf {length : Nat} (leaf : heap.contents? value = none) :
    ¬ heap.Chain length value := by
  intro chain
  rcases chain.container with ⟨contents, container⟩
  rw [leaf] at container
  cases container

/-- The end of a chain can be left out. -/
theorem Chain.shorter {length : Nat} (chain : heap.Chain length value) :
    ∀ {less : Nat}, less < length → heap.Chain (less + 1) value := by
  induction chain with
  | last container =>
      intro less short
      obtain rfl : less = 0 := by omega
      exact .last container
  | @more length value contents child container held further induction =>
      intro less short
      cases less with
      | zero => exact .last container
      | succ less => exact .more container held (induction (by omega))

/-- The containers on a path come before a chain that begins at its end. -/
theorem Chain.along {last : Value} {path : List Nat} {above : List Value}
    (along : heap.Along value path above last) {length : Nat}
    (chain : heap.Chain length last) :
    heap.Chain (length + above.length) value := by
  induction along with
  | root value => exact chain
  | child container held further induction =>
      exact .more container (List.mem_of_getElem? held) (induction chain)

theorem chain_succ_succ {length : Nat}
    (container : heap.contents? value = some contents) :
    heap.Chain (length + 2) value ↔
      ∃ child ∈ contents.children.map (·.2), heap.Chain (length + 1) child := by
  constructor
  · intro chain
    cases chain with
    | more found held further =>
        obtain rfl := Option.some.inj (found.symm.trans container)
        exact ⟨_, List.mem_map_of_mem held, further⟩
  · rintro ⟨child, member, further⟩
    rcases List.mem_map.mp member with ⟨found, held, rfl⟩
    exact .more container held further

/-! ## Coming back -/

theorem eq_of_same {one other : Value} (same : one.Same other) : one = other := by
  rcases same with ⟨identity, first, second⟩
  cases one <;> cases first
  cases other <;> cases second
  rfl

/-- A container on a path is the beginning of the rest of it. -/
theorem Along.suffix {last container : Value} {path : List Nat}
    {above : List Value} (along : heap.Along value path above last)
    (member : container ∈ above) :
    ∃ rest inner, heap.Along container rest inner last ∧ 0 < inner.length := by
  induction along with
  | root value => cases member
  | @child value last contents position child rest above outer held further
      induction =>
      rcases List.mem_cons.mp member with rfl | member
      · exact ⟨_, _, .child outer held further, Nat.succ_pos _⟩
      · exact induction member

/-- A container that contains itself begins chains of every length. -/
theorem chain_of_return {path : List Nat} {above : List Value}
    (along : heap.Along value path above value) (further : 0 < above.length)
    (container : heap.contents? value = some contents) (length : Nat) :
    heap.Chain (length + 1) value := by
  induction length with
  | zero => exact .last container
  | succ length induction =>
      have longer := Chain.along along induction
      exact longer.shorter (by omega)

/-! ## The check -/

/-- What is checked of each value is checked of some value of a list. -/
theorem anyChecked_eq_ok {check : Value → Except Fault Bool}
    {holds : Value → Prop} {values : List Value}
    (each : ∀ value ∈ values,
      ∃ answer, check value = .ok answer ∧ (answer = true ↔ holds value)) :
    ∃ answer, anyChecked check values = .ok answer ∧
      (answer = true ↔ ∃ value ∈ values, holds value) := by
  induction values with
  | nil => exact ⟨false, rfl, by simp⟩
  | cons value rest induction =>
      rcases List.forall_mem_cons.mp each with ⟨⟨answer, checked, first⟩, each⟩
      rcases induction each with ⟨later, others, rested⟩
      rw [anyChecked, checked]
      cases answer with
      | true => exact ⟨true, rfl, by simp [first.mp rfl]⟩
      | false =>
          refine ⟨later, others, ?_⟩
          have absent : ¬ holds value := fun held => by simpa using first.mpr held
          rw [rested]
          simp [absent]

/-- A check holds of no value of a list exactly when it answers so for each. -/
theorem anyChecked_eq_false {check : Value → Except Fault Bool}
    {values : List Value} :
    anyChecked check values = .ok false ↔
      ∀ value ∈ values, check value = .ok false := by
  induction values with
  | nil => simp [anyChecked]
  | cons value rest induction =>
      rw [anyChecked, List.forall_mem_cons, ← induction]
      cases check value with
      | error fault => simp [bind, Except.bind]
      | ok answer => cases answer <;> simp [bind, Except.bind]

/-- The check tells of data whether a chain is longer than the limit.  The
induction is on the limit; each level of containers uses up one. -/
theorem isNestedBeyond_iff_chain (limit : Nat) :
    ∀ value, heap.IsData fine value →
      ∃ beyond, heap.isNestedBeyond limit value = .ok beyond ∧
        (beyond = true ↔ heap.Chain (limit + 1) value) := by
  induction limit with
  | zero =>
      intro value data
      rw [isNestedBeyond, data.datum.nested?_eq, ← contents?]
      cases container : heap.contents? value with
      | none =>
          exact ⟨false, rfl,
            iff_of_false Bool.false_ne_true (not_chain_of_leaf container)⟩
      | some contents => exact ⟨true, rfl, iff_of_true rfl (.last container)⟩
  | succ limit induction =>
      intro value data
      rw [isNestedBeyond, data.datum.nested?_eq, ← contents?]
      cases container : heap.contents? value with
      | none =>
          exact ⟨false, rfl,
            iff_of_false Bool.false_ne_true (not_chain_of_leaf container)⟩
      | some contents =>
          have each : ∀ child ∈ (contents.children.map (·.2)).reverse,
              ∃ beyond, heap.isNestedBeyond limit child = .ok beyond ∧
                (beyond = true ↔ heap.Chain (limit + 1) child) := by
            intro child member
            rw [List.mem_reverse, List.mem_map] at member
            rcases member with ⟨held, member, rfl⟩
            exact induction held.2 (data.child container member)
          rcases anyChecked_eq_ok each with ⟨beyond, checked, found⟩
          refine ⟨beyond, checked, ?_⟩
          rw [found, chain_succ_succ container]
          simp only [List.mem_reverse]

end Heap

end WorkflowExchange

import WorkflowExchange.Proofs.Copy.Graph
import WorkflowExchange.Proofs.Copy.Nesting

/-!
# Copies of copies

A full copy is a tree of plain containers with no more levels than the limit that
it was made with, and with values at its ends that copying keeps: `Value.Tree`.
Such a tree passes the nesting check and is its own copy, whatever its source was
cut off at, came back to or was made of.

A copied graph has its own four parts, and each of them is counted from its own
root.  So a graph that was copied without a fallback is its own copy as well, and
nothing is logged the second time: `Heap.copyGraph_toValue`.
-/

namespace WorkflowExchange

namespace Value

/-- A value that copying keeps as it is: no reference, no container and nothing
foreign. -/
structure Single (value : Value) : Prop where
  reference : value.identity? = none
  container : value.contents? = none
  copied : value.leafCopy = value

theorem single_text (content : String) : (text content).Single :=
  ⟨rfl, rfl, rfl⟩

/-- The copy of a value that is no container is kept by the next copy. -/
theorem single_leafCopy {value : Value} (reference : value.identity? = none)
    (leaf : value.contents? = none) : value.leafCopy.Single := by
  cases value with
  | foreign thing => exact single_text _
  | scalar | member | set | loop => exact ⟨rfl, rfl, rfl⟩
  | shared identity => cases reference
  | dict | list | tuple | record => cases leaf

theorem Single.resolve {value : Value} (single : value.Single) (heap : Heap) :
    heap.resolve value = value := by
  cases value with
  | shared identity => cases single.reference
  | scalar | member | foreign | set | dict | list | tuple | record | loop => rfl

theorem Single.nested? {value : Value} (single : value.Single) :
    value.nested? = none := by
  cases value with
  | dict | list | tuple => cases single.container
  | scalar | member | foreign | set | record | shared | loop => rfl

/-- A tree of plain containers on at most so many levels. -/
inductive Tree : Nat → Value → Prop where
  | single (room : Nat) {value : Value} (kept : value.Single) : Tree room value
  | built {room : Nat} (form : Form) {children : List (Value × Value)}
      (parts : ∀ child ∈ children, Tree room child.2) :
      Tree (room + 1) (form.build children)

end Value

theorem Form.nested?_build (form : Form) (children : List (Value × Value)) :
    (form.build children).nested? = some (children.map (·.2), none) := by
  cases form <;> rfl

theorem Form.resolve_build (form : Form) (children : List (Value × Value))
    (heap : Heap) : heap.resolve (form.build children) = form.build children := by
  cases form <;> rfl

namespace Heap

variable {heap : Heap} {room : Nat} {trail : List Identity}

/-- Whatever was copied, the copy is a tree.  The induction is on the levels that
are left: an opened container has used up one of them. -/
theorem tree_of_copyBelow (settled : heap.Settled) (room : Nat) :
    ∀ {trail : List Identity} {value copied : Value},
      heap.copyBelow room trail value = .ok copied → copied.Tree room := by
  induction room using Nat.strongRecOn with
  | ind room induction =>
      intro trail value copied made
      rcases leaf_or_text_or_opened made with ⟨leaf, rfl⟩ | ⟨content, rfl⟩ |
        ⟨contents, children, less, -, -, rfl, rfl, opened⟩
      · exact .single room (Value.single_leafCopy (settled.resolve value) leaf)
      · exact .single room (Value.single_text content)
      · refine .built contents.form fun child held => ?_
        rcases List.mem_iff_getElem?.mp held with ⟨position, held⟩
        rcases exists_getElem?_of_forall₂ opened.copies.flip held with
          ⟨original, -, childMade⟩
        exact induction less (Nat.lt_succ_self less) childMade.2

theorem mapM_copyChild_eq_self {children : List (Value × Value)}
    (each : ∀ child ∈ children,
      heap.copyBelow room trail child.2 = .ok child.2) :
    children.mapM (heap.copyChild room trail) = .ok children := by
  induction children with
  | nil => rfl
  | cons child rest induction =>
      rcases List.forall_mem_cons.mp each with ⟨first, others⟩
      rw [List.mapM_cons, copyChild, first, induction others]
      rfl

/-- A tree is its own copy, in whatever heap and below whatever containers. -/
theorem copyBelow_of_tree {value : Value} (tree : value.Tree room) (heap : Heap) :
    ∀ trail : List Identity, heap.copyBelow room trail value = .ok value := by
  induction tree with
  | @single room value kept =>
      intro trail
      have leaf : heap.contents? value = none := by
        rw [contents?, kept.resolve, kept.container]
      rw [copyBelow_leaf leaf, kept.resolve, kept.copied]
  | @built room form children parts induction =>
      intro trail
      have new : onPath trail (form.build children) = false := by
        cases form <;> rfl
      rw [copyBelow_opened (contents?_build_eq heap form children) new,
        mapM_copyChild_eq_self]
      · change Except.ok (form.build (form.numbered children)) = _
        rw [Form.build_numbered]
      · intro child held
        have member : child.2 ∈ children.map (·.2) := by
          rw [← Form.map_snd_numbered form children]
          exact List.mem_map_of_mem held
        rcases List.mem_map.mp member with ⟨original, held, same⟩
        rw [← same]
        exact induction original held _

/-- A tree is not nested beyond its levels. -/
theorem isNestedBeyond_of_tree {value : Value} (tree : value.Tree room)
    (heap : Heap) : heap.isNestedBeyond room value = .ok false := by
  induction tree with
  | single room kept =>
      rw [isNestedBeyond.eq_def, kept.resolve, kept.nested?]
  | @built room form children parts induction =>
      rw [isNestedBeyond, Form.resolve_build, Form.nested?_build]
      refine anyChecked_eq_false.mpr fun value member => ?_
      rcases List.mem_map.mp (List.mem_reverse.mp member) with ⟨child, held, rfl⟩
      exact induction child held

/-- Of a JSON form nothing more is cut off the second time. -/
theorem cut_cut (room : Nat) (json : Json) :
    (json.cut room).cut room = json.cut room := by
  have settled : empty.Settled := fun _ => rfl
  have once : empty.copyBelow room [] (.ofJson json) = .ok (.ofJson (json.cut room)) :=
    copyBelow_ofJson room json
  have again := copyBelow_of_tree (tree_of_copyBelow settled room once) empty []
  rw [copyBelow_ofJson] at again
  exact Value.ofJson_injective (Except.ok.inj again)

theorem tree_of_copy {limit : Nat} {value copied : Value} (settled : heap.Settled)
    (positive : 0 < limit) (made : heap.copy limit value = .ok copied) :
    copied.Tree limit := by
  have levels : (max 1 (limit : Int)).toNat = limit := by omega
  rw [copy, levels] at made
  exact tree_of_copyBelow settled limit made

theorem copy_of_tree {limit : Nat} {value : Value} (positive : 0 < limit)
    (tree : value.Tree limit) (heap : Heap) :
    heap.copy limit value = .ok value := by
  have levels : (max 1 (limit : Int)).toNat = limit := by omega
  rw [copy, levels, copyBelow_of_tree tree]

/-! ## Copies of copied graphs -/

/-- A trial gives a result, and no full copy on the way met a fault. -/
structure Undegraded {ε α : Type} (trial : Trial ε α) (result : α) : Prop where
  outcome : trial.outcome = .ok result
  full : ∀ fault, fallbackWarning fault ∉ trial.messages

theorem undegraded_bind {ε α β : Type} {trial : Trial ε α} {next : α → Trial ε β}
    {result : β} (both : Undegraded (trial >>= next) result) :
    ∃ middle, Undegraded trial middle ∧ Undegraded (next middle) result := by
  rcases Trial.outcome_bind_eq_ok.mp both.outcome with ⟨middle, first, second⟩
  have full := both.full
  rw [Trial.messages_bind, first] at full
  exact ⟨middle,
    ⟨first, fun fault held => full fault (List.mem_append_left _ held)⟩,
    ⟨second, fun fault held => full fault (List.mem_append_right _ held)⟩⟩

theorem tree_of_copyPart {value copied : Value} (settled : heap.Settled)
    (made : Undegraded (heap.copyPart value) copied) :
    copied.Tree graphDepth := by
  rcases made with ⟨outcome, full⟩
  rw [copyPart, safeCopy] at outcome full
  cases whole : heap.copy graphDepth value with
  | ok result =>
      rw [whole] at outcome
      cases outcome
      exact tree_of_copy settled (by decide) whole
  | error fault =>
      rw [whole] at full
      cases second : heap.degradedCopy value <;>
        exact absurd (by simp [second]) (full fault)

theorem trees_of_copyNodes (settled : heap.Settled) :
    ∀ {nodes copies : List Value}, Undegraded (heap.copyNodes nodes) copies →
      ∀ copy ∈ copies, copy.Tree graphDepth
  | [], copies, made => by
      cases made.outcome
      simp
  | node :: rest, copies, made => by
      rw [copyNodes] at made
      by_cases dictionary : (heap.resolve node).isDict
      · rw [if_pos dictionary] at made
        rcases undegraded_bind made with ⟨first, firstMade, made⟩
        rcases undegraded_bind made with ⟨others, othersMade, built⟩
        have trees := trees_of_copyNodes settled othersMade
        have tree := tree_of_copyPart settled firstMade
        cases built.outcome
        by_cases kept : first.isDict
        · rw [if_pos kept]
          exact List.forall_mem_cons.mpr ⟨tree, trees⟩
        · rw [if_neg kept]
          exact trees
      · rw [if_neg dictionary] at made
        rcases undegraded_bind made with ⟨_, -, made⟩
        exact trees_of_copyNodes settled made

end Heap

/-- Each part of a graph is a tree no deeper than a graph may be. -/
structure GraphCopy.Shallow (graph : GraphCopy) : Prop where
  nodes : ∀ node ∈ graph.nodes, node.Tree Heap.graphDepth
  connections : graph.connections.Tree Heap.graphDepth
  settings : graph.settings.Tree Heap.graphDepth
  staticData : graph.staticData.Tree Heap.graphDepth

namespace Heap

variable {heap : Heap}

theorem tree_dictOr {room : Nat} {other value : Value} (first : other.Tree room)
    (second : value.Tree room) : (dictOr other value).Tree room := by
  rw [dictOr]
  by_cases dictionary : value.isDict
  · rw [if_pos dictionary]
    exact second
  · rw [if_neg dictionary]
    exact first

/-- Whatever graph was copied without a fallback, the copy has shallow parts. -/
theorem shallow_of_copyGraph {source : Value} {graph : GraphCopy}
    (settled : heap.Settled) (made : Undegraded (heap.copyGraph source) graph) :
    graph.Shallow := by
  rw [copyGraph] at made
  rcases undegraded_bind made with ⟨_, -, made⟩
  rcases undegraded_bind made with ⟨nodes, nodesMade, made⟩
  rcases undegraded_bind made with ⟨_, -, made⟩
  rcases undegraded_bind made with ⟨_, -, made⟩
  rcases undegraded_bind made with ⟨connections, connectionsMade, made⟩
  rcases undegraded_bind made with ⟨_, -, made⟩
  rcases undegraded_bind made with ⟨settings, settingsMade, made⟩
  rcases undegraded_bind made with ⟨_, -, made⟩
  rcases undegraded_bind made with ⟨staticData, staticDataMade, made⟩
  cases made.outcome
  have emptyTree : (Value.plainDict []).Tree graphDepth :=
    .built .dict (by simp)
  have nullTree : Value.null.Tree graphDepth := .single _ ⟨rfl, rfl, rfl⟩
  exact
    { nodes := trees_of_copyNodes settled nodesMade
      connections :=
        tree_dictOr emptyTree (tree_of_copyPart settled connectionsMade)
      settings := tree_dictOr nullTree (tree_of_copyPart settled settingsMade)
      staticData :=
        tree_dictOr nullTree (tree_of_copyPart settled staticDataMade) }

theorem copyPart_of_tree {value : Value} (tree : value.Tree graphDepth)
    (heap : Heap) : heap.copyPart value = pure value := by
  have again := copy_of_tree (by decide) tree heap
  rw [copyPart, safeCopy, again]
  rfl

/-- A dictionary that is a tree is plain, and it is no reference. -/
theorem plainDict_of_tree {room : Nat} {value : Value} (tree : value.Tree room)
    (dictionary : value.isDict) : ∃ entries, value = .plainDict entries := by
  cases tree with
  | single room kept =>
      cases value with
      | dict => cases kept.container
      | _ => cases dictionary
  | @built room form children parts =>
      cases form with
      | dict => exact ⟨children, rfl⟩
      | list | tuple => cases dictionary

theorem copyNodes_of_trees (heap : Heap) :
    ∀ {nodes : List Value}, (∀ node ∈ nodes, node.isDict) →
      (∀ node ∈ nodes, node.Tree graphDepth) → heap.copyNodes nodes = pure nodes
  | [], _, _ => rfl
  | node :: rest, dictionaries, trees => by
      rcases List.forall_mem_cons.mp dictionaries with ⟨dictionary, others⟩
      rcases List.forall_mem_cons.mp trees with ⟨tree, shallow⟩
      rcases plainDict_of_tree tree dictionary with ⟨entries, rfl⟩
      rw [copyNodes, copyPart_of_tree tree, copyNodes_of_trees heap others shallow]
      rfl

/-- A graph with shallow parts of the declared kinds is its own copy, and nothing
is logged. -/
theorem copyGraph_toValue {graph : GraphCopy} (declared : graph.Declared)
    (shallow : graph.Shallow) (heap : Heap) :
    heap.copyGraph graph.toValue = pure graph := by
  have nodes := copyNodes_of_trees heap declared.nodes shallow.nodes
  rcases plainDict_of_tree shallow.connections declared.connections with
    ⟨entries, connections⟩
  -- Empty connections are replaced by a new dictionary, which is the same value.
  have given : (if (heap.resolve graph.connections).isEmpty then .plainDict []
      else graph.connections : Value) = graph.connections := by
    rw [connections]
    cases entries <;> rfl
  have kept {value : Value} (known : value.isDict ∨ value = .null) :
      dictOr .null value = value := by
    rcases known with dictionary | rfl
    · rw [dictOr, if_pos dictionary]
    · rfl
  change (heap.copyNodes graph.nodes >>= fun nodes =>
    heap.copyPart (if (heap.resolve graph.connections).isEmpty then .plainDict []
      else graph.connections) >>= fun connections =>
    heap.copyPart graph.settings >>= fun settings =>
    heap.copyPart graph.staticData >>= fun staticData =>
    pure (GraphCopy.mk nodes (dictOr (.plainDict []) connections)
      (dictOr .null settings) (dictOr .null staticData))) = _
  rw [nodes, given, copyPart_of_tree shallow.connections,
    copyPart_of_tree shallow.settings, copyPart_of_tree shallow.staticData]
  change pure (GraphCopy.mk graph.nodes (dictOr (.plainDict []) graph.connections)
    (dictOr .null graph.settings) (dictOr .null graph.staticData)) = _
  rw [dictOr, if_pos declared.connections, kept declared.settings,
    kept declared.staticData]

end Heap

end WorkflowExchange

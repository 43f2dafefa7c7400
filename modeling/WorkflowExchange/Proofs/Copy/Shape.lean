import Mathlib.Data.List.Forall2
import WorkflowExchange.Proofs.Copy.Loop

/-!
# The shape of a full copy

A heap may hold containers that are shared and containers that contain
themselves, so that there can be infinitely many paths through it.  A path is
live when the containers on it are different objects and fewer than the levels
that a copy keeps.  The copy has a container at exactly the live paths, and each
child below a live path is one of four things: the copy of a single value, the
text for a container that is on the path already, the text for a container that
is too deep, or again a container.

The paths of the source and those of the copy are related by two inductions,
one along a path of each: what stands in the copy at a path is the copy of what
stands there in the source, made with the levels that are left.
-/

namespace WorkflowExchange

/-- Do two values refer to the same object?  A container that is written in
place is a part of one container only, so a path comes back to it only through
an object that has an identity. -/
def Value.Same (one other : Value) : Prop :=
  ∃ identity, one.identity? = some identity ∧ other.identity? = some identity

namespace Form

/-- The children of a built container as they are read again: those of lists and
tuples have their index as key, whatever key they were put under. -/
def numbered (form : Form) (children : List (Value × Value)) :
    List (Value × Value) :=
  match form with
  | .dict => children
  | .list | .tuple => indexed 0 (children.map (·.2))

@[simp]
theorem map_snd_numbered (form : Form) (children : List (Value × Value)) :
    (form.numbered children).map (·.2) = children.map (·.2) := by
  cases form <;> simp [numbered]

@[simp]
theorem build_numbered (form : Form) (children : List (Value × Value)) :
    form.build (form.numbered children) = form.build children := by
  cases form <;> simp [numbered, build]

end Form

namespace Heap

/-- A path from a value, given by the position of each child among its
siblings, with the containers above its end and the value at its end. -/
inductive Along (heap : Heap) :
    Value → List Nat → List Value → Value → Prop where
  | root (value : Value) : heap.Along value [] [] value
  | child {value last : Value} {contents : Contents} {position : Nat}
      {child : Value × Value} {rest : List Nat} {above : List Value}
      (container : heap.contents? value = some contents)
      (held : contents.children[position]? = some child)
      (further : heap.Along child.2 rest above last) :
      heap.Along value (position :: rest) (value :: above) last

/-- Does a path lead to a container? -/
def HasContainer (heap : Heap) (root : Value) (path : List Nat) : Prop :=
  ∃ above last contents,
    heap.Along root path above last ∧ heap.contents? last = some contents

/-- A path to a container whose containers are different objects and fewer than
a limit allows. -/
structure Live (heap : Heap) (limit : Nat) (root : Value) (path : List Nat)
    (above : List Value) (last : Value) (contents : Contents) : Prop where
  along : heap.Along root path above last
  container : heap.contents? last = some contents
  different : (above ++ [last]).Pairwise fun one other => ¬ one.Same other
  shallow : path.length < limit

/-- What a copy holds for a child below some containers: the same key, the copy
of a value that is no container, and a text exactly for a container that is one
of those above or that has no level left. -/
structure ChildCopied (heap : Heap) (limit : Nat) (containers : List Value)
    (source copied : Value × Value) : Prop where
  key : copied.1 = source.1
  leaf : heap.contents? source.2 = none →
    copied.2 = (heap.resolve source.2).leafCopy
  circular : (heap.contents? source.2).isSome →
    (copied.2 = .text Value.circularText ↔
      ∃ container ∈ containers, container.Same source.2)
  truncated : (heap.contents? source.2).isSome →
    (copied.2 = .text (Value.truncatedText (heap.typeName source.2)) ↔
      (¬ ∃ container ∈ containers, container.Same source.2) ∧
        limit ≤ containers.length)

/-- What a copy is, path by path.  A container of the copy is a plain one of the
form of its source, with the same keys in the same order. -/
structure CopiedAs (heap : Heap) (limit : Nat) (root copied : Value) :
    Prop where
  leaf : heap.contents? root = none → copied = (heap.resolve root).leafCopy
  live : ∀ path, empty.HasContainer copied path ↔
    ∃ above last contents, heap.Live limit root path above last contents
  children : ∀ path above last contents,
    heap.Live limit root path above last contents →
      ∃ inner children,
        empty.Along copied path inner (contents.form.build children) ∧
          List.Forall₂ (heap.ChildCopied limit (above ++ [last]))
            contents.children children

/-- Can every container be read that a path from a value leads to? -/
def Readable (heap : Heap) (root : Value) : Prop :=
  ∀ path above last contents, heap.Along root path above last →
    heap.contents? last = some contents → contents.failure = none

/-! ## Paths -/

theorem Along.length_eq {heap : Heap} {value last : Value} {path : List Nat}
    {above : List Value} (along : heap.Along value path above last) :
    above.length = path.length := by
  induction along with
  | root => rfl
  | child container held further induction => simp [induction]

theorem Readable.failure {heap : Heap} {value : Value} {contents : Contents}
    (readable : heap.Readable value)
    (container : heap.contents? value = some contents) :
    contents.failure = none :=
  readable [] [] value contents (.root value) container

theorem Readable.child {heap : Heap} {value : Value} {contents : Contents}
    {child : Value × Value} (readable : heap.Readable value)
    (container : heap.contents? value = some contents)
    (held : child ∈ contents.children) : heap.Readable child.2 := by
  intro path above last inner along found
  rcases List.mem_iff_getElem?.mp held with ⟨position, held⟩
  exact readable _ _ last inner (.child container held along) found

/-- Values can be read that lie in a set which is closed under children and of
which every container can be read. -/
theorem readable_of_closed {heap : Heap} (inside : Value → Prop)
    (closed : ∀ value contents, inside value →
      heap.contents? value = some contents →
        contents.failure = none ∧ ∀ child ∈ contents.children, inside child.2)
    {root : Value} (rooted : inside root) : heap.Readable root := by
  intro path above last contents along container
  induction along with
  | root value => exact (closed value contents rooted container).1
  | child outer held further induction =>
      refine induction ?_ container
      exact (closed _ _ rooted outer).2 _ (List.mem_of_getElem? held)

/-! ## Identities -/

@[simp]
theorem onPath_extend (trail : List Identity) (value other : Value) :
    onPath (extend trail value) other = true ↔
      value.Same other ∨ onPath trail other = true := by
  unfold onPath extend Value.Same
  cases other.identity? with
  | none => simp
  | some identity =>
      cases value.identity? with
      | none => simp
      | some first => simp [eq_comm (a := first)]

theorem onPath_foldl_extend (containers : List Value) (trail : List Identity)
    (value : Value) :
    onPath (containers.foldl extend trail) value = true ↔
      (∃ container ∈ containers, container.Same value) ∨
        onPath trail value = true := by
  induction containers generalizing trail with
  | nil => simp
  | cons container rest induction =>
      rw [List.foldl_cons, induction, onPath_extend]
      simp only [List.mem_cons, exists_eq_or_imp]
      rw [← or_assoc, or_comm (b := container.Same value)]

/-- A reference of the heap leads to something that is no reference. -/
def Settled (heap : Heap) : Prop :=
  ∀ identity, (heap.resolve (.shared identity)).identity? = none

theorem Settled.resolve {heap : Heap} (settled : heap.Settled) (value : Value) :
    (heap.resolve value).identity? = none := by
  cases value with
  | shared identity => exact settled identity
  | scalar | member | foreign | set | dict | list | tuple | record | loop => rfl

/-! ## What the copy of one value is -/

theorem exists_getElem?_of_forall₂ {α β : Type} {related : α → β → Prop}
    {ones : List α} {others : List β}
    (paired : List.Forall₂ related ones others) :
    ∀ {position : Nat} {one : α}, ones[position]? = some one →
      ∃ other, others[position]? = some other ∧ related one other := by
  induction paired with
  | nil =>
      intro position one held
      simp at held
  | @cons first second ones others head tail induction =>
      intro position one held
      cases position with
      | zero =>
          cases held
          exact ⟨second, rfl, head⟩
      | succ position => exact induction held

theorem exists_getElem?_of_map_eq {one other : List (Value × Value)}
    (same : one.map (·.2) = other.map (·.2)) {position : Nat}
    {item : Value × Value} (held : other[position]? = some item) :
    ∃ found, one[position]? = some found ∧ found.2 = item.2 := by
  have mapped : (one.map (·.2))[position]? = some item.2 := by
    rw [same, List.getElem?_map, held]
    rfl
  rw [List.getElem?_map] at mapped
  exact Option.map_eq_some_iff.mp mapped

/-- The copies of some children, each made on its own. -/
theorem forall₂_of_copyChild {heap : Heap} {room : Nat}
    {trail : List Identity} :
    ∀ {sources copies : List (Value × Value)},
      sources.mapM (heap.copyChild room trail) = .ok copies →
        List.Forall₂
          (fun source copied => copied.1 = source.1 ∧
            heap.copyBelow room trail source.2 = .ok copied.2)
          sources copies
  | [], copies, made => by
      cases made
      exact .nil
  | source :: rest, copies, made => by
      simp only [List.mapM_cons, copyChild] at made
      cases first : heap.copyBelow room trail source.2 with
      | error fault => simp [first, bind, Except.bind] at made
      | ok copied =>
          cases others : rest.mapM (heap.copyChild room trail) with
          | error fault => simp [first, others, bind, Except.bind, pure,
              Except.pure] at made
          | ok copies =>
              simp only [first, others, bind, Except.bind, pure,
                Except.pure] at made
              cases made
              exact .cons ⟨rfl, first⟩ (forall₂_of_copyChild others)

/-- What an opened container has become. -/
structure Opened (heap : Heap) (room : Nat) (trail : List Identity)
    (value : Value) (contents : Contents)
    (children : List (Value × Value)) : Prop where
  failure : contents.failure = none
  copies : List.Forall₂
    (fun source copied => copied.1 = source.1 ∧
      heap.copyBelow room (extend trail value) source.2 = .ok copied.2)
    contents.children children

/-- The copy of a container that is opened. -/
theorem opened_of_copyBelow {heap : Heap} {room : Nat}
    {trail : List Identity} {value copied : Value} {contents : Contents}
    (container : heap.contents? value = some contents)
    (new : onPath trail value = false)
    (made : heap.copyBelow (room + 1) trail value = .ok copied) :
    ∃ children, copied = contents.form.build children ∧
      heap.Opened room trail value contents children := by
  rw [copyBelow_opened container new] at made
  cases read :
      contents.children.mapM (heap.copyChild room (extend trail value)) with
  | error fault => simp [read, bind, Except.bind] at made
  | ok children =>
      simp only [read, bind, Except.bind, Contents.close] at made
      cases failure : contents.failure with
      | some fault => simp [failure] at made
      | none =>
          simp only [failure, Except.ok.injEq] at made
          exact ⟨children, made.symm, failure, forall₂_of_copyChild read⟩

/-- The copy of a value that is no container is none either. -/
theorem contents?_leafCopy {heap : Heap} {value : Value}
    (leaf : heap.contents? value = none) :
    empty.contents? (heap.resolve value).leafCopy = none := by
  rw [contents?] at leaf
  cases resolved : heap.resolve value <;>
    simp_all [Value.contents?, contents?, Value.leafCopy, resolve, empty,
      Value.null]

/-- The contents of a container that was built, in whatever heap it is read. -/
theorem contents?_build_eq (heap : Heap) (form : Form)
    (children : List (Value × Value)) :
    heap.contents? (form.build children) =
      some ⟨form, form.numbered children, none⟩ := by
  cases form <;> rfl

/-- A container that was built has the children that it was built from. -/
theorem contents?_build (form : Form) (children : List (Value × Value)) :
    ∃ contents, empty.contents? (form.build children) = some contents ∧
      contents.children.map (·.2) = children.map (·.2) :=
  ⟨_, contents?_build_eq empty form children, form.map_snd_numbered children⟩

/-- What a copy can be: the copy of a value that is no container, a text, or what an
opened container has become. -/
theorem leaf_or_text_or_opened {heap : Heap} {room : Nat} {trail : List Identity}
    {value copied : Value}
    (made : heap.copyBelow room trail value = .ok copied) :
    (heap.contents? value = none ∧ copied = (heap.resolve value).leafCopy) ∨
      (∃ content, copied = .text content) ∨
        ∃ contents children less, heap.contents? value = some contents ∧
          onPath trail value = false ∧ room = less + 1 ∧
          copied = contents.form.build children ∧
          heap.Opened less trail value contents children := by
  cases source : heap.contents? value with
  | none =>
      rw [copyBelow_leaf source, Except.ok.injEq] at made
      exact .inl ⟨rfl, made.symm⟩
  | some contents =>
      cases met : onPath trail value with
      | true =>
          rw [copyBelow_circular source met, Except.ok.injEq] at made
          exact .inr (.inl ⟨_, made.symm⟩)
      | false =>
          cases room with
          | zero =>
              rw [copyBelow_truncated source met, Except.ok.injEq] at made
              exact .inr (.inl ⟨_, made.symm⟩)
          | succ less =>
              rcases opened_of_copyBelow source met made with
                ⟨children, built, opened⟩
              exact .inr (.inr ⟨contents, children, less, rfl, rfl, rfl, built,
                opened⟩)

/-- A container in a copy is one that was opened. -/
theorem opened_of_container {heap : Heap} {room : Nat}
    {trail : List Identity} {value copied : Value} {inner : Contents}
    (made : heap.copyBelow room trail value = .ok copied)
    (container : empty.contents? copied = some inner) :
    ∃ contents children less, heap.contents? value = some contents ∧
      onPath trail value = false ∧ room = less + 1 ∧
      copied = contents.form.build children ∧
      heap.Opened less trail value contents children := by
  rcases leaf_or_text_or_opened made with ⟨leaf, rfl⟩ | ⟨content, rfl⟩ | opened
  · rw [contents?_leafCopy leaf] at container
    cases container
  · cases container
  · exact opened

theorem exists_copyChildren {heap : Heap} {room : Nat}
    {trail : List Identity} (children : List (Value × Value))
    (each : ∀ child ∈ children,
      ∃ copied, heap.copyBelow room trail child.2 = .ok copied) :
    ∃ copies, children.mapM (heap.copyChild room trail) = .ok copies := by
  induction children with
  | nil => exact ⟨[], rfl⟩
  | cons child rest induction =>
      rcases each child List.mem_cons_self with ⟨copied, first⟩
      rcases induction fun other member =>
        each other (List.mem_cons_of_mem child member) with
          ⟨copies, others⟩
      exact ⟨(child.1, copied) :: copies, by
        simp [copyChild, first, others, bind, Except.bind, pure, Except.pure]⟩

/-- Whatever can be read can be copied. -/
theorem exists_copyBelow {heap : Heap} (room : Nat) :
    ∀ (trail : List Identity) (value : Value), heap.Readable value →
      ∃ copied, heap.copyBelow room trail value = .ok copied := by
  induction room with
  | zero =>
      intro trail value readable
      cases container : heap.contents? value with
      | none => exact ⟨_, copyBelow_leaf container⟩
      | some contents =>
          cases met : onPath trail value with
          | true => exact ⟨_, copyBelow_circular container met⟩
          | false => exact ⟨_, copyBelow_truncated container met⟩
  | succ room induction =>
      intro trail value readable
      cases container : heap.contents? value with
      | none => exact ⟨_, copyBelow_leaf container⟩
      | some contents =>
          cases met : onPath trail value with
          | true => exact ⟨_, copyBelow_circular container met⟩
          | false =>
              rw [copyBelow_opened container met]
              rcases exists_copyChildren contents.children
                fun child held =>
                  induction (extend trail value) child.2
                    (readable.child container held) with
                  ⟨copies, read⟩
              rw [read]
              exact ⟨contents.form.build copies, by
                simp [bind, Except.bind, Contents.close,
                  readable.failure container]⟩

/-! ## Source and copy along a path -/

/-- Containers that are all opened on the way: they are different objects, none
of them is on the way that leads there, and there are levels for all of them. -/
structure Passable (trail : List Identity) (room : Nat)
    (above : List Value) : Prop where
  different : above.Pairwise fun one other => ¬ one.Same other
  new : ∀ container ∈ above, onPath trail container = false
  levels : above.length ≤ room

theorem passable_cons {trail : List Identity} {room : Nat} {value : Value}
    {above : List Value} :
    Passable trail (room + 1) (value :: above) ↔
      onPath trail value = false ∧
        Passable (extend trail value) room above := by
  constructor
  · rintro ⟨different, new, levels⟩
    rw [List.pairwise_cons] at different
    refine ⟨new value List.mem_cons_self, different.2, ?_,
      Nat.le_of_succ_le_succ levels⟩
    intro container member
    rw [← Bool.not_eq_true, onPath_extend, not_or, Bool.not_eq_true]
    exact ⟨different.1 container member,
      new container (List.mem_cons_of_mem value member)⟩
  · rintro ⟨first, different, new, levels⟩
    have apart : ∀ container ∈ above,
        ¬ value.Same container ∧ onPath trail container = false := by
      intro container member
      have absent := new container member
      rwa [← Bool.not_eq_true, onPath_extend, not_or, Bool.not_eq_true]
        at absent
    refine ⟨List.pairwise_cons.mpr ⟨fun container member =>
      (apart container member).1, different⟩, ?_, Nat.succ_le_succ levels⟩
    intro container member
    rcases List.mem_cons.mp member with rfl | member
    · exact first
    · exact (apart container member).2

/-- Where the source has a path through containers that are opened, the copy has
one to the copy of what stands at its end. -/
theorem copy_along {heap : Heap} {value last : Value} {path : List Nat}
    {above : List Value} (along : heap.Along value path above last) :
    ∀ {room : Nat} {trail : List Identity} {copied : Value},
      heap.copyBelow room trail value = .ok copied →
        Passable trail room above →
          ∃ inner copy, empty.Along copied path inner copy ∧
            heap.copyBelow (room - above.length) (above.foldl extend trail)
              last = .ok copy := by
  induction along with
  | root value =>
      intro room trail copied made _
      exact ⟨[], copied, .root copied, made⟩
  | @child value last contents position child rest above container held
      further induction =>
      intro room trail copied made passable
      cases room with
      | zero => cases Nat.not_succ_le_zero _ passable.levels
      | succ room =>
          rcases passable_cons.mp passable with ⟨new, passable⟩
          rcases opened_of_copyBelow container new made with
            ⟨children, rfl, opened⟩
          rcases exists_getElem?_of_forall₂ opened.copies held with
            ⟨copiedChild, heldCopy, childMade⟩
          rcases induction childMade.2 passable with
            ⟨inner, copy, alongCopy, copyMade⟩
          rcases contents?_build contents.form children with
            ⟨built, found, same⟩
          rcases exists_getElem?_of_map_eq same heldCopy with
            ⟨reread, heldReread, value_eq⟩
          rw [← value_eq] at alongCopy
          refine ⟨_, copy, .child found heldReread alongCopy, ?_⟩
          simpa using copyMade

/-- Where the copy has a path, the source has one through containers that are
opened. -/
theorem source_along {heap : Heap} {copied copy : Value} {path : List Nat}
    {inner : List Value} (along : empty.Along copied path inner copy) :
    ∀ {room : Nat} {trail : List Identity} {value : Value},
      heap.copyBelow room trail value = .ok copied →
        ∃ above last, heap.Along value path above last ∧
          Passable trail room above ∧
            heap.copyBelow (room - above.length) (above.foldl extend trail)
              last = .ok copy := by
  induction along with
  | root copied =>
      intro room trail value made
      exact ⟨[], value, .root value, ⟨.nil, by simp, Nat.zero_le room⟩, made⟩
  | @child copied copy rebuilt position reread rest inner found held further
      induction =>
      intro room trail value made
      rcases opened_of_container made found with
        ⟨contents, children, less, container, new, rfl, rfl, opened⟩
      rcases contents?_build contents.form children with ⟨built, found', same⟩
      obtain rfl : built = rebuilt := by
        rw [found'] at found
        exact Option.some.inj found
      rcases exists_getElem?_of_map_eq same.symm held with
        ⟨copiedChild, heldCopy, value_eq⟩
      rcases exists_getElem?_of_forall₂ opened.copies.flip heldCopy with
        ⟨child, heldChild, childMade⟩
      have childCopied := childMade.2
      rw [value_eq] at childCopied
      rcases induction childCopied with
        ⟨above, last, alongSource, passable, copyMade⟩
      refine ⟨value :: above, last, .child container heldChild alongSource,
        passable_cons.mpr ⟨new, passable⟩, ?_⟩
      simpa using copyMade

/-! ## The copy of a root -/

theorem passable_of_different {above : List Value} {last : Value}
    {limit : Nat}
    (different : (above ++ [last]).Pairwise fun one other => ¬ one.Same other)
    (shallow : above.length < limit) :
    Passable [] limit above where
  different := (List.pairwise_append.mp different).1
  new container _ := onPath_nil container
  levels := Nat.le_of_lt shallow

theorem onPath_of_different {above : List Value} {last : Value}
    (different : (above ++ [last]).Pairwise fun one other => ¬ one.Same other) :
    onPath (above.foldl extend []) last = false := by
  rw [← Bool.not_eq_true, onPath_foldl_extend]
  rintro (⟨container, member, same⟩ | met)
  · exact (List.pairwise_append.mp different).2.2 container member last
      (List.mem_singleton_self last) same
  · simp at met

theorem different_of_onPath {above : List Value} {last : Value}
    {limit : Nat} (passable : Passable [] limit above)
    (new : onPath (above.foldl extend []) last = false) :
    (above ++ [last]).Pairwise fun one other => ¬ one.Same other := by
  rw [← Bool.not_eq_true, onPath_foldl_extend, not_or] at new
  refine List.pairwise_append.mpr
    ⟨passable.different, List.pairwise_singleton _ _, ?_⟩
  intro container member other final
  rcases List.mem_singleton.mp final with rfl
  exact fun same => new.1 ⟨container, member, same⟩

/-- A container at a live path is opened. -/
theorem opened_of_live {heap : Heap} {limit : Nat} {root copied last : Value}
    {path : List Nat} {above : List Value} {contents : Contents}
    (made : heap.copyBelow limit [] root = .ok copied)
    (live : heap.Live limit root path above last contents) :
    ∃ inner children,
      empty.Along copied path inner (contents.form.build children) ∧
        heap.Opened (limit - (above ++ [last]).length) (above.foldl extend [])
          last contents children := by
  have shallow : above.length < limit := by
    rw [live.along.length_eq]
    exact live.shallow
  rcases copy_along live.along made
    (passable_of_different live.different shallow) with
      ⟨inner, copy, along, copyMade⟩
  have levels : limit - above.length =
      limit - (above ++ [last]).length + 1 := by
    rw [List.length_append, List.length_singleton]
    omega
  rw [levels] at copyMade
  rcases opened_of_copyBelow live.container
    (onPath_of_different live.different) copyMade with
      ⟨children, rfl, opened⟩
  exact ⟨inner, children, along, opened⟩

theorem hasContainer_iff_live {heap : Heap} {limit : Nat}
    {root copied : Value} (made : heap.copyBelow limit [] root = .ok copied)
    (path : List Nat) :
    empty.HasContainer copied path ↔
      ∃ above last contents, heap.Live limit root path above last contents := by
  constructor
  · rintro ⟨inner, copy, rebuilt, alongCopy, container⟩
    rcases source_along alongCopy made with
      ⟨above, last, along, passable, copyMade⟩
    rcases opened_of_container copyMade container with
      ⟨contents, children, less, found, new, room, -, -⟩
    refine ⟨above, last, contents, along, found,
      different_of_onPath passable new, ?_⟩
    rw [← along.length_eq]
    omega
  · rintro ⟨above, last, contents, live⟩
    rcases opened_of_live made live with ⟨inner, children, along, -⟩
    rcases contents?_build contents.form children with ⟨rebuilt, container, -⟩
    exact ⟨inner, _, rebuilt, along, container⟩

/-- No text for a container that is too deep is the text for one that is on the
path. -/
theorem circularText_ne_truncatedText (typeName : String) :
    Value.circularText ≠ Value.truncatedText typeName := by
  intro equal
  have letters := congrArg (fun text => text.toList[1]?) equal
  simp [Value.circularText, Value.truncatedText] at letters

/-- What stands in a copy for one child of an opened container. -/
theorem childCopied_of_copyBelow {heap : Heap} {limit : Nat}
    {containers : List Value} {source copied : Value × Value}
    (key : copied.1 = source.1)
    (made : heap.copyBelow (limit - containers.length)
      (containers.foldl extend []) source.2 = .ok copied.2) :
    heap.ChildCopied limit containers source copied := by
  have met : onPath (containers.foldl extend []) source.2 = true ↔
      ∃ container ∈ containers, container.Same source.2 := by
    rw [onPath_foldl_extend, onPath_nil]
    simp
  cases container : heap.contents? source.2 with
  | none =>
      rw [copyBelow_leaf container, Except.ok.injEq] at made
      exact ⟨key, fun _ => made.symm, by simp [container], by simp [container]⟩
  | some contents =>
      cases known : onPath (containers.foldl extend []) source.2 with
      | true =>
          rw [copyBelow_circular container known, Except.ok.injEq] at made
          have present := met.mp known
          exact ⟨key, by simp [container], by simp [← made, present], by
            simp [← made, present, circularText_ne_truncatedText]⟩
      | false =>
          have absent : ¬ ∃ container ∈ containers,
              container.Same source.2 := by
            rw [← met, known]
            exact Bool.false_ne_true
          cases room : limit - containers.length with
          | zero =>
              rw [room, copyBelow_truncated container known,
                Except.ok.injEq] at made
              have low : limit ≤ containers.length := by omega
              exact ⟨key, by simp [container],
                by simp [← made, absent, (circularText_ne_truncatedText _).symm],
                by simp [← made, absent, low]⟩
          | succ less =>
              rw [room] at made
              have high : ¬ limit ≤ containers.length := by omega
              rcases opened_of_copyBelow container known made with
                ⟨children, built, -⟩
              have no_text (content : String) : copied.2 ≠ .text content := by
                rw [built]
                cases contents.form <;> simp [Form.build]
              exact ⟨key, by simp [container], by simp [no_text, absent],
                by simp [no_text, high]⟩

theorem copiedAs_of_copyBelow {heap : Heap} {limit : Nat}
    {root copied : Value} (made : heap.copyBelow limit [] root = .ok copied) :
    heap.CopiedAs limit root copied where
  leaf container := by
    rw [copyBelow_leaf container, Except.ok.injEq] at made
    exact made.symm
  live path := hasContainer_iff_live made path
  children path above last contents live := by
    rcases opened_of_live made live with ⟨inner, children, along, opened⟩
    refine ⟨inner, children, along, opened.copies.imp ?_⟩
    rintro source copied ⟨key, childMade⟩
    refine childCopied_of_copyBelow key ?_
    rwa [List.foldl_append]

/-- Whatever is shared and whatever contains itself below a root, the loop of the
full copy ends, and its result has a container at exactly the live paths, with
each child copied on its own, as circular or as truncated. -/
theorem copy_ends_with_shape (heap : Heap) (root : Value) (limit : Nat)
    (positive : 0 < limit) (readable : heap.Readable root) :
    ∃ copied,
      CopyLoop.Leads heap limit (.start heap root) (.ended (.ok copied)) ∧
        heap.copy limit root = .ok copied ∧
          heap.CopiedAs limit root copied := by
  rcases exists_copyBelow limit [] root readable with ⟨copied, made⟩
  have levels : (max 1 (limit : Int)).toNat = limit := by omega
  have whole : heap.copy limit root = .ok copied := by
    rw [copy, levels, made]
  refine ⟨copied, ?_, whole, copiedAs_of_copyBelow made⟩
  rw [← whole]
  exact CopyLoop.ends_with_copy heap limit root

/-- A dictionary that holds itself and a list twice; the list holds the
dictionary and a number. -/
def knot : Heap :=
  ⟨#[.plainDict [(.text "self", .shared 0), (.text "left", .shared 1),
      (.text "right", .shared 1)],
    .plainList [.shared 0, .int 5]]⟩

theorem copy_knot_ends_with_shape :
    (0 < 2 ∧ knot.Readable (.shared 0)) ∧
      ∃ copied,
        CopyLoop.Leads knot 2 (.start knot (.shared 0)) (.ended (.ok copied)) ∧
          knot.copy 2 (.shared 0) = .ok copied ∧
            knot.CopiedAs 2 (.shared 0) copied := by
  have readable : knot.Readable (.shared 0) := by
    refine readable_of_closed
      (fun value => value = .shared 0 ∨ value = .shared 1 ∨ value = .int 5)
      ?_ (Or.inl rfl)
    rintro value contents (rfl | rfl | rfl) container <;>
      cases container <;>
        simp [readable, indexed]
  exact ⟨⟨by decide, readable⟩,
    copy_ends_with_shape knot (.shared 0) 2 (by decide) readable⟩

end Heap

end WorkflowExchange

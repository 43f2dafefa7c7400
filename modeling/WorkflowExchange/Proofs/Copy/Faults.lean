import WorkflowExchange.Copy.Graph
import WorkflowExchange.Proofs.Copy.Lossless
import WorkflowExchange.Proofs.Log.Template

/-!
# The fault that a copy meets first

A full copy reads the containers at live paths, each child in its turn, and ends
at the first that raises.  Which one that is can be told from the source alone:
`Heap.Sooner` is the order in which a traversal leaves the paths, where a
container is left after everything inside it, and `Heap.RaisesFirst` names the
least live path of a container that raises.

A copy meets a fault exactly when there is such a path, and the fault is the one
at the least of them.  From that follows what a safe copy answers and logs:
`Heap.safeCopy_degrades_when_needed`.
-/

namespace WorkflowExchange

namespace CopyLoop

variable {heap : Heap} {limit : Int}

theorem step_ended (outcome : Except Fault Value) (steps : Nat) :
    (step heap limit)^[steps] (.ended outcome) = .ended outcome :=
  Function.iterate_fixed rfl steps

/-- A loop has one outcome. -/
theorem Leads.ended_unique {first : CopyLoop} {one other : Except Fault Value}
    (leads : Leads heap limit first (.ended one))
    (again : Leads heap limit first (.ended other)) : one = other := by
  rcases leads with ⟨steps, ended⟩
  rcases again with ⟨more, endedAgain⟩
  have one_first : (step heap limit)^[more + steps] first = .ended one := by
    rw [Function.iterate_add_apply, ended, step_ended]
  have other_first : (step heap limit)^[steps + more] first = .ended other := by
    rw [Function.iterate_add_apply, endedAgain, step_ended]
  rw [Nat.add_comm, one_first] at other_first
  cases other_first
  rfl

/-- The loop ends in the copy and in nothing else. -/
theorem leads_ended_iff {value : Value} {outcome : Except Fault Value} :
    Leads heap limit (start heap value) (.ended outcome) ↔
      heap.copy limit value = outcome := by
  constructor
  · exact (ends_with_copy heap limit value).ended_unique
  · rintro rfl
    exact ends_with_copy heap limit value

end CopyLoop

namespace Heap

/-- Is one path left before another when children are read in order?  A
container is left after everything inside it. -/
inductive Sooner : List Nat → List Nat → Prop where
  | inside (position : Nat) (rest : List Nat) : Sooner (position :: rest) []
  | left {one other : Nat} (lower : one < other) (first second : List Nat) :
      Sooner (one :: first) (other :: second)
  | under (position : Nat) {first second : List Nat}
      (sooner : Sooner first second) :
      Sooner (position :: first) (position :: second)

/-- The container at a live path raises when it is read. -/
def RaisesAt (heap : Heap) (limit : Nat) (root : Value) (path : List Nat)
    (fault : Fault) : Prop :=
  ∃ above last contents, heap.Live limit root path above last contents ∧
    contents.failure = some fault

/-- The container at a live path raises, and any other that raises is at a path
that is left later. -/
structure RaisesFirst (heap : Heap) (limit : Nat) (root : Value)
    (path : List Nat) (fault : Fault) : Prop where
  raises : heap.RaisesAt limit root path fault
  first : ∀ other fault, heap.RaisesAt limit root other fault →
    path = other ∨ Sooner path other

/-- The line that warns of a fault in a full copy. -/
def fallbackWarned (fault : Fault) : Log.Record :=
  ⟨.warning, "Safe clone failed (" ++ fault.className ++
    "); storing a degraded copy"⟩

/-- The line that reports a fault in a one-level copy. -/
def fallbackFailed (fault : Fault) : Log.Record :=
  ⟨.error, "Degraded copy failed as well (" ++ fault.className ++ ")"⟩

/-- How a safe copy ends, and what it writes into the log. -/
inductive SafelyCopied (heap : Heap) (value : Value) :
    Except Uncopied Value → List Log.Record → Prop where
  /-- Nothing raises: the copy is the full one and nothing is logged. -/
  | full {copied : Value}
      (quiet : ∀ path fault, ¬ heap.RaisesAt graphDepth value path fault)
      (made : CopyLoop.Leads heap graphDepth (.start heap value)
        (.ended (.ok copied))) :
      SafelyCopied heap value (.ok copied) []
  /-- Something raises: one warning, and one level of the value. -/
  | degraded {path : List Nat} {fault : Fault} {copied : Value}
      (raises : heap.RaisesFirst graphDepth value path fault)
      (made : heap.degradedCopy value = .ok copied) :
      SafelyCopied heap value (.ok copied) [fallbackWarned fault]
  /-- Something raises, and one level cannot be copied either. -/
  | lost {path : List Nat} {fault second : Fault}
      (raises : heap.RaisesFirst graphDepth value path fault)
      (failed : heap.degradedCopy value = .error second) :
      SafelyCopied heap value (.error .uncopied)
        [fallbackWarned fault, fallbackFailed second]

variable {heap : Heap}

/-! ## The order of paths -/

theorem Sooner.asymm {one other : List Nat} (sooner : Sooner one other) :
    ¬ Sooner other one := by
  induction sooner with
  | inside position rest =>
      intro later
      cases later
  | left lower first second =>
      intro later
      cases later with
      | left upper => exact Nat.lt_asymm lower upper
      | under => exact Nat.lt_irrefl _ lower
  | under position sooner induction =>
      intro later
      cases later with
      | left upper => exact Nat.lt_irrefl _ upper
      | under _ later => exact induction later

theorem RaisesAt.fault_eq {limit : Nat} {root : Value} {path : List Nat}
    {one other : Fault} (raises : heap.RaisesAt limit root path one)
    (again : heap.RaisesAt limit root path other) : one = other := by
  rcases raises with ⟨above, last, contents, live, failed⟩
  rcases again with ⟨others, final, inner, alive, failedAgain⟩
  obtain rfl := (live.along.unique alive.along).2
  obtain rfl := Option.some.inj (live.container.symm.trans alive.container)
  exact Option.some.inj (failed.symm.trans failedAgain)

theorem RaisesFirst.unique {limit : Nat} {root : Value} {path other : List Nat}
    {one second : Fault} (raises : heap.RaisesFirst limit root path one)
    (again : heap.RaisesFirst limit root other second) :
    path = other ∧ one = second := by
  have same : path = other := by
    rcases raises.first other second again.raises with same | sooner
    · exact same
    rcases again.first path one raises.raises with same | later
    · exact same.symm
    · exact absurd later sooner.asymm
  subst same
  exact ⟨rfl, raises.raises.fault_eq again.raises⟩

/-! ## Below a trail -/

/-- A container raises that stands below a trail with some levels left, where
all containers down to it are opened. -/
def RaisesBelow (heap : Heap) (room : Nat) (trail : List Identity)
    (value : Value) (path : List Nat) (fault : Fault) : Prop :=
  ∃ above last contents, heap.Along value path above last ∧
    heap.contents? last = some contents ∧
    Passable trail room (above ++ [last]) ∧ contents.failure = some fault

variable {room : Nat} {trail : List Identity} {value : Value}
  {contents : Contents} {path : List Nat} {fault : Fault}

theorem raisesAt_iff_raisesBelow {limit : Nat} {root : Value} :
    heap.RaisesAt limit root path fault ↔
      heap.RaisesBelow limit [] root path fault := by
  constructor
  · rintro ⟨above, last, contents, ⟨along, container, different, shallow⟩,
      failed⟩
    refine ⟨above, last, contents, along, container,
      ⟨different, fun other _ => onPath_nil other, ?_⟩, failed⟩
    rw [List.length_append, List.length_singleton, along.length_eq]
    exact shallow
  · rintro ⟨above, last, contents, along, container,
      ⟨different, -, levels⟩, failed⟩
    refine ⟨above, last, contents, ⟨along, container, different, ?_⟩, failed⟩
    rwa [List.length_append, List.length_singleton, along.length_eq] at levels

/-- A value below which something raises is opened. -/
theorem RaisesBelow.opened (raises : heap.RaisesBelow room trail value path fault) :
    ∃ contents less, heap.contents? value = some contents ∧
      onPath trail value = false ∧ room = less + 1 := by
  rcases raises with ⟨above, last, contents, along, container, passable, -⟩
  cases room with
  | zero =>
      have levels := passable.levels
      rw [List.length_append, List.length_singleton] at levels
      exact absurd levels (Nat.not_succ_le_zero _)
  | succ less =>
      cases along with
      | root =>
          exact ⟨contents, less, container, (passable_cons.mp passable).1, rfl⟩
      | child outer =>
          exact ⟨_, less, outer, (passable_cons.mp passable).1, rfl⟩

/-- A container itself raises after its children. -/
theorem raisesBelow_root_iff (container : heap.contents? value = some contents)
    (new : onPath trail value = false) :
    heap.RaisesBelow (room + 1) trail value [] fault ↔
      contents.failure = some fault := by
  constructor
  · rintro ⟨above, last, inner, along, found, -, failed⟩
    cases along
    obtain rfl := Option.some.inj (container.symm.trans found)
    exact failed
  · intro failed
    refine ⟨[], value, contents, .root value, container, ?_, failed⟩
    rw [List.nil_append, passable_cons]
    exact ⟨new, .nil, by simp, Nat.zero_le room⟩

theorem raisesBelow_child_iff (container : heap.contents? value = some contents)
    (new : onPath trail value = false) {position : Nat} {rest : List Nat} :
    heap.RaisesBelow (room + 1) trail value (position :: rest) fault ↔
      ∃ child, contents.children[position]? = some child ∧
        heap.RaisesBelow room (extend trail value) child.2 rest fault := by
  constructor
  · rintro ⟨above, last, inner, along, found, passable, failed⟩
    cases along with
    | child outer held further =>
        obtain rfl := Option.some.inj (container.symm.trans outer)
        exact ⟨_, held, _, last, inner, further, found,
          (passable_cons.mp passable).2, failed⟩
  · rintro ⟨child, held, above, last, inner, further, found, passable, failed⟩
    exact ⟨value :: above, last, inner, .child container held further, found,
      passable_cons.mpr ⟨new, passable⟩, failed⟩

/-- A path is the first of those below a trail at which something raises. -/
structure RaisesFirstBelow (heap : Heap) (room : Nat) (trail : List Identity)
    (value : Value) (path : List Nat) (fault : Fault) : Prop where
  raises : heap.RaisesBelow room trail value path fault
  first : ∀ other met, heap.RaisesBelow room trail value other met →
    path = other ∨ Sooner path other

/-- Where nothing raises inside a container, its own fault is the first. -/
theorem raisesFirstBelow_root (container : heap.contents? value = some contents)
    (new : onPath trail value = false)
    (failed : contents.failure = some fault)
    (quiet : ∀ child ∈ contents.children, ∀ path met,
      ¬ heap.RaisesBelow room (extend trail value) child.2 path met) :
    heap.RaisesFirstBelow (room + 1) trail value [] fault where
  raises := (raisesBelow_root_iff container new).mpr failed
  first other met raises := by
    cases other with
    | nil => exact .inl rfl
    | cons position rest =>
        rcases (raisesBelow_child_iff container new).mp raises with
          ⟨child, held, inside⟩
        exact absurd inside (quiet child (List.mem_of_getElem? held) rest met)

/-- The first path below the first child inside which something raises is the
first path of all. -/
theorem raisesFirstBelow_child (container : heap.contents? value = some contents)
    (new : onPath trail value = false) {position : Nat} {child : Value × Value}
    {rest : List Nat} (held : contents.children[position]? = some child)
    (inside : heap.RaisesFirstBelow room (extend trail value) child.2 rest fault)
    (quiet : ∀ before < position, ∀ sibling,
      contents.children[before]? = some sibling → ∀ path met,
        ¬ heap.RaisesBelow room (extend trail value) sibling.2 path met) :
    heap.RaisesFirstBelow (room + 1) trail value (position :: rest) fault where
  raises := (raisesBelow_child_iff container new).mpr ⟨child, held, inside.raises⟩
  first other met raises := by
    cases other with
    | nil => exact .inr (.inside position rest)
    | cons place further =>
        rcases (raisesBelow_child_iff container new).mp raises with
          ⟨sibling, heldSibling, insideSibling⟩
        rcases Nat.lt_trichotomy place position with lower | rfl | higher
        · exact absurd insideSibling
            (quiet place lower sibling heldSibling further met)
        · obtain rfl := Option.some.inj (held.symm.trans heldSibling)
          rcases inside.first further met insideSibling with rfl | sooner
          · exact .inl rfl
          · exact .inr (.under place sooner)
        · exact .inr (.left higher rest further)

/-- Where the copies of some children fail, the copy of one of them does, and
those before it are made. -/
theorem exists_failed_of_copyChild {children : List (Value × Value)}
    (failed : children.mapM (heap.copyChild room trail) = .error fault) :
    ∃ (position : Nat) (child : Value × Value),
      children[position]? = some child ∧
        heap.copyBelow room trail child.2 = .error fault ∧
        ∀ before < position, ∀ other, children[before]? = some other →
          ∃ copied, heap.copyBelow room trail other.2 = .ok copied := by
  induction children with
  | nil => cases failed
  | cons child rest induction =>
      rw [List.mapM_cons, copyChild] at failed
      cases first : heap.copyBelow room trail child.2 with
      | error met =>
          rw [first] at failed
          cases failed
          exact ⟨0, child, rfl, first, fun before lower => absurd lower (by omega)⟩
      | ok copied =>
          cases others : rest.mapM (heap.copyChild room trail) with
          | ok copies =>
              simp [first, others, bind, Except.bind, pure, Except.pure] at failed
          | error met =>
              simp only [first, others, bind, Except.bind, pure, Except.pure,
                Except.error.injEq] at failed
              subst failed
              rcases induction others with ⟨position, found, held, inside, before⟩
              refine ⟨position + 1, found, held, inside, ?_⟩
              intro earlier lower other heldOther
              cases earlier with
              | zero =>
                  cases heldOther
                  exact ⟨copied, first⟩
              | succ earlier =>
                  exact before earlier (Nat.lt_of_succ_lt_succ lower) other
                    heldOther

/-! ## Copies and faults -/

/-- Nothing raises below a value that was copied.  The induction is on the
levels that are left. -/
theorem quiet_of_copyBelow :
    ∀ {room : Nat} {trail : List Identity} {value copied : Value},
      heap.copyBelow room trail value = .ok copied →
        ∀ path fault, ¬ heap.RaisesBelow room trail value path fault := by
  intro room
  induction room with
  | zero =>
      intro trail value copied made path fault raises
      rcases raises.opened with ⟨_, less, -, -, levels⟩
      cases levels
  | succ room induction =>
      intro trail value copied made path fault raises
      rcases raises.opened with ⟨contents, _, container, new, -⟩
      rcases opened_of_copyBelow container new made with ⟨children, -, opened⟩
      cases path with
      | nil =>
          rw [raisesBelow_root_iff container new, opened.failure] at raises
          cases raises
      | cons position rest =>
          rcases (raisesBelow_child_iff container new).mp raises with
            ⟨child, held, inside⟩
          rcases exists_getElem?_of_forall₂ opened.copies held with
            ⟨copy, -, -, childMade⟩
          exact induction childMade rest fault inside

/-- A value whose copy fails is a container that is opened. -/
theorem opened_of_failed (failed : heap.copyBelow room trail value = .error fault) :
    ∃ contents less, heap.contents? value = some contents ∧
      onPath trail value = false ∧ room = less + 1 := by
  cases container : heap.contents? value with
  | none =>
      rw [copyBelow_leaf container] at failed
      cases failed
  | some contents =>
      cases known : onPath trail value with
      | true =>
          rw [copyBelow_circular container known] at failed
          cases failed
      | false =>
          cases room with
          | zero =>
              rw [copyBelow_truncated container known] at failed
              cases failed
          | succ less => exact ⟨contents, less, rfl, rfl, rfl⟩

/-- A copy that fails meets the fault of the path that is left first.  The
induction is on the levels that are left. -/
theorem first_of_copyBelow :
    ∀ {room : Nat} {trail : List Identity} {value : Value} {fault : Fault},
      heap.copyBelow room trail value = .error fault →
        ∃ path, heap.RaisesFirstBelow room trail value path fault := by
  intro room
  induction room with
  | zero =>
      intro trail value fault failed
      rcases opened_of_failed failed with ⟨_, less, -, -, levels⟩
      cases levels
  | succ room induction =>
      intro trail value fault failed
      rcases opened_of_failed failed with ⟨contents, _, container, new, -⟩
      rw [copyBelow_opened container new] at failed
      cases read :
          contents.children.mapM (heap.copyChild room (extend trail value)) with
      | error met =>
          rw [read] at failed
          cases failed
          rcases exists_failed_of_copyChild read with
            ⟨position, child, held, childFailed, before⟩
          rcases induction childFailed with ⟨rest, inside⟩
          refine ⟨position :: rest,
            raisesFirstBelow_child container new held inside ?_⟩
          intro place lower sibling heldSibling
          rcases before place lower sibling heldSibling with ⟨copied, made⟩
          exact quiet_of_copyBelow made
      | ok copies =>
          rw [read] at failed
          have own : contents.failure = some fault := by
            cases failure : contents.failure with
            | none =>
                simp [bind, Except.bind, Contents.close, failure] at failed
            | some own =>
                simpa [bind, Except.bind, Contents.close, failure] using failed
          refine ⟨[], raisesFirstBelow_root container new own ?_⟩
          intro child member
          rcases List.mem_iff_getElem?.mp member with ⟨position, held⟩
          rcases exists_getElem?_of_forall₂ (forall₂_of_copyChild read) held with
            ⟨copy, -, -, made⟩
          exact quiet_of_copyBelow made

/-- A full copy is made exactly when nothing raises. -/
theorem exists_copy_iff (heap : Heap) (limit : Nat) (positive : 0 < limit)
    (root : Value) :
    (∃ copied, heap.copy limit root = .ok copied) ↔
      ∀ path fault, ¬ heap.RaisesAt limit root path fault := by
  have levels : (max 1 (limit : Int)).toNat = limit := by omega
  rw [copy, levels]
  simp only [raisesAt_iff_raisesBelow]
  constructor
  · rintro ⟨copied, made⟩
    exact quiet_of_copyBelow made
  · intro quiet
    cases made : heap.copyBelow limit [] root with
    | ok copied => exact ⟨copied, rfl⟩
    | error fault =>
        rcases first_of_copyBelow made with ⟨path, first⟩
        exact absurd first.raises (quiet path fault)

/-- A full copy fails with a fault exactly when that is the first that is met. -/
theorem copy_error_iff (heap : Heap) (limit : Nat) (positive : 0 < limit)
    (root : Value) (fault : Fault) :
    heap.copy limit root = .error fault ↔
      ∃ path, heap.RaisesFirst limit root path fault := by
  have found {met : Fault} (failed : heap.copy limit root = .error met) :
      ∃ path, heap.RaisesFirst limit root path met := by
    have levels : (max 1 (limit : Int)).toNat = limit := by omega
    rw [copy, levels] at failed
    rcases first_of_copyBelow failed with ⟨path, raises, first⟩
    exact ⟨path, raisesAt_iff_raisesBelow.mpr raises, fun other met raisesOther =>
      first other met (raisesAt_iff_raisesBelow.mp raisesOther)⟩
  constructor
  · exact found
  · rintro ⟨path, first⟩
    cases made : heap.copy limit root with
    | ok copied =>
        exact absurd first.raises
          ((exists_copy_iff heap limit positive root).mp ⟨copied, made⟩ path fault)
    | error met =>
        rcases found made with ⟨other, firstOther⟩
        rw [(first.unique firstOther).2]

/-- The declared fields of a record are read one by one, so that a key that the record
does not have is met before the fault of the lid that is declared after it. -/
example :
    empty.copy graphDepth (.plainList
      [.record .plain "Box" [("lid", .list "Lid" (some ⟨none, .badValue⟩) [])] []
        (some ⟨some 0, .noAttribute⟩)]) = .error .noAttribute := by
  rfl

/-! ## Safe copies -/

/-- The full copy of a dictionary is a dictionary. -/
theorem isDict_of_copy {value copied : Value} {limit : Int}
    (dictionary : (heap.resolve value).isDict)
    (made : heap.copy limit value = .ok copied) : copied.isDict := by
  have levels : (max 1 limit).toNat = (limit - 1).toNat + 1 := by omega
  rw [copy, levels] at made
  cases resolved : heap.resolve value with
  | dict type failing entries =>
      have container : heap.contents? value =
          some ⟨.dict, readable failing entries, failing.map (·.fault)⟩ := by
        rw [contents?, resolved]
        rfl
      rcases opened_of_copyBelow container (onPath_nil value) made with
        ⟨children, rfl, -⟩
      rfl
  | scalar | member | foreign | set | list | tuple | record | shared | loop =>
      rw [resolved] at dictionary
      cases dictionary

/-- One level of a dictionary is a dictionary. -/
theorem isDict_of_degradedCopy {value copied : Value}
    (dictionary : (heap.resolve value).isDict)
    (made : heap.degradedCopy value = .ok copied) : copied.isDict := by
  rw [degradedCopy] at made
  cases resolved : heap.resolve value with
  | dict type failing entries =>
      rw [resolved] at made
      cases failing with
      | some failing => cases made
      | none =>
          cases made
          rfl
  | scalar | member | foreign | set | list | tuple | record | shared | loop =>
      rw [resolved] at dictionary
      cases dictionary

theorem record_fallbackWarning (fault : Fault) :
    (fallbackWarning fault).record = .ok (fallbackWarned fault) :=
  Log.record_of_name .warning "Safe clone failed (" fault.className
    "); storing a degraded copy" (by decide) (by decide)

theorem record_fallbackError (fault : Fault) :
    (fallbackError fault).record = .ok (fallbackFailed fault) :=
  Log.record_of_name .error "Degraded copy failed as well (" fault.className ")"
    (by decide) (by decide)

theorem safelyCopied_safeCopy (heap : Heap) (value : Value) :
    heap.SafelyCopied value (heap.safeCopy value).outcome
      (Log.records (heap.safeCopy value).messages) := by
  rw [safeCopy]
  cases made : heap.copy graphDepth value with
  | ok copied =>
      exact .full
        ((exists_copy_iff heap graphDepth (by decide) value).mp ⟨copied, made⟩)
        (CopyLoop.leads_ended_iff.mpr made)
  | error fault =>
      rcases (copy_error_iff heap graphDepth (by decide) value fault).mp made with
        ⟨path, first⟩
      cases shallow : heap.degradedCopy value with
      | ok copied =>
          have lines : Log.records [fallbackWarning fault] =
              [fallbackWarned fault] := by
            simp [Log.records, record_fallbackWarning, Except.toOption]
          rw [lines]
          exact .degraded first shallow
      | error second =>
          have lines :
              Log.records [fallbackWarning fault, fallbackError second] =
                [fallbackWarned fault, fallbackFailed second] := by
            simp [Log.records, record_fallbackWarning, record_fallbackError,
              Except.toOption]
          rw [lines]
          exact .lost first shallow

/-- There is one way for a safe copy to end. -/
theorem SafelyCopied.unique {value : Value}
    {one other : Except Uncopied Value} {lines others : List Log.Record}
    (copied : heap.SafelyCopied value one lines)
    (again : heap.SafelyCopied value other others) :
    one = other ∧ lines = others := by
  cases copied with
  | full quiet made =>
      cases again with
      | full _ madeAgain =>
          cases made.ended_unique madeAgain
          exact ⟨rfl, rfl⟩
      | degraded raises | lost raises => exact absurd raises.raises (quiet _ _)
  | degraded raises made =>
      cases again with
      | full quiet => exact absurd raises.raises (quiet _ _)
      | degraded raisesAgain madeAgain =>
          obtain rfl := (raises.unique raisesAgain).2
          cases made.symm.trans madeAgain
          exact ⟨rfl, rfl⟩
      | lost _ failed => cases made.symm.trans failed
  | lost raises failed =>
      cases again with
      | full quiet => exact absurd raises.raises (quiet _ _)
      | degraded _ made => cases made.symm.trans failed
      | lost raisesAgain failedAgain =>
          obtain rfl := (raises.unique raisesAgain).2
          cases failed.symm.trans failedAgain
          exact ⟨rfl, rfl⟩

/-- A safe copy fails in one way, for any value. -/
theorem copyPart_eq_error {value : Value} {failure : Failure}
    (failed : (heap.copyPart value).outcome = .error failure) :
    failure = .because .uncopied := by
  rw [copyPart, Trial.outcome_mapError] at failed
  cases outcome : (heap.safeCopy value).outcome with
  | ok copied =>
      rw [outcome] at failed
      cases failed
  | error lost =>
      rw [outcome] at failed
      cases failed
      rfl

theorem isDict_of_safeCopy {value copied : Value}
    (dictionary : (heap.resolve value).isDict)
    (made : (heap.safeCopy value).outcome = .ok copied) : copied.isDict := by
  rw [safeCopy] at made
  cases full : heap.copy graphDepth value with
  | ok whole =>
      rw [full] at made
      cases made
      exact isDict_of_copy dictionary full
  | error fault =>
      rw [full] at made
      cases shallow : heap.degradedCopy value with
      | ok level =>
          rw [shallow] at made
          cases made
          exact isDict_of_degradedCopy dictionary shallow
      | error second =>
          rw [shallow] at made
          cases made

/-- A safe copy degrades exactly when a container raises that the traversal
opens.  It ends as `SafelyCopied` says and in no other way, a dictionary is copied
as a dictionary, and the only failure has a wording that does not depend on the
value. -/
theorem safeCopy_degrades_when_needed (heap : Heap) (value : Value) :
    (∀ outcome lines, heap.SafelyCopied value outcome lines ↔
        (heap.safeCopy value).outcome = outcome ∧
          Log.records (heap.safeCopy value).messages = lines) ∧
      ((heap.resolve value).isDict → ∀ copied,
        (heap.safeCopy value).outcome = .ok copied → copied.isDict) ∧
      ∀ failure, (heap.copyPart value).outcome = .error failure →
        ∃ cause, failure = .because cause ∧
          cause.problem =
            ⟨.serialization, "Workflow data could not be copied", []⟩ := by
  refine ⟨fun outcome lines => ⟨?_, ?_⟩, fun dictionary copied made =>
    isDict_of_safeCopy dictionary made, fun failure failed =>
      ⟨.uncopied, copyPart_eq_error failed, rfl⟩⟩
  · exact (safelyCopied_safeCopy heap value).unique
  · rintro ⟨rfl, rfl⟩
    exact safelyCopied_safeCopy heap value

end Heap

end WorkflowExchange

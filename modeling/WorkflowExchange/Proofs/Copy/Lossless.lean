import WorkflowExchange.Proofs.Copy.Nesting
import WorkflowExchange.Proofs.Value.Agreement

/-!
# Copies that lose nothing

A copy is marked where it has a text in place of a container: for one that is on
the path already or for one that is too deep.  A copy of data has a mark exactly
when the nesting check finds the data to be too deep, because a container that
contains itself is too deep for every limit.  A copy without a mark agrees with
its source.
-/

namespace WorkflowExchange

namespace Heap

variable {heap : Heap} {root value copied : Value} {contents : Contents}

/-! ## Marks -/

/-- Has a copy a text for a container in place of the container that a path leads
to? -/
def Marked (heap : Heap) (root copied : Value) (path : List Nat) : Prop :=
  ∃ above last contents inner text,
    heap.Along root path above last ∧ heap.contents? last = some contents ∧
      empty.Along copied path inner (.text text) ∧
        (text = Value.circularText ∨
          text = Value.truncatedText (heap.typeName last))

/-- A container that is not opened is marked. -/
theorem marked_of_unopened {room : Nat} {trail : List Identity}
    (container : heap.contents? value = some contents)
    (unopened : room = 0 ∨ onPath trail value = true)
    (made : heap.copyBelow room trail value = .ok copied) :
    heap.Marked value copied [] := by
  cases met : onPath trail value with
  | true =>
      rw [copyBelow_circular container met, Except.ok.injEq] at made
      subst made
      exact ⟨[], value, contents, [], _, .root value, container, .root _, .inl rfl⟩
  | false =>
      obtain rfl : room = 0 := by simpa [met] using unopened
      rw [copyBelow_truncated container met, Except.ok.injEq] at made
      subst made
      exact ⟨[], value, contents, [], _, .root value, container, .root _, .inr rfl⟩

/-- A mark in the copy of a child is one in the copy of its container. -/
theorem Marked.below {position : Nat} {source other : Value × Value}
    {children : List (Value × Value)} {path : List Nat}
    (marked : heap.Marked source.2 other.2 path)
    (container : heap.contents? value = some contents)
    (held : contents.children[position]? = some source)
    (copy : children[position]? = some other) :
    heap.Marked value (contents.form.build children) (position :: path) := by
  rcases marked with ⟨above, last, inside, inner, text, along, found, alongCopy,
    known⟩
  rcases contents?_build contents.form children with ⟨built, rebuilt, same⟩
  rcases exists_getElem?_of_map_eq same copy with ⟨reread, heldReread, value_eq⟩
  rw [← value_eq] at alongCopy
  exact ⟨value :: above, last, inside, _, text, .child container held along,
    found, .child rebuilt heldReread alongCopy, known⟩

/-- Where a chain is longer than the levels that are left, the copy is marked.
The induction is on these levels and goes down the chain. -/
theorem exists_marked_of_chain (room : Nat) :
    ∀ {trail : List Identity} {value copied : Value},
      heap.copyBelow room trail value = .ok copied →
        heap.Chain (room + 1) value → ∃ path, heap.Marked value copied path := by
  induction room with
  | zero =>
      intro trail value copied made chain
      rcases chain.container with ⟨contents, container⟩
      exact ⟨[], marked_of_unopened container (.inl rfl) made⟩
  | succ room induction =>
      intro trail value copied made chain
      rcases chain.container with ⟨contents, container⟩
      cases met : onPath trail value with
      | true => exact ⟨[], marked_of_unopened container (.inr met) made⟩
      | false =>
          rcases opened_of_copyBelow container met made with
            ⟨children, rfl, opened⟩
          rcases (chain_succ_succ container).mp chain with
            ⟨child, member, further⟩
          rcases List.mem_map.mp member with ⟨source, found, rfl⟩
          rcases List.mem_iff_getElem?.mp found with ⟨position, held⟩
          rcases exists_getElem?_of_forall₂ opened.copies held with
            ⟨other, copy, -, childMade⟩
          rcases induction childMade further with ⟨path, marked⟩
          exact ⟨position :: path, marked.below container held copy⟩

/-- A path leads to one value only. -/
theorem Along.unique {last other : Value} {path : List Nat}
    {above others : List Value} (along : heap.Along value path above last)
    (again : heap.Along value path others other) :
    above = others ∧ last = other := by
  induction along generalizing others with
  | root value =>
      cases again
      exact ⟨rfl, rfl⟩
  | child container held further induction =>
      cases again with
      | child container' held' further' =>
          obtain rfl := Option.some.inj (container.symm.trans container')
          obtain rfl := Option.some.inj (held.symm.trans held')
          rcases induction further' with ⟨rfl, rfl⟩
          exact ⟨rfl, rfl⟩

/-- A mark is at the end of a path that comes back or is as long as the limit. -/
theorem chain_of_marked {limit : Nat} {path : List Nat}
    (made : heap.copyBelow limit [] root = .ok copied)
    (marked : heap.Marked root copied path) : heap.Chain (limit + 1) root := by
  rcases marked with ⟨above, last, contents, inner, text, along, container,
    alongCopy, -⟩
  rcases source_along alongCopy made with
    ⟨others, other, again, passable, copyMade⟩
  rcases along.unique again with ⟨rfl, rfl⟩
  -- An opened container is copied as a container, so that a text stands for one
  -- that was met above or for one below the last level.
  cases met : onPath (above.foldl extend []) last with
  | true =>
      rw [onPath_foldl_extend, onPath_nil] at met
      rcases met with ⟨before, member, same⟩ | never
      · obtain rfl := eq_of_same same
        rcases along.suffix member with ⟨rest, between, back, further⟩
        have longer :=
          Chain.along along (chain_of_return back further container limit)
        exact longer.shorter (by omega)
      · cases never
  | false =>
      cases room : limit - above.length with
      | zero =>
          have longer := Chain.along along (.last container)
          exact longer.shorter (by omega)
      | succ less =>
          rw [room] at copyMade
          rcases opened_of_copyBelow container met copyMade with
            ⟨children, built, -⟩
          cases form : contents.form <;> simp [Form.build, form] at built

/-! ## Agreement -/

theorem alike_key (key : value.IsKey Scalar.NaNFree) : value.Alike value := by
  induction key with
  | scalar known => exact Value.alike_scalar known
  | bare type name value =>
      exact ⟨by simp [Value.agrees], by simp [Value.agrees]⟩
  | based type name base known =>
      have same := Scalar.NaNFree.agrees_self known
      exact ⟨by simpa [Value.agrees, Value.plain] using same,
        by simpa [Value.agrees, Value.plain] using same⟩
  | tuple cls parts induction =>
      exact Value.alike_tuple cls cls none none (List.forall₂_same.mpr induction)
  | shared identity => exact ⟨by simp [Value.agrees], by simp [Value.agrees]⟩

variable {room more : Nat} {trail : List Identity} {way : Trail}

theorem unfoldItems_eq_map (follow : Value → Bool) (items : List Value) :
    heap.unfoldItems follow room way items =
      items.map (heap.unfoldAt follow room way) := by
  induction items with
  | nil => rw [unfoldItems, List.map_nil]
  | cons item rest induction => rw [unfoldItems, List.map_cons, induction]

theorem unfoldEntries_eq_map (follow : Value → Bool)
    (entries : List (Value × Value)) :
    heap.unfoldEntries follow room way entries =
      entries.map fun entry =>
        (entry.1, heap.unfoldAt follow room way entry.2) := by
  induction entries with
  | nil => rw [unfoldEntries, List.map_nil]
  | cons entry rest induction => rw [unfoldEntries, List.map_cons, induction]

/-- A way comes back to what it came back to before and to what was entered. -/
theorem returns_enter {identity other : Identity} {container : Value}
    (back : (way.enter identity container).returns other = true) :
    way.returns other = true ∨ identity = other := by
  cases mark : container.loopMark? with
  | none =>
      simp only [Trail.enter, mark, Trail.returns, List.contains_cons,
        Bool.or_eq_true, beq_iff_eq] at back ⊢
      tauto
  | some text =>
      simp only [Trail.enter, mark, Trail.returns, List.contains_cons,
        List.contains_nil, Bool.or_false, Bool.or_eq_true, beq_iff_eq] at back ⊢
      tauto

/-- A value is unfolded like the container that it refers to, with one more
container on the way. -/
theorem exists_unfoldAt_resolve (heap : Heap) (positive : 0 < more)
    (new : ∀ identity, value.identity? = some identity →
      way.returns identity = false) :
    ∃ less onward, more ≤ less + 1 ∧
      (∀ identity, onward.returns identity = true →
        way.returns identity = true ∨ value.identity? = some identity) ∧
      heap.unfoldAt (fun _ => true) more way value =
        heap.unfoldAt (fun _ => true) less onward (heap.resolve value) := by
  cases value with
  | shared identity =>
      cases more with
      | zero => cases positive
      | succ less =>
          refine ⟨less, way.enter identity (heap.resolve (.shared identity)),
            Nat.le_refl _, ?_, ?_⟩
          · intro other back
            rcases returns_enter back with before | rfl
            · exact .inl before
            · exact .inr rfl
          · rw [unfoldAt]
            simp [new identity rfl]
  | scalar | member | foreign | set | dict | list | tuple | record | loop =>
      exact ⟨more, way, Nat.le_succ more, fun _ back => .inl back, rfl⟩

/-- A value that is unfolded on a way and copied below a trail: no path from it
leads back to the trail, and the way comes back to the trail only. -/
structure Apart (heap : Heap) (trail : List Identity) (way : Trail)
    (value : Value) : Prop where
  unmet : ∀ path above last, heap.Along value path above last →
    onPath trail last = false
  within : ∀ identity, way.returns identity = true → identity ∈ trail

theorem Apart.new (apart : heap.Apart trail way value) :
    onPath trail value = false :=
  apart.unmet [] [] value (.root value)

theorem Apart.fresh (apart : heap.Apart trail way value)
    (identity : Identity) (known : value.identity? = some identity) :
    way.returns identity = false := by
  have new := apart.new
  rw [← Bool.not_eq_true]
  intro back
  simp [onPath, known, apart.within identity back] at new

/-- Below a container that does not contain itself nothing leads back to it. -/
theorem Apart.child {onward : Trail} {child : Value × Value} {length : Nat}
    (apart : heap.Apart trail way value)
    (bounded : ¬ heap.Chain (length + 1) value)
    (container : heap.contents? value = some contents)
    (held : child ∈ contents.children)
    (entered : ∀ identity, onward.returns identity = true →
      way.returns identity = true ∨ value.identity? = some identity) :
    heap.Apart (extend trail value) onward child.2 where
  unmet path above last along := by
    rcases List.mem_iff_getElem?.mp held with ⟨position, held⟩
    rw [← Bool.not_eq_true, onPath_extend]
    rintro (same | met)
    · obtain rfl := eq_of_same same
      have back := Along.child container held along
      exact bounded (chain_of_return back (Nat.succ_pos _) container length)
    · have never := apart.unmet _ _ last (.child container held along)
      rw [met] at never
      cases never
  within identity back := by
    rcases entered identity back with before | here
    · exact List.mem_append_right _ (apart.within identity before)
    · simp [extend, here]

/-- A leaf of data agrees with its copy. -/
theorem alike_leaf (datum : value.IsDatum Scalar.NaNFree)
    (leaf : value.contents? = none) :
    (heap.unfoldAt (fun _ => true) more way value).Alike value.leafCopy := by
  cases datum with
  | scalar known =>
      rw [unfoldAt]
      exact Value.alike_scalar known
  | bare type name value =>
      rw [unfoldAt]
      exact ⟨by simp [Value.agrees, Value.leafCopy],
        by simp [Value.agrees, Value.leafCopy]⟩
  | based type name base known =>
      rw [unfoldAt, unfoldAt]
      exact alike_key (.based type name base known)
  | dict | list | tuple => cases leaf

/-- Items are paired with the children that were built under their indices. -/
theorem forall₂_of_indexed {related : Value → Value → Prop} {first : Nat}
    {items : List Value} {children : List (Value × Value)}
    (paired : List.Forall₂ (fun source other => related source.2 other.2)
      (indexed first items) children) :
    List.Forall₂ related items (children.map (·.2)) := by
  have both : List.Forall₂ related ((indexed first items).map (·.2))
      (children.map (·.2)) := by
    rw [List.forall₂_map_left_iff, List.forall₂_map_right_iff]
    exact paired
  rwa [map_snd_indexed] at both

/-- A container of data agrees with what is built from copies that its children
agree with. -/
theorem alike_build {children : List (Value × Value)}
    (datum : value.IsDatum Scalar.NaNFree)
    (container : value.contents? = some contents)
    (paired : List.Forall₂
      (fun source other => other.1 = source.1 ∧
        (heap.unfoldAt (fun _ => true) more way source.2).Alike other.2)
      contents.children children) :
    (heap.unfoldAt (fun _ => true) more way value).Alike
      (contents.form.build children) := by
  cases datum with
  | scalar | bare | based => cases container
  | @dict type entries keys =>
      cases container
      rw [unfoldAt, unfoldEntries_eq_map]
      refine Value.alike_dict type _ none none ?_
      rw [List.forall₂_map_left_iff]
      refine ((List.forall₂_and_left _ _).mpr ⟨keys, paired⟩).imp ?_
      rintro entry other ⟨key, same, alike⟩
      rw [same]
      exact ⟨alike_key key, alike⟩
  | list type items =>
      cases container
      rw [unfoldAt, unfoldItems_eq_map]
      refine Value.alike_list type _ none none ?_
      rw [List.forall₂_map_left_iff]
      exact forall₂_of_indexed (paired.imp fun _ _ pair => pair.2)
  | tuple cls items =>
      cases container
      rw [unfoldAt, unfoldItems_eq_map]
      refine Value.alike_tuple cls _ none none ?_
      rw [List.forall₂_map_left_iff]
      exact forall₂_of_indexed (paired.imp fun _ _ pair => pair.2)

/-- Data with no chain longer than the levels that are left agrees with its copy.
The induction is on these levels. -/
theorem alike_of_not_chain (room : Nat) :
    ∀ {trail : List Identity} {way : Trail} {more : Nat} {value copied : Value},
      heap.copyBelow room trail value = .ok copied →
        heap.IsData Scalar.NaNFree value → ¬ heap.Chain (room + 1) value →
          heap.Apart trail way value → room < more →
            (heap.unfoldAt (fun _ => true) more way value).Alike copied := by
  induction room with
  | zero =>
      intro trail way more value copied made data bounded apart spare
      rcases exists_unfoldAt_resolve heap spare apart.fresh
        with ⟨less, onward, -, -, same⟩
      cases container : heap.contents? value with
      | some contents => exact absurd (.last container) bounded
      | none =>
          rw [copyBelow_leaf container, Except.ok.injEq] at made
          rw [same, ← made]
          exact alike_leaf data.datum container
  | succ room induction =>
      intro trail way more value copied made data bounded apart spare
      rcases exists_unfoldAt_resolve heap (Nat.zero_lt_of_lt spare) apart.fresh
        with ⟨less, onward, spared, entered, same⟩
      cases container : heap.contents? value with
      | none =>
          rw [copyBelow_leaf container, Except.ok.injEq] at made
          rw [same, ← made]
          exact alike_leaf data.datum container
      | some contents =>
          rcases opened_of_copyBelow container apart.new made with
            ⟨children, rfl, opened⟩
          have alike : ∀ source ∈ contents.children, ∀ copied,
              heap.copyBelow room (extend trail value) source.2 = .ok copied →
                (heap.unfoldAt (fun _ => true) less onward source.2).Alike
                  copied := by
            intro source held copied made
            -- Nothing below leads back here: a cycle begins chains of any length.
            have shallow : ¬ heap.Chain (room + 1) source.2 := fun further =>
              bounded (.more container held further)
            exact induction made (data.child container held) shallow
              (apart.child bounded container held entered) (by omega)
          rw [same]
          refine alike_build data.datum container ?_
          refine ((List.forall₂_and_left _ _).mpr ⟨alike, opened.copies⟩).imp ?_
          rintro source other ⟨alike, key, made⟩
          exact ⟨key, alike _ made⟩

theorem apart_nil (heap : Heap) (value : Value) : heap.Apart [] {} value where
  unmet _ _ last _ := onPath_nil last
  within _ back := by cases back

/-! ## The check and the copy -/

/-- Of data, whatever is shared and whatever contains itself, the loop of the
nesting check ends, and it finds the data to be too deep exactly when a chain of
containers is longer than the limit, and exactly when the copy down to the same
limit, whose loop ends as well, has a mark.  If it has none and no number is not
a number, the copy agrees with its source both ways. -/
theorem nesting_check_and_copy_agree (heap : Heap) (root : Value) (limit : Nat)
    (positive : 0 < limit) (data : heap.IsData (fun _ => True) root) :
    ∃ beyond copied,
      NestingLoop.Leads heap limit (.start root) (.ended (.ok beyond)) ∧
      heap.isNestedBeyond limit root = .ok beyond ∧
      (beyond = true ↔ heap.Chain (limit + 1) root) ∧
      CopyLoop.Leads heap limit (.start heap root) (.ended (.ok copied)) ∧
      heap.copy limit root = .ok copied ∧
      (beyond = false ↔ ∀ path, ¬ heap.Marked root copied path) ∧
      (beyond = false → heap.IsData Scalar.NaNFree root →
        ∀ room, limit < room →
          (heap.unfoldAt (fun _ => true) room {} root).Alike copied) := by
  rcases isNestedBeyond_iff_chain limit root data with ⟨beyond, checked, chained⟩
  rcases exists_copyBelow limit [] root data.readable with ⟨copied, made⟩
  have levels : (max 1 (limit : Int)).toNat = limit := by omega
  have whole : heap.copy limit root = .ok copied := by
    rw [copy, levels, made]
  refine ⟨beyond, copied, ?_, checked, chained, ?_, whole, ?_, ?_⟩
  · rw [← checked]
    exact NestingLoop.ends_with_check heap limit root
  · rw [← whole]
    exact CopyLoop.ends_with_copy heap limit root
  · rw [← Bool.not_eq_true, chained]
    constructor
    · intro bounded path marked
      exact bounded (chain_of_marked made marked)
    · intro unmarked chain
      rcases exists_marked_of_chain limit made chain with ⟨path, marked⟩
      exact unmarked path marked
  · intro shallow numbers room spare
    rw [← Bool.not_eq_true, chained] at shallow
    exact alike_of_not_chain limit made numbers shallow (apart_nil heap root) spare

/-- A dictionary that holds one list twice; the list holds a number. -/
def twins : Heap :=
  ⟨#[.plainDict [(.text "left", .shared 1), (.text "right", .shared 1)],
    .plainList [.int 5]]⟩

theorem isData_twins {fine : Scalar → Prop} (left : fine (.text "left"))
    (right : fine (.text "right")) (five : fine (.int 5)) :
    twins.IsData fine (.shared 0) := by
  refine isData_of_closed
    (fun value => value = .shared 0 ∨ value = .shared 1 ∨ value = .int 5)
    ?_ ?_ (Or.inl rfl)
  · rintro value (rfl | rfl | rfl)
    · refine .dict "dict" ?_
      simp only [List.forall_mem_cons]
      exact ⟨.scalar left, .scalar right, by simp⟩
    · exact .list "list" _
    · exact .scalar five
  · rintro value contents (rfl | rfl | rfl) container <;>
      cases container <;>
        simp [readable, indexed]

theorem twins_copied_whole :
    (0 < 2 ∧ twins.IsData (fun _ => True) (.shared 0)) ∧
      twins.IsData Scalar.NaNFree (.shared 0) ∧
        twins.isNestedBeyond 2 (.shared 0) = .ok false ∧
          ∃ copied, twins.copy 2 (.shared 0) = .ok copied ∧
            (∀ path, ¬ twins.Marked (.shared 0) copied path) ∧
              (twins.unfoldAt (fun _ => true) 3 {} (.shared 0)).Alike copied := by
  have data : twins.IsData (fun _ => True) (.shared 0) :=
    isData_twins trivial trivial trivial
  have numbers : twins.IsData Scalar.NaNFree (.shared 0) :=
    isData_twins rfl rfl rfl
  have checked : twins.isNestedBeyond 2 (.shared 0) = .ok false := rfl
  rcases nesting_check_and_copy_agree twins (.shared 0) 2 (by decide) data with
    ⟨beyond, copied, -, found, -, -, made, unmarked, alike⟩
  obtain rfl : beyond = false := by
    rw [checked] at found
    exact (Except.ok.inj found).symm
  exact ⟨⟨by decide, data⟩, numbers, checked, copied, made, unmarked.mp rfl,
    alike rfl numbers 3 (by decide)⟩

end Heap

end WorkflowExchange

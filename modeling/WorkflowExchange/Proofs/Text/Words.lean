import WorkflowExchange.Proofs.Text.Blank

/-!
# Words of texts that are put together

Cutting letters into runs undoes putting runs together with single blanks between them:
`Text.runs_intercalate`.  So the words of an excerpt are the first words of the text,
whatever stood between them: `Text.words_excerpt` and, for wide texts,
`Wide.words_excerpt`.
-/

namespace WorkflowExchange

namespace Text

variable {α : Type} {blank : α → Bool} {run rest : List α} {letter : α}

theorem runs_nil : runs blank [] = [] :=
  runs_of_blank rfl

/-- A blank before some letters does not change their runs. -/
theorem runs_cons_of_blank (empty : blank letter = true) :
    runs blank (letter :: rest) = runs blank rest := by
  have dropped : (letter :: rest).dropWhile blank = rest.dropWhile blank :=
    List.dropWhile_cons_of_pos empty
  cases left : rest.dropWhile blank with
  | nil => rw [runs_of_blank (dropped.trans left), runs_of_blank left]
  | cons first others =>
      rw [runs_of_visible (dropped.trans left), runs_of_visible left]

/-- A run that nothing visible follows is the first one. -/
theorem runs_append (made : IsRun blank run) (ends : rest.takeWhile (!blank ·) = []) :
    runs blank (run ++ rest) = run :: runs blank rest := by
  rcases List.exists_cons_of_ne_nil made.nonempty with ⟨first, others, rfl⟩
  rcases List.forall_mem_cons.mp made.visible with ⟨headed, tailed⟩
  have kept : (first :: others ++ rest).dropWhile blank = first :: (others ++ rest) :=
    List.dropWhile_cons_of_neg (by simp [headed])
  have visible : ∀ letter ∈ others, (!blank letter) = true := by
    simpa using tailed
  rw [runs_of_visible kept, List.takeWhile_append_of_pos visible,
    List.dropWhile_append_of_pos visible, ends, List.append_nil]
  have whole : rest.takeWhile (!blank ·) ++ rest.dropWhile (!blank ·) = rest :=
    List.takeWhile_append_dropWhile
  rw [ends, List.nil_append] at whole
  rw [whole]

theorem runs_of_isRun (made : IsRun blank run) : runs blank run = [run] := by
  have alone : runs blank (run ++ []) = run :: runs blank [] := runs_append made rfl
  rwa [List.append_nil, runs_nil] at alone

/-- The runs of runs with single blanks between them are these runs.  The recursion is
that of putting them together. -/
theorem runs_intercalate {space : α} (empty : blank space = true) :
    ∀ {list : List (List α)}, (∀ run ∈ list, IsRun blank run) →
      runs blank ([space].intercalate list) = list
  | [], _ => runs_nil
  | [run], made => by
      rw [List.intercalate_singleton]
      exact runs_of_isRun (made run List.mem_cons_self)
  | run :: next :: rest, made => by
      rcases List.forall_mem_cons.mp made with ⟨first, others⟩
      have ends : ([space] ++ [space].intercalate (next :: rest)).takeWhile (!blank ·) =
          [] :=
        List.takeWhile_cons_of_neg (by simp [empty])
      rw [List.intercalate_cons_cons, List.append_assoc, runs_append first ends,
        List.singleton_append, runs_cons_of_blank empty, runs_intercalate empty others]

/-! ## Texts -/

variable {limit : Int} {text word : String}

theorem isRun_of_mem_words (member : word ∈ words text) :
    IsRun isBlank word.toList := by
  rcases List.mem_map.mp member with ⟨run, inside, rfl⟩
  rw [String.toList_ofList]
  exact isRun_of_mem_runs inside

theorem isRun_of_mem_firstItems :
    ∀ word ∈ firstItems limit (words text), IsRun isBlank word.toList :=
  fun _ member => isRun_of_mem_words (mem_of_mem_firstItems member)

theorem toList_append_space (word text : String) :
    (word ++ " " ++ text).toList = word.toList ++ ' ' :: text.toList := by
  simp

theorem toList_spaced (list : List String) :
    (spaced list).toList = [' '].intercalate (list.map String.toList) := by
  rw [spaced, String.toList_intercalate]
  rfl

/-- The words of words with single blanks between them are these words. -/
theorem words_spaced {list : List String}
    (made : ∀ word ∈ list, IsRun isBlank word.toList) : words (spaced list) = list := by
  have runs : ∀ run ∈ list.map String.toList, IsRun isBlank run := by
    simpa using made
  rw [words, toList_spaced, runs_intercalate rfl runs, List.map_map]
  simp [Function.comp_def]

/-- The words of an excerpt are the first words of the text. -/
theorem words_excerpt (limit : Int) (text : String) :
    words (excerpt limit text) = firstItems limit (words text) :=
  words_spaced isRun_of_mem_firstItems

end Text

/-- The words of an excerpt are the first words of the wide text. -/
theorem Wide.words_excerpt (limit : Int) (wide : Wide) :
    (wide.excerpt limit).words = Text.firstItems limit wide.words :=
  Text.runs_intercalate rfl fun _ member =>
    Text.isRun_of_mem_runs (Text.mem_of_mem_firstItems member)

end WorkflowExchange

import Mathlib.Data.List.Chain
import WorkflowExchange.Proofs.Text.Words

/-!
# Excerpts of excerpts

An excerpt of an excerpt is the shorter one of two excerpts of the whole text, and every
excerpt is neat: no blank stands at its ends, no two blanks stand side by side, and each
is a plain space.  The main statement, `Text.excerpts_compose`, gives the blank
characters one by one and the words of a text as what is left of it when it is cut at
each blank; `Text.isBlank_iff_mem` and `Text.words_eq_separated` say that these are the
characters and the words that an excerpt is made with.
-/

namespace WorkflowExchange.Text

/-- The blank characters in the order of their code points. -/
def blanks : List Char :=
  ['\t', '\n', '\x0B', '\x0C', '\r', '\x1C', '\x1D', '\x1E', '\x1F', ' ', '\u0085',
    '\u00A0', '\u1680', '\u2000', '\u2001', '\u2002', '\u2003', '\u2004', '\u2005',
    '\u2006', '\u2007', '\u2008', '\u2009', '\u200A', '\u2028', '\u2029', '\u202F',
    '\u205F', '\u3000']

/-- What stands before, between and after the blanks, where it is not empty. -/
def parts (characters : List Char) : List (List Char) :=
  (characters.splitOnP (· ∈ blanks)).filter (· ≠ [])

/-- The words of a text, found by cutting it at each blank. -/
def separated (text : String) : List String :=
  (parts text.toList).map String.ofList

/-- Blanks stand only between other characters, one at a time, and are plain spaces. -/
structure Neat (text : String) : Prop where
  opens : ∀ character ∈ text.toList.head?, character ∉ blanks
  closes : ∀ character ∈ text.toList.getLast?, character ∉ blanks
  apart : text.toList.IsChain fun former latter => former ∉ blanks ∨ latter ∉ blanks
  plain : ∀ character ∈ text.toList, character ∈ blanks → character = ' '

variable {text word : String} {characters run rest : List Char} {character : Char}

/-- The intervals written out are the code points of the blank characters. -/
theorem toNat_blanks : blanks.map Char.toNat =
    blankIntervals.flatMap fun interval =>
      List.range' interval.1 (interval.2 + 1 - interval.1) := by
  decide

theorem isBlank_iff_mem : isBlank character = true ↔ character ∈ blanks := by
  have code : character ∈ blanks ↔ character.toNat ∈ blanks.map Char.toNat :=
    (List.mem_map_of_injective fun _ _ => Char.toNat_inj.mp).symm
  rw [code, toNat_blanks, isBlank, isBlankCode, List.any_eq_true, List.mem_flatMap]
  refine exists_congr fun interval => and_congr_right fun _ => ?_
  rw [List.mem_range'_1, Bool.and_eq_true, decide_eq_true_eq, decide_eq_true_eq]
  omega

theorem IsRun.not_mem_blanks (made : IsRun isBlank run) (inside : character ∈ run) :
    character ∉ blanks := by
  rw [← isBlank_iff_mem, made.visible character inside]
  exact Bool.false_ne_true

/-! ## Words between blanks -/

theorem parts_cons_of_blank (blank : isBlank character = true) :
    parts (character :: rest) = parts rest := by
  have cut : decide (character ∈ blanks) = true :=
    decide_eq_true (isBlank_iff_mem.mp blank)
  rw [parts, List.splitOnP_cons_eq_if_modifyHead, if_pos cut]
  rfl

/-- Blanks at the front are before all parts. -/
theorem parts_dropWhile (characters : List Char) :
    parts (characters.dropWhile isBlank) = parts characters := by
  induction characters with
  | nil => rfl
  | cons first rest inner =>
      by_cases blank : isBlank first = true
      · rw [List.dropWhile_cons_of_pos blank, inner, parts_cons_of_blank blank]
      · rw [List.dropWhile_cons_of_neg blank]

/-- A run that nothing visible follows is the first part. -/
theorem parts_append (made : IsRun isBlank run) (ends : rest.takeWhile (!isBlank ·) = []) :
    parts (run ++ rest) = run :: parts rest := by
  have whole : run.splitOnP (· ∈ blanks) = [run] :=
    List.splitOnP_eq_singleton fun _ inside =>
      decide_eq_false (made.not_mem_blanks inside)
  have alone : [run].filter (· ≠ []) = [run] := by simp [made.nonempty]
  cases rest with
  | nil => rw [List.append_nil, parts, whole, alone]; rfl
  | cons first others =>
      have blank : isBlank first = true := by simpa [List.takeWhile_cons] using ends
      have cut : decide (first ∈ blanks) = true :=
        decide_eq_true (isBlank_iff_mem.mp blank)
      rw [parts_cons_of_blank blank, parts, List.splitOnP_append_cons run others cut,
        List.filter_append, whole, alone]
      rfl

theorem takeWhile_dropWhile (characters : List Char) :
    (characters.dropWhile (!isBlank ·)).takeWhile (!isBlank ·) = [] := by
  have visible := List.head?_dropWhile_not (!isBlank ·) characters
  cases left : characters.dropWhile (!isBlank ·) with
  | nil => rfl
  | cons first rest =>
      rw [left] at visible
      exact List.takeWhile_cons_of_neg (by simpa using visible)

/-- Runs that are read off one after the other are the parts between blanks. -/
theorem runs_eq_parts (characters : List Char) : runs isBlank characters = parts characters := by
  rw [← parts_dropWhile]
  induction characters using runs.induct isBlank with
  | case1 characters nothing =>
      rw [runs_of_blank nothing, nothing]
      rfl
  | case2 characters first rest remaining inner =>
      have made : IsRun isBlank (first :: rest.takeWhile (!isBlank ·)) := by
        apply isRun_of_mem_runs
        rw [runs_of_visible remaining]
        exact List.mem_cons_self
      -- What is left is the first run and the rest that the induction is about.
      have whole : first :: rest = (first :: rest.takeWhile (!isBlank ·)) ++
          rest.dropWhile (!isBlank ·) := by
        rw [List.cons_append, List.takeWhile_append_dropWhile]
      rw [runs_of_visible remaining, inner, parts_dropWhile, remaining, whole,
        parts_append made (takeWhile_dropWhile rest)]

theorem words_eq_separated (text : String) : words text = separated text := by
  rw [words, runs_eq_parts, separated]

example : separated "  spaced \u3000 out  " = ["spaced", "out"] := by decide

theorem words_eq_nil_iff (text : String) :
    words text = [] ↔ ∀ character ∈ text.toList, character ∈ blanks := by
  simp only [← isBlank_iff_mem]
  rw [words, List.map_eq_nil_iff, ← List.dropWhile_eq_nil_iff]
  constructor
  · intro nothing
    by_contra left
    rcases List.exists_cons_of_ne_nil left with ⟨first, rest, remaining⟩
    rw [runs_of_visible remaining] at nothing
    cases nothing
  · exact runs_of_blank

/-! ## Neat texts -/

theorem IsRun.neat (made : IsRun isBlank word.toList) : Neat word where
  opens _ first := made.not_mem_blanks (List.mem_of_mem_head? first)
  closes _ last := made.not_mem_blanks (List.mem_of_mem_getLast? last)
  apart := (List.pairwise_of_forall_mem_list fun _ former _ _ =>
    .inl (made.not_mem_blanks former)).isChain
  plain _ inside blank := absurd blank (made.not_mem_blanks inside)

/-- The space after a word has the end of the word before it and the front of a neat
text after it, and neither is blank. -/
theorem Neat.cons (made : IsRun isBlank word.toList) (neat : Neat text) (present : text ≠ "") :
    Neat (word ++ " " ++ text) where
  opens := by
    intro character first
    rw [toList_append_space, List.head?_append_of_ne_nil _ made.nonempty] at first
    exact made.neat.opens character first
  closes := by
    intro character last
    have more : text.toList ≠ [] := by simpa using present
    rw [toList_append_space, List.getLast?_append_of_ne_nil _ (List.cons_ne_nil _ _),
      List.getLast?_cons_of_ne_nil more] at last
    exact neat.closes character last
  apart := by
    have before : ∀ former ∈ word.toList.getLast?, ∀ latter ∈ (' ' :: text.toList).head?,
        former ∉ blanks ∨ latter ∉ blanks :=
      fun former last _ _ => .inl (made.neat.closes former last)
    have after : ∀ latter ∈ text.toList.head?, ' ' ∉ blanks ∨ latter ∉ blanks :=
      fun latter first => .inr (neat.opens latter first)
    rw [toList_append_space, List.isChain_append, List.isChain_cons]
    exact ⟨made.neat.apart, ⟨after, neat.apart⟩, before⟩
  plain := by
    intro character inside blank
    rw [toList_append_space, List.mem_append, List.mem_cons] at inside
    rcases inside with within | between | after
    · exact made.neat.plain character within blank
    · exact between
    · exact neat.plain character after blank

/-- Without words there is nothing to put together. -/
theorem spaced_eq_empty_iff {list : List String}
    (made : ∀ word ∈ list, IsRun isBlank word.toList) : spaced list = "" ↔ list = [] := by
  constructor
  · intro empty
    rw [← words_spaced made, empty, words, String.toList_empty, runs_nil, List.map_nil]
  · rintro rfl
    exact String.intercalate_nil

/-- Words with single blanks between them make a neat text.  The recursion is that of
putting them together. -/
theorem neat_spaced : ∀ {list : List String}, (∀ word ∈ list, IsRun isBlank word.toList) →
    Neat (spaced list)
  | [], _ => by
      rw [spaced, String.intercalate_nil]
      constructor <;> simp
  | [word], made => by
      rw [spaced, String.intercalate_singleton]
      exact (made word List.mem_cons_self).neat
  | word :: next :: rest, made => by
      rcases List.forall_mem_cons.mp made with ⟨first, others⟩
      rw [spaced, String.intercalate_cons_cons]
      apply (neat_spaced others).cons first
      rw [ne_eq, spaced_eq_empty_iff others]
      exact List.cons_ne_nil _ _

/-! ## Excerpts -/

theorem firstItems_natCast {α : Type} (limit : Nat) (items : List α) :
    firstItems limit items = items.take limit := by
  rw [firstItems, if_pos (Int.natCast_nonneg limit), Int.toNat_natCast]

theorem excerpt_excerpt (first second : Nat) (text : String) :
    excerpt second (excerpt first text) = excerpt (min first second : Nat) text := by
  rw [excerpt, words_excerpt, excerpt]
  simp only [firstItems_natCast]
  rw [List.take_take, Nat.min_comm]

theorem excerpt_eq_empty_iff (limit : Nat) (text : String) :
    excerpt limit text = "" ↔
      limit = 0 ∨ ∀ character ∈ text.toList, character ∈ blanks := by
  rw [excerpt, spaced_eq_empty_iff isRun_of_mem_firstItems, firstItems_natCast,
    List.take_eq_nil_iff, words_eq_nil_iff]

/-- The words of an excerpt are the first words of the text, its excerpts are excerpts of
the text, and it is neat; it is empty when no word is asked for or there is none. -/
theorem excerpts_compose (text : String) (first second : Nat) :
    separated (excerpt first text) =
        (separated text).take (min first (separated text).length) ∧
      excerpt second (excerpt first text) = excerpt (min first second : Nat) text ∧
      Neat (excerpt first text) ∧
      (excerpt first text = "" ↔
        first = 0 ∨ ∀ character ∈ text.toList, character ∈ blanks) := by
  refine ⟨?words, excerpt_excerpt first second text,
    neat_spaced isRun_of_mem_firstItems, excerpt_eq_empty_iff first text⟩
  case words =>
    rw [← words_eq_separated, ← words_eq_separated, words_excerpt, firstItems_natCast]
    exact List.take_eq_take_min

end WorkflowExchange.Text

import Mathlib.Data.List.Infix
import WorkflowExchange.Text.Lowercase

/-!
# Words in lower case

Few characters have a letter of ASCII as their lower case: the capital of the letter
and the letter itself, the Kelvin sign for `k`, and the dotted capital `İ`, whose lower
case is an `i` with a dot above after it.  A word of small letters without `k` that
does not end with `i` therefore occurs in the lower case of a text just when some part
of the text is the word in some case: `Text.infix_lowered_iff`.
-/

namespace WorkflowExchange.Text

/-- A small letter that has no other character than its capital besides `i`. -/
def IsPlainLetter (character : Char) : Prop :=
  97 ≤ character.toNat ∧ character.toNat ≤ 122 ∧ character.toNat ≠ 107

instance : DecidablePred IsPlainLetter :=
  fun _ => inferInstanceAs (Decidable (_ ∧ _))

/-- What the lower case of a character can be, as far as letters of ASCII go. -/
inductive LowerCase (character : Char) : List Char → Prop
  | same : LowerCase character [character.toLower]
  | dotted (never : ¬IsPlainLetter character.toLower) :
      LowerCase character ['i', '\u0307']
  | other {lower : Char} (unlike : ¬IsPlainLetter lower)
      (never : ¬IsPlainLetter character.toLower) : LowerCase character [lower]

theorem toNat_toLower (character : Char) :
    character.toLower.toNat =
      if 65 ≤ character.toNat ∧ character.toNat ≤ 90 then character.toNat + 32
      else character.toNat := by
  by_cases capital : character.val ≥ 'A'.val ∧ character.val ≤ 'Z'.val
  · have lower : character.toLower.val = character.val + 32 :=
      congrArg Char.val (dif_pos capital)
    have bounds : 65 ≤ character.toNat ∧ character.toNat ≤ 90 :=
      ⟨UInt32.le_iff_toNat_le.mp capital.1, UInt32.le_iff_toNat_le.mp capital.2⟩
    rw [if_pos bounds]
    change character.toLower.val.toNat = character.toNat + 32
    rw [lower, UInt32.toNat_add, Nat.mod_eq_of_lt]
    · rfl
    · change character.toNat + 32 < 2 ^ 32
      omega
  · have same : character.toLower = character := dif_neg capital
    rw [same, if_neg]
    intro bounds
    exact capital ⟨UInt32.le_iff_toNat_le.mpr bounds.1,
      UInt32.le_iff_toNat_le.mpr bounds.2⟩

/-- The runs besides the one of the capitals of ASCII lead to no other letter of ASCII
than `k`. -/
theorem caseRuns_bounds : ∀ run ∈ caseRuns,
    (run.first = 65 ∧ run.last = 90 ∧ run.distance = 32) ∨
      128 ≤ run.first ∧
        (run.first = 0x212A ∧ run.last = 0x212A ∧ run.distance = -8383 ∨
          128 ≤ run.first + run.distance ∧
            (run.last + run.distance < 0xD800 ∨
              0xE000 ≤ run.first + run.distance ∧
                run.last + run.distance < 0x110000)) := by
  decide +kernel

theorem toNat_ofNat_of_valid {code : Nat} (valid : code.isValidChar) :
    (Char.ofNat code).toNat = code := by
  rw [Char.ofNat, dif_pos valid]
  rfl

/-- A character with a lower case in some run. -/
theorem lowerCase_of_run {character : Char} {run : CaseRun} (held : run ∈ caseRuns)
    (above : run.first ≤ character.toNat) (below : character.toNat ≤ run.last) :
    LowerCase character
      [Char.ofNat ((character.toNat : Int) + run.distance).toNat] := by
  rcases caseRuns_bounds run held with ⟨first, last, distance⟩ | ⟨first, others⟩
  · have moved : Char.ofNat ((character.toNat : Int) + run.distance).toNat =
        character.toLower := by
      rw [← Char.toNat_inj, toNat_toLower, if_pos ⟨by omega, by omega⟩,
        toNat_ofNat_of_valid (.inl (by omega)), distance]
      omega
    rw [moved]
    exact .same
  · have never : ¬IsPlainLetter character.toLower := by
      rw [IsPlainLetter, toNat_toLower, if_neg (by omega)]
      omega
    refine .other ?_ never
    rcases others with ⟨kelvin, only, distance⟩ | ⟨least, valid⟩
    · rw [IsPlainLetter, toNat_ofNat_of_valid (.inl (by omega))]
      omega
    · rw [IsPlainLetter, toNat_ofNat_of_valid ?_]
      · omega
      · rcases valid with small | ⟨large, bounded⟩
        · exact .inl (by omega)
        · exact .inr ⟨by omega, by omega⟩

theorem lowerCase_lowerOf (character : Char) :
    LowerCase character (lowerOf character) := by
  rw [lowerOf]
  by_cases dotted : character.toNat = 0x130
  · rw [if_pos dotted]
    refine .dotted ?_
    rw [IsPlainLetter, toNat_toLower, if_neg (by omega)]
    omega
  · rw [if_neg dotted]
    dsimp only
    cases found : caseRuns.find? fun run => run.first ≤ character.toNat &&
        character.toNat ≤ run.last && (character.toNat - run.first) % run.step = 0 with
    | some run =>
        have within := List.find?_some found
        simp only [Bool.and_eq_true, decide_eq_true_eq] at within
        exact lowerCase_of_run (List.mem_of_find?_eq_some found) within.1.1 within.1.2
    | none =>
        -- The run of the capitals of ASCII would have been found.
        have small := List.find?_eq_none.mp found ⟨65, 90, 1, 32⟩
          List.mem_cons_self
        simp only [Bool.and_eq_true, decide_eq_true_eq, Nat.mod_one, and_true] at small
        have unchanged : character.toLower = character := by
          rw [← Char.toNat_inj, toNat_toLower, if_neg small]
        have own : LowerCase character [character.toLower] := .same
        rw [unchanged] at own
        exact own

/-- The lower case of a text begins with one of its first character. -/
theorem exists_lowered_cons (before : List Char) (first : Char) (rest : List Char) :
    ∃ block, LowerCase first block ∧
      lowered before (first :: rest) = block ++ lowered (first :: before) rest := by
  rw [lowered]
  split
  · next sigma =>
      rw [Bool.and_eq_true, decide_eq_true_eq] at sigma
      refine ⟨['ς'], .other (by decide) ?_, rfl⟩
      rw [sigma.1]
      decide
  · exact ⟨_, lowerCase_lowerOf first, rfl⟩

/-- A word of small letters that have only their capitals besides them. -/
structure IsPlainWord (word : List Char) : Prop where
  letters : ∀ letter ∈ word, IsPlainLetter letter
  ends : ∀ front, word ≠ front ++ ['i']

section Words

variable {word rest : List Char} {letter : Char}

theorem IsPlainWord.tail (plain : IsPlainWord (letter :: word)) : IsPlainWord word where
  letters := (List.forall_mem_cons.mp plain.letters).2
  ends := fun front same => plain.ends (letter :: front) (by rw [same, List.cons_append])

/-- The dot above is in no word. -/
theorem IsPlainWord.not_dot_prefix (plain : IsPlainWord word) (some : word ≠ []) :
    ¬word <+: '̇' :: rest := by
  intro starts
  rcases List.prefix_cons_iff.mp starts with rfl | ⟨others, rfl, -⟩
  · exact some rfl
  · exact absurd (plain.letters _ List.mem_cons_self) (by decide)

theorem exists_prefix_of_lowered (plain : IsPlainWord word) {before text : List Char}
    (starts : word <+: lowered before text) :
    ∃ window, window <+: text ∧ window.map Char.toLower = word := by
  induction word generalizing before text with
  | nil => exact ⟨[], List.nil_prefix, rfl⟩
  | cons letter word inner =>
      rcases text with _ | ⟨first, rest⟩
      · exact absurd (List.prefix_nil.mp starts) nofun
      rcases exists_lowered_cons before first rest with ⟨block, case, same⟩
      rw [same] at starts
      cases case with
      | same =>
          rcases List.cons_prefix_cons.mp starts with ⟨rfl, later⟩
          rcases inner plain.tail later with ⟨window, within, rfl⟩
          exact ⟨first :: window, List.cons_prefix_cons.mpr ⟨rfl, within⟩, rfl⟩
      | dotted =>
          rcases List.cons_prefix_cons.mp starts with ⟨rfl, later⟩
          have more : word ≠ [] := fun none => plain.ends [] (by rw [none]; rfl)
          exact absurd later (plain.tail.not_dot_prefix more)
      | other unlike never =>
          rcases List.cons_prefix_cons.mp starts with ⟨rfl, later⟩
          exact absurd (plain.letters _ List.mem_cons_self) unlike

theorem exists_infix_of_lowered (plain : IsPlainWord word) (some : word ≠ [])
    {before text : List Char} (occurs : word <:+: lowered before text) :
    ∃ window, window <:+: text ∧ window.map Char.toLower = word := by
  induction text generalizing before with
  | nil => exact absurd (List.infix_nil.mp occurs) some
  | cons first rest inner =>
      rcases exists_lowered_cons before first rest with ⟨block, case, same⟩
      have further (occurs : word <:+: lowered (first :: before) rest) :
          ∃ window, window <:+: first :: rest ∧ window.map Char.toLower = word := by
        rcases inner occurs with ⟨window, within, lower⟩
        exact ⟨window, List.infix_cons within, lower⟩
      by_cases starts : word <+: lowered before (first :: rest)
      · rcases exists_prefix_of_lowered plain starts with ⟨window, within, lower⟩
        exact ⟨window, within.isInfix, lower⟩
      · rw [same] at occurs starts
        cases case with
        | same | other =>
            exact further ((List.infix_cons_iff.mp occurs).resolve_left starts)
        | dotted =>
            have later := (List.infix_cons_iff.mp occurs).resolve_left starts
            exact further ((List.infix_cons_iff.mp later).resolve_left
              (plain.not_dot_prefix some))

/-- A capital or small letter has just one lower case. -/
theorem exists_lowered_of_letter (plain : IsPlainLetter letter.toLower)
    (before rest : List Char) :
    lowered before (letter :: rest) =
      letter.toLower :: lowered (letter :: before) rest := by
  rcases exists_lowered_cons before letter rest with ⟨block, case, same⟩
  cases case with
  | same => exact same
  | dotted never | other _ never => exact absurd plain never

theorem prefix_lowered_append (window : List Char)
    (plain : ∀ letter ∈ window.map Char.toLower, IsPlainLetter letter)
    (before rest : List Char) :
    window.map Char.toLower <+: lowered before (window ++ rest) := by
  induction window generalizing before with
  | nil => exact List.nil_prefix
  | cons first window inner =>
      rw [List.map_cons, List.forall_mem_cons] at plain
      rw [List.cons_append, exists_lowered_of_letter plain.1, List.map_cons]
      exact List.cons_prefix_cons.mpr ⟨rfl, inner plain.2 _⟩

theorem infix_lowered_append (front : List Char) {before rest : List Char}
    (occurs : ∀ before, word <+: lowered before rest) :
    word <:+: lowered before (front ++ rest) := by
  induction front generalizing before with
  | nil => exact (occurs before).isInfix
  | cons first front inner =>
      rcases exists_lowered_cons before first (front ++ rest) with ⟨block, -, same⟩
      rw [List.cons_append, same]
      exact inner.trans (List.suffix_append _ _).isInfix

/-- A word occurs in the lower case of a text just when the text has it in some case. -/
theorem infix_lowered_iff (plain : IsPlainWord word) (some : word ≠ [])
    (before text : List Char) :
    word <:+: lowered before text ↔
      ∃ window, window <:+: text ∧ window.map Char.toLower = word := by
  refine ⟨exists_infix_of_lowered plain some, ?_⟩
  rintro ⟨window, ⟨front, back, rfl⟩, rfl⟩
  rw [List.append_assoc]
  exact infix_lowered_append front fun before =>
    prefix_lowered_append window plain.letters before back

end Words

end WorkflowExchange.Text

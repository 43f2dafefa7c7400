import WorkflowExchange.Proofs.Log.Template
import WorkflowExchange.Proofs.Reading

/-!
# Templates that are put together

A place that is complete ends with its conversion, so what follows it is not read with
it.  A template whose places are all complete is therefore cut into the same pieces
when a text is added to it: `Template.pieces_append`.  A template that was filled in is
such a template, and the text that was added is filled in from the arguments that are
left: `Template.fillPieces_pieces_append`.

Where no argument is left, only characters can be filled in, and a percent sign in the
added text is then lost or fails: `Template.length_lt_of_fillPieces`.
-/

namespace WorkflowExchange.Log

namespace Template

/-- A piece that does not break off. -/
def Piece.IsComplete : Piece → Prop
  | .character _ => True
  | .place found => found.conversion? ≠ none
  | .unclosed => False

/-! ## Cutting -/

theorem takeWhile_append_of_rest {test : Char → Bool} {front : List Char}
    (rest : List Char) (remains : front.drop (front.takeWhile test).length ≠ []) :
    (front ++ rest).takeWhile test = front.takeWhile test := by
  rw [List.takeWhile_append, if_neg]
  intro all
  rw [all, List.drop_length] at remains
  exact remains rfl

theorem drop_takeWhile_append {test : Char → Bool} (front rest : List Char) :
    (front ++ rest).drop (front.takeWhile test).length =
      front.drop (front.takeWhile test).length ++ rest :=
  List.drop_append_of_le_length (List.takeWhile_prefix test).length_le

/-- A number that something follows in the text is read as before. -/
theorem amount_append {front : List Char} (rest : List Char)
    (remains : (amount front).2 ≠ []) :
    amount (front ++ rest) = ((amount front).1, (amount front).2 ++ rest) := by
  rcases front with _ | ⟨first, front⟩
  · exact absurd rfl remains
  by_cases star : first = '*'
  · subst star
    rfl
  · rw [amount.eq_2 _ (by simp [star])] at remains ⊢
    rw [amount.eq_2 _ (by simp [star])]
    dsimp only at remains ⊢
    rw [takeWhile_append_of_rest rest remains, drop_takeWhile_append]

/-- The precision of a place, which follows a point, and what comes after it. -/
def precisionAfter : List Char → Option Amount × List Char
  | '.' :: rest => (some ((amount rest).1.getD (.given 0)), (amount rest).2)
  | others => (none, others)

theorem precisionAfter_append {front : List Char} (rest : List Char)
    (remains : (precisionAfter front).2 ≠ []) :
    precisionAfter (front ++ rest) =
      ((precisionAfter front).1, (precisionAfter front).2 ++ rest) := by
  rcases front with _ | ⟨first, front⟩
  · exact absurd rfl remains
  by_cases point : first = '.'
  · subst point
    have numbered := amount_append rest remains
    rw [List.cons_append, precisionAfter, precisionAfter, numbered]
  · rw [precisionAfter.eq_2 _ (by simp [point]),
      precisionAfter.eq_2 _ (by simp [point])]

theorem afterLength_append {front : List Char} (rest : List Char)
    (remains : afterLength front ≠ []) :
    afterLength (front ++ rest) = afterLength front ++ rest := by
  rcases front with _ | ⟨first, front⟩
  · exact absurd rfl remains
  by_cases length : first = 'h' ∨ first = 'l' ∨ first = 'L'
  · rcases length with rfl | rfl | rfl <;> rfl
  · rw [not_or, not_or] at length
    rw [afterLength.eq_4 _ (by simp [length]) (by simp [length]) (by simp [length]),
      afterLength.eq_4 _ (by simp [length]) (by simp [length]) (by simp [length])]

/-- The parts of a place after its key, in their order. -/
theorem placeAfter_eq (key? : Option String) (characters : List Char) :
    placeAfter key? characters =
      let flags := characters.takeWhile isFlag
      let width := amount (characters.drop flags.length)
      let precision := precisionAfter width.2
      let ending := afterLength precision.2
      ({ key?, flags, width? := width.1, precision? := precision.1,
         conversion? := ending.head? }, ending.tail) := by
  rw [placeAfter]
  dsimp only
  generalize amount _ = width
  rcases width with ⟨width?, _ | ⟨first, others⟩⟩
  · rfl
  by_cases point : first = '.'
  · subst point
    rfl
  · rw [precisionAfter.eq_2 _ (by simp [point])]
    split
    · simp_all
    · rfl

/-- A place that has its conversion ends there. -/
theorem placeAfter_append {key? : Option String} {front : List Char}
    (rest : List Char)
    (complete : (placeAfter key? front).1.conversion? ≠ none) :
    placeAfter key? (front ++ rest) =
      ((placeAfter key? front).1, (placeAfter key? front).2 ++ rest) := by
  have parts := placeAfter_eq key? front
  have partsAfter := placeAfter_eq key? (front ++ rest)
  dsimp only at parts partsAfter
  rw [parts] at complete ⊢
  dsimp only at complete ⊢
  -- Every part is followed by the conversion, so it is read as before.
  have ending : afterLength
      (precisionAfter (amount (front.drop (front.takeWhile isFlag).length)).2).2 ≠ [] :=
    fun none => complete (by rw [none]; rfl)
  have precision :
      (precisionAfter (amount (front.drop (front.takeWhile isFlag).length)).2).2 ≠ [] :=
    fun none => ending (by rw [none]; rfl)
  have width : (amount (front.drop (front.takeWhile isFlag).length)).2 ≠ [] :=
    fun none => precision (by rw [none]; rfl)
  have flags : front.drop (front.takeWhile isFlag).length ≠ [] :=
    fun none => width (by rw [none]; rfl)
  rw [partsAfter, takeWhile_append_of_rest rest flags, drop_takeWhile_append,
    amount_append rest width]
  dsimp only
  rw [precisionAfter_append rest precision]
  dsimp only
  rw [afterLength_append rest ending, List.tail_append_of_ne_nil ending,
    List.head?_append, Option.or_of_isSome (Option.isSome_iff_ne_none.mpr complete)]

/-- A bracket that is closed is closed at the same place in a longer text. -/
theorem bracketed_append {found : List Char × List Char} (rest : List Char) :
    ∀ {front : List Char} {depth : Nat}, bracketed depth front = some found →
      bracketed depth (front ++ rest) = some (found.1, found.2 ++ rest) := by
  intro front depth closed
  fun_induction bracketed depth front generalizing found with
  | case1 => cases closed
  | case2 rest => cases closed; rfl
  | case3 others depth inner =>
      rcases Option.map_eq_some_iff.mp closed with ⟨inside, same, rfl⟩
      rw [List.cons_append, bracketed, inner same]
      rfl
  | case4 depth others inner =>
      rcases Option.map_eq_some_iff.mp closed with ⟨inside, same, rfl⟩
      rw [List.cons_append, bracketed, inner same]
      rfl
  | case5 depth character others notClosing notOpening inner =>
      rcases Option.map_eq_some_iff.mp closed with ⟨inside, same, rfl⟩
      rw [List.cons_append, bracketed.eq_5 _ _ _ notClosing notOpening, inner same]
      rfl

theorem pieceAfter_append {front : List Char} (rest : List Char)
    (complete : (pieceAfter front).1.IsComplete) :
    pieceAfter (front ++ rest) =
      ((pieceAfter front).1, (pieceAfter front).2 ++ rest) := by
  rcases front with _ | ⟨first, others⟩
  · exact absurd rfl complete
  by_cases percent : first = '%'
  · subst percent
    rfl
  by_cases opening : first = '('
  · subst opening
    rw [List.cons_append]
    rw [pieceAfter] at complete ⊢
    cases closed : bracketed 0 others with
    | none =>
        rw [closed] at complete
        exact complete.elim
    | some found =>
        rw [closed] at complete
        rw [bracketed_append rest closed, pieceAfter, closed]
        dsimp only at complete ⊢
        rw [placeAfter_append rest complete]
  · rw [pieceAfter.eq_3 _ (by simp [percent]) (by simp [opening])] at complete ⊢
    rw [pieceAfter.eq_3 _ (by simp [percent]) (by simp [opening])]
    dsimp only at complete ⊢
    rw [placeAfter_append rest complete]

theorem amount_suffix (characters : List Char) :
    (amount characters).2 <:+ characters := by
  fun_cases amount characters with
  | case1 rest => exact List.suffix_cons '*' rest
  | case2 => exact List.drop_suffix _ _

theorem precisionAfter_suffix (characters : List Char) :
    (precisionAfter characters).2 <:+ characters := by
  fun_cases precisionAfter characters with
  | case1 rest => exact (amount_suffix rest).trans (List.suffix_cons '.' rest)
  | case2 => exact List.suffix_refl _

theorem afterLength_suffix (characters : List Char) :
    afterLength characters <:+ characters := by
  fun_cases afterLength characters with
  | case1 | case2 | case3 => exact List.suffix_cons _ _
  | case4 => exact List.suffix_refl _

theorem placeAfter_suffix (key? : Option String) (characters : List Char) :
    (placeAfter key? characters).2 <:+ characters := by
  rw [placeAfter_eq]
  exact (List.tail_suffix _).trans <| (afterLength_suffix _).trans <|
    (precisionAfter_suffix _).trans <| (amount_suffix _).trans (List.drop_suffix _ _)

theorem bracketed_suffix {characters : List Char} {depth : Nat}
    {found : List Char × List Char} (closed : bracketed depth characters = some found) :
    found.2 <:+ characters := by
  fun_induction bracketed depth characters generalizing found with
  | case1 => cases closed
  | case2 rest =>
      cases closed
      exact List.suffix_cons ')' rest
  | case3 _ _ inner | case4 _ _ inner | case5 _ _ _ _ _ inner =>
      rcases Option.map_eq_some_iff.mp closed with ⟨inside, same, rfl⟩
      exact (inner same).trans (List.suffix_cons _ _)

/-- What a piece leaves is an ending of the text. -/
theorem pieceAfter_suffix (characters : List Char) :
    (pieceAfter characters).2 <:+ characters := by
  fun_cases pieceAfter characters with
  | case1 rest => exact List.suffix_cons '%' rest
  | case2 => exact List.nil_suffix
  | case3 rest key after closed place remaining read =>
      have ending := placeAfter_suffix (some (String.ofList key)) after
      rw [read] at ending
      exact ending.trans ((bracketed_suffix closed).trans (List.suffix_cons '(' rest))
  | case4 characters => exact placeAfter_suffix none characters

/-- The bound on the number of pieces is never reached. -/
theorem piecesWithin_eq_of_le {characters : List Char} {bound other : Nat}
    (within : characters.length ≤ bound) (withinOther : characters.length ≤ other) :
    piecesWithin bound characters = piecesWithin other characters := by
  induction bound generalizing characters other with
  | zero =>
      rw [List.length_eq_zero_iff.mp (Nat.le_zero.mp within)]
      cases other <;> rfl
  | succ bound inner =>
      rcases characters with _ | ⟨first, rest⟩
      · cases other <;> rfl
      rcases other with _ | other
      · exact absurd withinOther (Nat.not_succ_le_zero _)
      have restWithin : rest.length ≤ bound := Nat.le_of_succ_le_succ within
      have restOther : rest.length ≤ other := Nat.le_of_succ_le_succ withinOther
      by_cases percent : first = '%'
      · subst percent
        have shorter := (pieceAfter_suffix rest).length_le
        rw [piecesWithin, piecesWithin,
          inner (Nat.le_trans shorter restWithin) (Nat.le_trans shorter restOther)]
      · rw [piecesWithin.eq_4 _ _ _ percent, piecesWithin.eq_4 _ _ _ percent,
          inner restWithin restOther]

/-- A text whose pieces are complete is cut as before when it goes on. -/
theorem piecesWithin_append_of_isComplete {front rest : List Char} {bound : Nat}
    (within : (front ++ rest).length ≤ bound)
    (complete : ∀ piece ∈ piecesWithin bound front, piece.IsComplete) :
    piecesWithin bound (front ++ rest) =
      piecesWithin bound front ++ piecesWithin bound rest := by
  induction bound generalizing front with
  | zero =>
      rcases List.append_eq_nil_iff.mp
        (List.length_eq_zero_iff.mp (Nat.le_zero.mp within)) with ⟨rfl, rfl⟩
      rfl
  | succ bound inner =>
      rcases front with _ | ⟨first, front⟩
      · rfl
      have frontWithin : (front ++ rest).length ≤ bound := Nat.le_of_succ_le_succ within
      have restWithin : rest.length ≤ bound := by
        rw [List.length_append] at frontWithin
        omega
      have enough : piecesWithin (bound + 1) rest = piecesWithin bound rest :=
        piecesWithin_eq_of_le (Nat.le_succ_of_le restWithin) restWithin
      rw [List.cons_append, enough]
      by_cases percent : first = '%'
      · subst percent
        rw [piecesWithin] at complete ⊢
        rw [List.forall_mem_cons] at complete
        have shorter : ((pieceAfter front).2 ++ rest).length ≤ bound := by
          have := (pieceAfter_suffix front).length_le
          rw [List.length_append] at frontWithin ⊢
          omega
        rw [piecesWithin, pieceAfter_append rest complete.1]
        dsimp only
        rw [inner shorter complete.2, List.cons_append]
      · rw [piecesWithin.eq_4 _ _ _ percent] at complete ⊢
        rw [piecesWithin.eq_4 _ _ _ percent,
          inner frontWithin (List.forall_mem_cons.mp complete).2, List.cons_append]

theorem pieces_eq_of_le {text : String} {bound : Nat} (within : text.length ≤ bound) :
    pieces text = piecesWithin bound text.toList := by
  rw [← String.length_toList] at within
  rw [pieces, ← String.length_toList]
  exact piecesWithin_eq_of_le (Nat.le_refl _) within

/-- A template whose pieces are complete keeps them when a text is added to it. -/
theorem pieces_append {front rest : String}
    (complete : ∀ piece ∈ pieces front, piece.IsComplete) :
    pieces (front ++ rest) = pieces front ++ pieces rest := by
  have bounded {text : String} (within : text.length ≤ front.length + rest.length) :
      pieces text = piecesWithin (front.length + rest.length) text.toList :=
    pieces_eq_of_le within
  rw [bounded (Nat.le_add_right _ _)] at complete
  rw [bounded (Nat.le_add_right _ _), bounded (Nat.le_add_left _ _), pieces,
    String.length_append, String.toList_append]
  refine piecesWithin_append_of_isComplete (Nat.le_of_eq ?_) complete
  rw [List.length_append, String.length_toList, String.length_toList]

/-! ## Filling in -/

/-- What can happen to the arguments while places are filled in: the dictionary for
named places stays, and without one the arguments are taken from the front. -/
structure Supply.Spends (before after : Supply) : Prop where
  named : after.named? = before.named?
  taken : before.named? = none → after.left <:+ before.left

theorem Supply.Spends.refl (supply : Supply) : supply.Spends supply :=
  ⟨rfl, fun _ => List.suffix_refl _⟩

theorem Supply.Spends.trans {first second third : Supply}
    (earlier : first.Spends second) (later : second.Spends third) :
    first.Spends third where
  named := later.named.trans earlier.named
  taken := fun unnamed =>
    (later.taken (earlier.named.trans unnamed)).trans (earlier.taken unnamed)

section Steps

variable {supply left : Supply}

theorem Supply.next_eq_ok {value : Value} (taken : supply.next = .ok (value, left)) :
    supply.left = value :: left.left ∧ supply.Spends left := by
  rcases supply with ⟨_ | ⟨first, rest⟩, named?⟩
  · cases taken
  · cases taken
    exact ⟨rfl, rfl, fun _ => List.suffix_cons _ _⟩

theorem Supply.spends_of_pick {key : String} (picked : supply.pick key = .ok left) :
    supply.Spends left := by
  rcases supply with ⟨arguments, _ | named⟩
  · cases picked
  · refine ⟨?_, nofun⟩
    cases named with
    | dict type failure entries =>
        rw [Supply.pick] at picked
        dsimp only at picked
        cases found : Value.lookup? entries key with
        | none =>
            rw [found] at picked
            cases picked
        | some value =>
            rw [found] at picked
            cases picked
            rfl
    | _ => cases picked

theorem Amount.spends_of_resolve {bound : Nat} {amount? : Option Amount}
    {number? : Option Int}
    (resolved : Amount.resolve bound supply amount? = .ok (number?, left)) :
    supply.Spends left := by
  rcases amount? with _ | number | _
  · cases resolved
    exact .refl supply
  · rw [Amount.resolve] at resolved
    split at resolved
    · cases resolved
      exact .refl supply
    · cases resolved
  · rcases Except.bind_eq_ok.mp resolved with ⟨⟨value, rest⟩, taken, resolved⟩
    rcases Except.bind_eq_ok.mp resolved with ⟨number, -, resolved⟩
    split at resolved
    · cases resolved
      exact (Supply.next_eq_ok taken).2
    · cases resolved

/-- A place that was filled in had its conversion and took an argument. -/
theorem Place.fill_eq_ok_of_unkeyed {place : Place} {text : String}
    (unkeyed : place.key? = none) (filled : place.fill supply = .ok (text, left)) :
    place.conversion? ≠ none ∧ supply.Spends left ∧
      (supply.named? = none → left.left.length < supply.left.length) := by
  rw [Place.fill, unkeyed] at filled
  rcases Except.bind_eq_ok.mp filled with ⟨keyed, same, filled⟩
  cases same
  rcases Except.bind_eq_ok.mp filled with ⟨⟨width?, widened⟩, wide, filled⟩
  rcases Except.bind_eq_ok.mp filled with ⟨⟨precision?, limited⟩, precise, filled⟩
  have spent : supply.Spends limited :=
    (Amount.spends_of_resolve wide).trans (Amount.spends_of_resolve precise)
  cases ending : place.conversion? with
  | none =>
      rw [ending] at filled
      cases filled
  | some conversion =>
      rw [ending] at filled
      rcases Except.bind_eq_ok.mp filled with ⟨⟨value, rest⟩, taken, filled⟩
      rcases Except.bind_eq_ok.mp filled with ⟨converted, -, filled⟩
      cases filled
      rcases Supply.next_eq_ok taken with ⟨first, last⟩
      refine ⟨Option.some_ne_none conversion, spent.trans last, fun unnamed => ?_⟩
      have shorter := (spent.taken unnamed).length_le
      rw [first, List.length_cons] at shorter
      exact shorter

theorem Place.fill_eq_ok {place : Place} {text : String}
    (filled : place.fill supply = .ok (text, left)) :
    place.conversion? ≠ none ∧ supply.Spends left ∧
      (supply.named? = none → left.left.length < supply.left.length) := by
  cases keyed : place.key? with
  | none => exact Place.fill_eq_ok_of_unkeyed keyed filled
  | some key =>
      -- Once its entry is picked, the place is filled in like one without a key.
      have ⟨picked, found, rested⟩ : ∃ picked, supply.pick key = .ok picked ∧
          ({ place with key? := none } : Place).fill picked = .ok (text, left) := by
        rw [Place.fill, keyed] at filled
        exact Except.bind_eq_ok.mp filled
      have spent := Supply.spends_of_pick found
      rcases Place.fill_eq_ok_of_unkeyed rfl rested with ⟨conversion, spends, taken⟩
      refine ⟨conversion, spent.trans spends, fun unnamed => ?_⟩
      exact Nat.lt_of_lt_of_le (taken (spent.named.trans unnamed))
        (spent.taken unnamed).length_le

variable {first second : List Piece} {shown : List Char}

theorem fillPieces_place_eq_ok {place : Place} {rest : List Piece}
    {result : List Char × Supply}
    (filled : fillPieces (.place place :: rest) supply = .ok result) :
    ∃ text spent others, place.fill supply = .ok (text, spent) ∧
      fillPieces rest spent = .ok (others, result.2) ∧
        result.1 = text.toList ++ others := by
  rcases Except.bind_eq_ok.mp filled with ⟨⟨text, spent⟩, placed, filled⟩
  rcases Except.bind_eq_ok.mp filled with ⟨⟨others, last⟩, rested, filled⟩
  cases filled
  exact ⟨text, spent, others, placed, rested, rfl⟩

theorem fillPieces_character_eq_ok {character : Char} {rest : List Piece}
    {result : List Char × Supply}
    (filled : fillPieces (.character character :: rest) supply = .ok result) :
    ∃ others, fillPieces rest supply = .ok (others, result.2) ∧
      result.1 = character :: others := by
  rcases Except.bind_eq_ok.mp filled with ⟨⟨others, last⟩, rested, filled⟩
  cases filled
  exact ⟨others, rested, rfl⟩

/-- Pieces that were filled in are complete. -/
theorem isComplete_of_fillPieces (filled : fillPieces first supply = .ok (shown, left)) :
    supply.Spends left ∧ ∀ piece ∈ first, piece.IsComplete := by
  induction first generalizing supply shown with
  | nil =>
      cases filled
      exact ⟨.refl _, nofun⟩
  | cons piece rest inner =>
      cases piece with
      | character character =>
          rcases fillPieces_character_eq_ok filled with ⟨others, rested, -⟩
          rcases inner rested with ⟨spends, complete⟩
          exact ⟨spends, List.forall_mem_cons.mpr ⟨trivial, complete⟩⟩
      | unclosed => cases filled
      | place place =>
          rcases fillPieces_place_eq_ok filled with
            ⟨text, spent, others, placed, rested, -⟩
          rcases Place.fill_eq_ok placed with ⟨conversion, spends, -⟩
          rcases inner rested with ⟨later, complete⟩
          exact ⟨spends.trans later, List.forall_mem_cons.mpr ⟨conversion, complete⟩⟩

/-- Pieces that come after others are filled in from the arguments that are left. -/
theorem fillPieces_append_of_ok (filled : fillPieces first supply = .ok (shown, left)) :
    fillPieces (first ++ second) supply =
      (fillPieces second left).map fun others => (shown ++ others.1, others.2) := by
  induction first generalizing supply shown with
  | nil =>
      cases filled
      cases others : fillPieces second left <;> simp [others, Except.map]
  | cons piece rest inner =>
      cases piece with
      | character character =>
          rcases fillPieces_character_eq_ok filled with ⟨others, rested, same⟩
          dsimp only at same
          rw [List.cons_append, fillPieces, inner rested, same]
          cases fillPieces second left <;> rfl
      | unclosed => cases filled
      | place place =>
          rcases fillPieces_place_eq_ok filled with
            ⟨text, spent, others, placed, rested, same⟩
          dsimp only at same
          rw [List.cons_append, fillPieces, placed]
          simp only [bind, Except.bind]
          rw [inner rested, same]
          cases fillPieces second left with
          | error => rfl
          | ok => simp [Except.map, pure, Except.pure]

/-- Text without a percent sign is filled in as it is. -/
theorem fillPieces_plain {text : String} (plain : '%' ∉ text.toList) (supply : Supply) :
    fillPieces (pieces text) supply = .ok (text.toList, supply) := by
  have cut := piecesWithin_append 0 [] plain
  have filled := fillPieces_append [] supply text.toList
  rw [List.append_nil] at cut filled
  rw [pieces, ← String.length_toList, ← Nat.add_zero text.toList.length, cut,
    piecesWithin, List.append_nil, filled, fillPieces, Except.map, List.append_nil]

/-- A percent sign that stands for a character is followed by another one. -/
theorem eq_of_pieceAfter_character {rest : List Char} {character : Char} :
    (pieceAfter rest).1 = .character character → rest = '%' :: (pieceAfter rest).2 := by
  fun_cases pieceAfter rest with
  | case1 => exact fun _ => rfl
  | case2 | case3 | case4 => nofun

/-- Where no argument is left, a text gets no longer, and shorter if it has a percent
sign, because only two percent signs can be filled in, as one. -/
theorem length_of_fillPieces_exhausted {characters : List Char} {bound : Nat}
    (exhausted : supply.left = []) (unnamed : supply.named? = none)
    (within : characters.length ≤ bound)
    (filled : fillPieces (piecesWithin bound characters) supply = .ok (shown, left)) :
    shown.length ≤ characters.length ∧
      ('%' ∈ characters → shown.length < characters.length) := by
  induction bound generalizing characters shown with
  | zero =>
      rw [List.length_eq_zero_iff.mp (Nat.le_zero.mp within)]
      cases filled
      exact ⟨Nat.le_refl _, nofun⟩
  | succ bound inner =>
      rcases characters with _ | ⟨first, rest⟩
      · cases filled
        exact ⟨Nat.le_refl _, nofun⟩
      rw [List.length_cons] at within ⊢
      by_cases percent : first = '%'
      · subst percent
        rw [piecesWithin] at filled
        cases piece : (pieceAfter rest).1 with
        | character character =>
            have lengths := congrArg List.length (eq_of_pieceAfter_character piece)
            rw [List.length_cons] at lengths
            rw [piece] at filled
            rcases fillPieces_character_eq_ok filled with ⟨others, rested, same⟩
            have bounded := (inner (by omega) rested).1
            dsimp only at same
            rw [same, List.length_cons]
            exact ⟨by omega, fun _ => by omega⟩
        | unclosed =>
            rw [piece] at filled
            cases filled
        | place place =>
            rw [piece] at filled
            rcases fillPieces_place_eq_ok filled with ⟨text, spent, others, placed, -⟩
            have taken := (Place.fill_eq_ok placed).2.2 unnamed
            rw [exhausted] at taken
            exact absurd taken (Nat.not_lt_zero _)
      · rw [piecesWithin.eq_4 _ _ _ percent] at filled
        rcases fillPieces_character_eq_ok filled with ⟨others, rested, same⟩
        rcases inner (Nat.le_of_succ_le_succ within) rested with ⟨bounded, shorter⟩
        dsimp only at same
        rw [same, List.length_cons]
        refine ⟨Nat.succ_le_succ bounded, fun holds => ?_⟩
        exact Nat.succ_lt_succ
          (shorter ((List.mem_cons.mp holds).resolve_left (Ne.symm percent)))

end Steps

end Template

end WorkflowExchange.Log

import WorkflowExchange.Log.Template

/-!
# Lines that name one thing

Most messages have a single place and put a name into it.  A template that is
plain text around one place becomes the text around the name, whatever the name
holds: what is put into a place is not read as a template again.
-/

namespace WorkflowExchange.Log

namespace Template

/-- The place for a text as it is. -/
def namePlace : Place where
  key? := none
  flags := []
  width? := none
  precision? := none
  conversion? := some 's'

/-- Text without a percent sign is cut into its characters. -/
theorem piecesWithin_append (bound : Nat) (rest : List Char) :
    ∀ {plain : List Char}, '%' ∉ plain →
      piecesWithin (plain.length + bound) (plain ++ rest) =
        plain.map .character ++ piecesWithin bound rest
  | [], _ => by simp
  | character :: plain, absent => by
      rw [List.mem_cons, not_or] at absent
      have different : character ≠ '%' := Ne.symm absent.1
      have levels : (character :: plain).length + bound =
          plain.length + bound + 1 := by
        rw [List.length_cons]
        omega
      rw [levels, List.cons_append, piecesWithin.eq_4 _ _ _ different,
        piecesWithin_append bound rest absent.2]
      rfl

theorem pieceAfter_name (rest : List Char) :
    pieceAfter ('s' :: rest) = (.place namePlace, rest) :=
  rfl

/-- The pieces of a text around one place. -/
theorem pieces_of_name {before after : String} (plain : '%' ∉ before.toList)
    (plainAfter : '%' ∉ after.toList) :
    pieces (before ++ "%s" ++ after) =
      before.toList.map .character ++
        .place namePlace :: after.toList.map .character := by
  have characters : (before ++ "%s" ++ after).toList =
      before.toList ++ '%' :: 's' :: (after.toList ++ []) := by
    simp
  have bound : (before ++ "%s" ++ after).length =
      before.toList.length + ((after.toList.length + 1) + 1) := by
    rw [← String.length_toList, characters]
    simp
  rw [pieces, characters, bound, piecesWithin_append _ _ plain, piecesWithin,
    pieceAfter_name]
  dsimp only
  rw [piecesWithin_append 1 [] plainAfter]
  simp [piecesWithin]

theorem fillPieces_append (pieces : List Piece) (supply : Supply) :
    ∀ plain : List Char,
      fillPieces (plain.map .character ++ pieces) supply =
        (fillPieces pieces supply).map fun filled =>
          (plain ++ filled.1, filled.2)
  | [] => by
      rw [List.map_nil, List.nil_append]
      cases fillPieces pieces supply <;> rfl
  | character :: plain => by
      rw [List.map_cons, List.cons_append, fillPieces,
        fillPieces_append pieces supply plain]
      cases fillPieces pieces supply <;> rfl

theorem fill_namePlace (name : String) (named? : Option Value) :
    namePlace.fill ⟨[.text name], named?⟩ = .ok (name, ⟨[], named?⟩) := by
  simp [namePlace, Place.fill, Amount.resolve, Supply.next, convert,
    Value.display, Scalar.display, Scalar.prose, Shape.ofText, Shape.padded, bind, Except.bind,
    pure, Except.pure, Except.map]

end Template

/-- A message that puts a name between two texts reads so. -/
theorem record_of_name (level : Level) (before name after : String)
    (plain : '%' ∉ before.toList) (plainAfter : '%' ∉ after.toList) :
    (⟨level, before ++ "%s" ++ after, [.text name]⟩ : Message).record =
      .ok ⟨level, before ++ name ++ after⟩ := by
  have supply : Template.Supply.ofArguments [.text name] =
      ⟨[.text name], none⟩ := rfl
  have filled : Template.fillPieces
      (Template.pieces (before ++ "%s" ++ after)) ⟨[.text name], none⟩ =
        .ok (before.toList ++ (name.toList ++ after.toList), ⟨[], none⟩) := by
    have closing := Template.fillPieces_append [] ⟨[], none⟩ after.toList
    rw [List.append_nil] at closing
    rw [Template.pieces_of_name plain plainAfter, Template.fillPieces_append,
      Template.fillPieces, Template.fill_namePlace]
    simp [closing, Template.fillPieces, bind, Except.bind, pure, Except.pure,
      Except.map]
  simp [Message.record, Message.line, Template.fill, supply, filled,
    Template.Supply.isUnused, bind, Except.bind, pure, Except.pure, Except.map,
    String.ext_iff]

end WorkflowExchange.Log

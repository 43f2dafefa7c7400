import WorkflowExchange.Text.Excerpt
import WorkflowExchange.Text.Literal

/-!
# Wide texts

A text of the host is a list of code points, and halves of UTF-16 pairs may stand alone
among them.  Such a wide text is cut, joined and written like any other, but it has no
encoding while a half is in it: `Wide.string?` is the text in Unicode that it is, if it
is one.
-/

namespace WorkflowExchange

/-- A text by its code points, the halves of UTF-16 pairs among them. -/
abbrev Wide := List Nat

namespace Wide

def ofString (text : String) : Wide :=
  text.toList.map Char.toNat

instance : Coe String Wide := ⟨ofString⟩

/-- The text in Unicode that a wide text is, unless a half stands in it. -/
def string? (wide : Wide) : Option String :=
  if ∀ code ∈ wide, code.isValidChar then
    some (String.ofList (wide.map Char.ofNat))
  else none

/-- A wide text with a replacement for each half. -/
def shown (wide : Wide) : String :=
  String.ofList (wide.map fun code =>
    if code.isValidChar then Char.ofNat code else '\uFFFD')

@[simp]
theorem ofString_append (one other : String) :
    ofString (one ++ other) = ofString one ++ ofString other := by
  simp [ofString]

theorem toNat_ofNat {code : Nat} (valid : code.isValidChar) :
    (Char.ofNat code).toNat = code := by
  rw [Char.ofNat, dif_pos valid]
  rfl

theorem isValidChar_of_mem_ofString {text : String} {code : Nat}
    (member : code ∈ ofString text) : code.isValidChar := by
  rcases List.mem_map.mp member with ⟨character, -, rfl⟩
  exact character.valid

theorem map_ofString (text : String) :
    (ofString text).map Char.ofNat = text.toList := by
  simp [ofString, Function.comp_def]

@[simp]
theorem string?_ofString (text : String) : (ofString text).string? = some text := by
  rw [string?, if_pos fun _ => isValidChar_of_mem_ofString, map_ofString,
    String.ofList_toList]

@[simp]
theorem shown_ofString (text : String) : (ofString text).shown = text := by
  have kept : (ofString text).map (fun code =>
      if code.isValidChar then Char.ofNat code else '\uFFFD') =
        (ofString text).map Char.ofNat :=
    List.map_congr_left fun _ member => if_pos (isValidChar_of_mem_ofString member)
  rw [shown, kept, map_ofString, String.ofList_toList]

theorem ofString_injective : Function.Injective ofString := by
  intro one other same
  simpa using congrArg string? same

/-- A wide text is a text in Unicode just when it is made of one. -/
theorem string?_eq_some {wide : Wide} {text : String} :
    wide.string? = some text ↔ wide = ofString text := by
  constructor
  · intro unicode
    rw [string?] at unicode
    split at unicode
    · next valid =>
        cases unicode
        rw [ofString, String.toList_ofList, List.map_map]
        symm
        exact (List.map_congr_left fun code member =>
          toNat_ofNat (valid code member)).trans (List.map_id' wide)
    · cases unicode
  · rintro rfl
    exact string?_ofString text

/-- The segment after the last point, or the whole text. -/
def afterPoint (wide : Wide) : Wide :=
  Text.afterLast '.'.toNat wide

def words (wide : Wide) : List Wide :=
  Text.runs Text.isBlankCode wide

/-- Words with single blanks between them. -/
def spaced (words : List Wide) : Wide :=
  List.intercalate (ofString " ") words

/-- The first words of a wide text with single blanks between them. -/
def excerpt (limit : Int) (wide : Wide) : Wide :=
  spaced (Text.firstItems limit wide.words)

/-- The written form of a code point inside a literal. -/
def literalEscape (mark : Char) (code : Nat) : List Char :=
  if code.isValidChar then
    Text.literalEscape Text.isPrintable mark (Char.ofNat code)
  else Text.codeEscape code

/-- The literal of a wide text; halves are written by their codes. -/
def literal (wide : Wide) : String :=
  let mark := Text.quotationMark wide.shown.toList
  String.ofList (mark :: wide.flatMap (literalEscape mark) ++ [mark])

end Wide

end WorkflowExchange

/-!
# Blank characters, words and trimming

A character is blank when Unicode gives it the White_Space property or when it
is one of the four information separators U+001C to U+001F.  Zero-width
characters such as U+200B, U+180E and U+FEFF are not blank.

`words` cuts a text into its maximal runs of non-blank characters and `trim`
removes the blank characters at both ends.  `runs` and `pieces` cut any list: of
characters, or of the code points of a text.
-/

namespace WorkflowExchange.Text

/-- The code point intervals of the blank characters, both ends included. -/
def blankIntervals : List (Nat × Nat) :=
  [(0x09, 0x0D), (0x1C, 0x20), (0x85, 0x85), (0xA0, 0xA0), (0x1680, 0x1680),
    (0x2000, 0x200A), (0x2028, 0x2029), (0x202F, 0x202F), (0x205F, 0x205F),
    (0x3000, 0x3000)]

def isBlankCode (code : Nat) : Bool :=
  blankIntervals.any fun interval => interval.1 ≤ code && code ≤ interval.2

/-- Does a character separate words? -/
def isBlank (character : Char) : Bool :=
  isBlankCode character.toNat

/-- The maximal runs of letters that are not blank, in order. -/
def runs {α : Type} (blank : α → Bool) (letters : List α) : List (List α) :=
  match _remaining : letters.dropWhile blank with
  | [] => []
  | first :: rest =>
    (first :: rest.takeWhile (!blank ·)) :: runs blank (rest.dropWhile (!blank ·))
termination_by letters.length
decreasing_by
  have shorter : (rest.dropWhile (!blank ·)).length ≤ rest.length :=
    (List.dropWhile_suffix _).length_le
  have suffix : (letters.dropWhile blank).length ≤ letters.length :=
    (List.dropWhile_suffix _).length_le
  simp_all
  omega

def words (text : String) : List String :=
  (runs isBlank text.toList).map String.ofList

/-- The characters of a text without the blank ones at its two ends. -/
def trimmed (characters : List Char) : List Char :=
  ((characters.dropWhile isBlank).reverse.dropWhile isBlank).reverse

/-- The text without the blank characters at its two ends. -/
def trim (text : String) : String :=
  String.ofList (trimmed text.toList)

section Pieces

variable {α : Type} [DecidableEq α]

/-- Cut a list at every occurrence of a separator. -/
def pieces (separator : α) : List α → List (List α)
  | [] => [[]]
  | first :: rest =>
    if first = separator then
      [] :: pieces separator rest
    else
      match pieces separator rest with
      | [] => [[first]]
      | piece :: others => (first :: piece) :: others

theorem pieces_ne_nil (separator : α) (letters : List α) :
    pieces separator letters ≠ [] := by
  cases letters with
  | nil => simp [pieces]
  | cons first rest =>
    unfold pieces
    split
    · simp
    · split <;> simp

/-- What follows the last occurrence of a separator, or the whole list. -/
def afterLast (separator : α) (letters : List α) : List α :=
  (pieces separator letters).getLast (pieces_ne_nil _ _)

end Pieces

/-- Does a list of characters occur within another? -/
def occursIn (needle : List Char) : List Char → Bool
  | [] => needle.isEmpty
  | first :: rest =>
    needle.isPrefixOf (first :: rest) || occursIn needle rest

end WorkflowExchange.Text

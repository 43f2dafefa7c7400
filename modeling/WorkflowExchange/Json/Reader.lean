import WorkflowExchange.Json.Basic
import WorkflowExchange.Number.Reading
import WorkflowExchange.Text.Units

/-!
# Reading JSON text

The reader accepts JSON and the number names `NaN`, `Infinity` and
`-Infinity`.  Every step returns the characters it left together with a proof
that it took at least one, which is why reading ends.  Where a text is malformed
the failure holds the characters that remained, so its offset is the length of
the text less the length of that list.  Arrays and objects can be nested as
deeply as the caller allows.
-/

namespace WorkflowExchange.Json

/-- A reason for which reading stopped: what remained is no JSON, or arrays and
objects are nested too deeply, or an integer has too many digits. -/
inductive Stuck where
  | malformed (remaining : List Char)
  | tooDeep
  | tooLong

/-- A value read from the front of some characters, and what is left. -/
structure Taken (α : Type) (characters : List Char) where
  value : α
  rest : List Char
  shorter : rest.length < characters.length

/-- Is the character a blank between JSON tokens? -/
def isGap (character : Char) : Bool :=
  character == ' ' || character == '\t' || character == '\n' || character == '\r'

def skipGap (characters : List Char) : List Char :=
  characters.dropWhile isGap

theorem skipGap_length_le (characters : List Char) :
    (skipGap characters).length ≤ characters.length :=
  (List.dropWhile_suffix _).length_le

def hexValue? (character : Char) : Option Nat :=
  if '0' ≤ character && character ≤ '9' then
    some (character.toNat - '0'.toNat)
  else if 'a' ≤ character && character ≤ 'f' then
    some (character.toNat - 'a'.toNat + 10)
  else if 'A' ≤ character && character ≤ 'F' then
    some (character.toNat - 'A'.toNat + 10)
  else none

def hexUnit? (digits : List Char) : Option Nat :=
  digits.foldl
    (fun total character =>
      match total, hexValue? character with
      | some number, some digit => some (16 * number + digit)
      | _, _ => none)
    (if digits.length = 4 then some 0 else none)

def shortEscape? (character : Char) : Option Char :=
  match character with
  | '"' => some '"'
  | '\\' => some '\\'
  | '/' => some '/'
  | 'b' => some '\x08'
  | 'f' => some '\x0c'
  | 'n' => some '\n'
  | 'r' => some '\r'
  | 't' => some '\t'
  | _ => none

/-- One written unit of a text, and what is left. -/
def readUnit (opening : List Char) :
    (characters : List Char) → Except Stuck (Taken Nat characters)
  | [] => .error (.malformed opening)
  | '\\' :: [] => .error (.malformed opening)
  | '\\' :: 'u' :: rest =>
    if rest.length < 5 then .error (.malformed ('u' :: rest))
    else
      match hexUnit? (rest.take 4) with
      | none => .error (.malformed ('u' :: rest))
      | some unit =>
        .ok ⟨unit, rest.drop 4,
          by simp only [List.length_drop, List.length_cons]; omega⟩
  | '\\' :: letter :: rest =>
    match shortEscape? letter with
    | none => .error (.malformed ('\\' :: letter :: rest))
    | some character =>
      .ok ⟨character.toNat, rest, by simp only [List.length_cons]; omega⟩
  | character :: rest =>
    if character.toNat < 0x20 then .error (.malformed (character :: rest))
    else .ok ⟨character.toNat, rest, by simp⟩

/-- Read the code points of the rest of a text after its opening quotation mark.  `opening` is
what remained at that mark, `collected` holds the units so far, the last one
first, and `start` is where the text began. -/
def readText (start opening : List Char) (collected : List Nat)
    (characters : List Char) (within : characters.length ≤ start.length) :
    Except Stuck (Taken (List Nat) start) :=
  if closes : characters.head? = some '"' then
    .ok ⟨Text.joined collected.reverse, characters.tail, by
      cases characters with
      | nil => cases closes
      | cons first rest => exact Nat.lt_of_succ_le within⟩
  else
    match readUnit opening characters with
    | .error stuck => .error stuck
    | .ok unit =>
      readText start opening (unit.value :: collected) unit.rest
        (Nat.le_trans (Nat.le_of_lt unit.shorter) within)
termination_by characters.length
decreasing_by exact unit.shorter

/-- Read the digits of a number that starts with a digit. -/
def readMagnitude (negative : Bool) (characters : List Char) :
    Except Stuck (Json × List Char) :=
  let whole :=
    match characters with
    | '0' :: _ => ['0']
    | others => others.takeWhile Number.isDigit
  if whole.isEmpty then .error (.malformed characters)
  else
    let afterWhole := characters.drop whole.length
    let fraction :=
      match afterWhole with
      | '.' :: rest => rest.takeWhile Number.isDigit
      | _ => []
    let afterFraction :=
      if fraction.isEmpty then afterWhole
      else afterWhole.drop (fraction.length + 1)
    let power : Option (Int × List Char) :=
      match afterFraction with
      | letter :: rest =>
        if letter == 'e' || letter == 'E' then
          let signed := Number.splitSign rest
          let digits := signed.2.takeWhile Number.isDigit
          if digits.isEmpty then none
          else
            let size : Int := Number.ofDigits digits
            some (if signed.1 then -size else size, signed.2.drop digits.length)
        else none
      | [] => none
    if fraction.isEmpty && power.isNone then
      if Number.digitLimit < whole.length then .error .tooLong
      else
        let size : Int := Number.ofDigits whole
        .ok (.int (if negative then -size else size), afterWhole)
    else
      let exponent := (power.map (·.1)).getD 0 - fraction.length
      .ok (.float (.ofDecimal negative (Number.ofDigits (whole ++ fraction))
        exponent), (power.map (·.2)).getD afterFraction)

def readPlain (characters : List Char) : Except Stuck (Json × List Char) :=
  match characters with
  | 'n' :: 'u' :: 'l' :: 'l' :: rest => .ok (.null, rest)
  | 't' :: 'r' :: 'u' :: 'e' :: rest => .ok (.bool true, rest)
  | 'f' :: 'a' :: 'l' :: 's' :: 'e' :: rest => .ok (.bool false, rest)
  | 'N' :: 'a' :: 'N' :: rest => .ok (.float .nan, rest)
  | 'I' :: 'n' :: 'f' :: 'i' :: 'n' :: 'i' :: 't' :: 'y' :: rest =>
    .ok (.float (.infinite false), rest)
  | '-' :: 'I' :: 'n' :: 'f' :: 'i' :: 'n' :: 'i' :: 't' :: 'y' :: rest =>
    .ok (.float (.infinite true), rest)
  | '-' :: rest => readMagnitude true rest
  | others => readMagnitude false others

/-- Read a name or a number, and check that characters were taken. -/
def readLeaf (characters : List Char) :
    Except Stuck (Taken Json characters) :=
  match readPlain characters with
  | .ok (value, rest) =>
    if shorter : rest.length < characters.length then .ok ⟨value, rest, shorter⟩
    else .error (.malformed characters)
  | .error (.malformed _) => .error (.malformed characters)
  | .error stuck => .error stuck

/-- Read the character that must stand next after a gap. -/
def readMark (mark : Char) (characters : List Char) :
    Except Stuck (Taken Unit characters) :=
  match _found : skipGap characters with
  | first :: rest =>
    if first = mark then
      .ok ⟨(), rest, by
        have bound := skipGap_length_le characters
        simp [_found] at bound
        omega⟩
    else .error (.malformed (first :: rest))
  | [] => .error (.malformed [])

mutual
/-- Read a value that starts at the first character, with at most `room` arrays
and objects inside each other. -/
def readValue (room : Nat) (characters : List Char) :
    Except Stuck (Taken Json characters) :=
  match characters with
  | '"' :: rest =>
    match readText rest ('"' :: rest) [] rest (Nat.le_refl _) with
    | .error stuck => .error stuck
    | .ok taken =>
      .ok ⟨ofWide taken.value, taken.rest,
        Nat.lt_trans taken.shorter (by simp)⟩
  | '[' :: rest =>
    match room with
    | 0 => .error .tooDeep
    | room + 1 =>
      match readMark ']' rest with
      | .ok closing =>
        .ok ⟨.array [], closing.rest, Nat.lt_trans closing.shorter (by simp)⟩
      | .error _ =>
        match readItems room rest [] (skipGap rest) (skipGap_length_le rest) with
        | .error stuck => .error stuck
        | .ok taken =>
          .ok ⟨.array taken.value, taken.rest,
            Nat.lt_trans taken.shorter (by simp)⟩
  | '\x7b' :: rest =>
    match room with
    | 0 => .error .tooDeep
    | room + 1 =>
      match readMark '\x7d' rest with
      | .ok closing =>
        .ok ⟨.object [], closing.rest, Nat.lt_trans closing.shorter (by simp)⟩
      | .error _ =>
        match readMembers room rest [] (skipGap rest)
            (skipGap_length_le rest) with
        | .error stuck => .error stuck
        | .ok taken =>
          .ok ⟨.object taken.value, taken.rest,
            Nat.lt_trans taken.shorter (by simp)⟩
  | others => readLeaf others
termination_by (characters.length, 1)
decreasing_by
  all_goals
    have := skipGap_length_le rest
    exact Prod.Lex.left _ _ (by simp only [List.length_cons]; omega)

/-- Read the items of an array up to its closing bracket; `start` is what
followed the opening one. -/
def readItems (room : Nat) (start : List Char) (collected : List Json)
    (characters : List Char) (within : characters.length ≤ start.length) :
    Except Stuck (Taken (List Json) start) :=
  match readValue room characters with
  | .error stuck => .error stuck
  | .ok item =>
    match readMark ']' item.rest with
    | .ok closing =>
      .ok ⟨(item.value :: collected).reverse, closing.rest,
        Nat.lt_of_lt_of_le (Nat.lt_trans closing.shorter item.shorter) within⟩
    | .error _ =>
      match readMark ',' item.rest with
      | .error stuck => .error stuck
      | .ok comma =>
        readItems room start (item.value :: collected) (skipGap comma.rest) (by
          have := skipGap_length_le comma.rest
          have := comma.shorter
          have := item.shorter
          omega)
termination_by (characters.length, 2)
decreasing_by
  · exact Prod.Lex.right _ (by omega)
  · have := skipGap_length_le comma.rest
    have := comma.shorter
    have := item.shorter
    exact Prod.Lex.left _ _ (by omega)

def readMember (room : Nat) (characters : List Char) :
    Except Stuck (Taken (String × Json) characters) :=
  match characters with
  | '"' :: rest =>
    match readText rest ('"' :: rest) [] rest (Nat.le_refl _) with
    | .error stuck => .error stuck
    | .ok key =>
      match readMark ':' key.rest with
      | .error stuck => .error stuck
      | .ok colon =>
        match readValue room (skipGap colon.rest) with
        | .error stuck => .error stuck
        | .ok value =>
          .ok ⟨(String.ofList (Text.ofCodes key.value), value.value), value.rest, by
            have := skipGap_length_le colon.rest
            have := value.shorter
            have := colon.shorter
            have := key.shorter
            simp
            omega⟩
  | others => .error (.malformed others)
termination_by (characters.length, 2)
decreasing_by
  have := skipGap_length_le colon.rest
  have := colon.shorter
  have := key.shorter
  exact Prod.Lex.left _ _ (by simp only [List.length_cons]; omega)

/-- Read the members of an object up to its closing brace; `start` is what
followed the opening one. -/
def readMembers (room : Nat) (start : List Char) (collected : List (String × Json))
    (characters : List Char) (within : characters.length ≤ start.length) :
    Except Stuck (Taken (List (String × Json)) start) :=
  match readMember room characters with
  | .error stuck => .error stuck
  | .ok member =>
    match readMark '\x7d' member.rest with
    | .ok closing =>
      .ok ⟨merged (member.value :: collected).reverse, closing.rest,
        Nat.lt_of_lt_of_le (Nat.lt_trans closing.shorter member.shorter) within⟩
    | .error _ =>
      match readMark ',' member.rest with
      | .error stuck => .error stuck
      | .ok comma =>
        readMembers room start (member.value :: collected) (skipGap comma.rest) (by
          have := skipGap_length_le comma.rest
          have := comma.shorter
          have := member.shorter
          omega)
termination_by (characters.length, 3)
decreasing_by
  · exact Prod.Lex.right _ (by omega)
  · have := skipGap_length_le comma.rest
    have := comma.shorter
    have := member.shorter
    exact Prod.Lex.left _ _ (by omega)
end

/-- A reason for which a text is not read: it is no JSON text from an offset in
characters on, or it is too deeply nested, or an integer in it is too long. -/
inductive Unread where
  | malformed (offset : Nat)
  | tooDeep
  | tooLong
  deriving DecidableEq

/-- Read characters that hold one value with at most `room` arrays and objects
inside each other. -/
def readWithin (room : Nat) (characters : List Char) : Except Unread Json :=
  let unread : Stuck → Unread
    | .malformed remaining =>
      .malformed (characters.length - remaining.length)
    | .tooDeep => .tooDeep
    | .tooLong => .tooLong
  match readValue room (skipGap characters) with
  | .error stuck => .error (unread stuck)
  | .ok taken =>
    match skipGap taken.rest with
    | [] => .ok taken.value
    | extra => .error (unread (.malformed extra))

/-- The number of arrays and objects inside each other that are read. -/
def readingDepth : Nat := 945

def read (text : String) : Except Unread Json :=
  readWithin readingDepth text.toList

end WorkflowExchange.Json

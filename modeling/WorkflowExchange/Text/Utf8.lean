/-!
# UTF-8 with replacements

Bytes are read as the characters that they encode.  Bytes that encode none are
read as replacement characters, one for each longest run of bytes with which an
encoded character could begin.
-/

namespace WorkflowExchange.Text

/-- The intervals of the bytes that complete a character after its first byte,
or nothing for a byte with which no character begins. -/
def following (first : Nat) : Option (List (Nat × Nat)) :=
  let other := (0x80, 0xBF)
  if first < 0x80 then some []
  else if first < 0xC2 then none
  else if first < 0xE0 then some [other]
  else if first = 0xE0 then some [(0xA0, 0xBF), other]
  else if first = 0xED then some [(0x80, 0x9F), other]
  else if first < 0xF0 then some [other, other]
  else if first = 0xF0 then some [(0x90, 0xBF), other, other]
  else if first < 0xF4 then some [other, other, other]
  else if first = 0xF4 then some [(0x80, 0x8F), other, other]
  else none

/-- The first bytes, as far as each of them lies in its interval. -/
def fitting : List (Nat × Nat) → List UInt8 → List UInt8
  | (low, high) :: intervals, byte :: rest =>
    if low ≤ byte.toNat && byte.toNat ≤ high then
      byte :: fitting intervals rest
    else []
  | _, _ => []

/-- The character of a first byte and the bytes that complete it. -/
def assembled (first : Nat) (completing : List UInt8) : Char :=
  let start :=
    match completing.length with
    | 0 => first
    | 1 => first - 0xC0
    | 2 => first - 0xE0
    | _ => first - 0xF0
  Char.ofNat
    (completing.foldl (fun total byte => total * 64 + (byte.toNat - 0x80)) start)

/-- The characters that bytes encode. -/
def decoded : List UInt8 → List Char
  | [] => []
  | first :: rest =>
    match following first.toNat with
    | none => '\uFFFD' :: decoded rest
    | some intervals =>
      let completing := fitting intervals rest
      let character :=
        if completing.length = intervals.length then
          assembled first.toNat completing
        else '\uFFFD'
      character :: decoded (rest.drop completing.length)
termination_by bytes => bytes.length
decreasing_by all_goals simp; try omega

example : decoded [0xC3, 0xA9, 0xF0, 0x9F, 0x98, 0x80] = ['é', '😀'] := by
  decide +kernel

example : decoded [0xE2, 0x82, 0x41, 0xFF] = ['\uFFFD', 'A', '\uFFFD'] := by
  decide +kernel

end WorkflowExchange.Text

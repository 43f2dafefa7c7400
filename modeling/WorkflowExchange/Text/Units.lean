/-!
# Units of two and four bytes

A text can be encoded in units of two or four bytes, in either byte order.
`units?` cuts bytes into units.  Among units of two bytes a leading one and the
trailing one after it make one code point (`joined`); either of them alone is a
half that stands for no character.
-/

namespace WorkflowExchange.Text

def isLeading (unit : Nat) : Bool :=
  0xD800 ≤ unit && unit ≤ 0xDBFF

def isTrailing (unit : Nat) : Bool :=
  0xDC00 ≤ unit && unit ≤ 0xDFFF

def isHalf (code : Nat) : Bool :=
  isLeading code || isTrailing code

/-- The code points of a list of code points and UTF-16 units. -/
def joined : List Nat → List Nat
  | [] => []
  | [unit] => [unit]
  | unit :: next :: rest =>
    if isLeading unit && isTrailing next then
      (0x10000 + (unit - 0xD800) * 0x400 + (next - 0xDC00)) :: joined rest
    else unit :: joined (next :: rest)

/-- The characters of some code points, with a replacement for each half. -/
def ofCodes (codes : List Nat) : List Char :=
  codes.map fun code => if isHalf code then '\uFFFD' else Char.ofNat code

/-- The order in which the bytes of a unit stand. -/
inductive ByteOrder where
  | greatestFirst
  | leastFirst
  deriving DecidableEq

def unitOf (order : ByteOrder) (bytes : List UInt8) : Nat :=
  let ordered :=
    match order with
    | .greatestFirst => bytes
    | .leastFirst => bytes.reverse
  ordered.foldl (fun total byte => total * 256 + byte.toNat) 0

/-- The units of two bytes, if no byte is left over. -/
def pairs? (order : ByteOrder) : List UInt8 → Option (List Nat)
  | [] => some []
  | [_] => none
  | first :: second :: rest =>
    (pairs? order rest).map (unitOf order [first, second] :: ·)

/-- The units of four bytes, if no byte is left over and every unit is a code
point. -/
def quadruples? (order : ByteOrder) : List UInt8 → Option (List Nat)
  | [] => some []
  | first :: second :: third :: fourth :: rest =>
    let unit := unitOf order [first, second, third, fourth]
    if unit < 0x110000 then (quadruples? order rest).map (unit :: ·) else none
  | _ => none

/-- The ways in which a text is encoded. -/
inductive Encoding where
  | bytes
  | pairs (order : ByteOrder)
  | quadruples (order : ByteOrder)
  deriving DecidableEq

namespace Encoding

/-- The encoding of a text that begins with two ASCII characters, or is one, as
the zeros among its first bytes tell it. -/
def ofZeros (bytes : List UInt8) : Encoding :=
  match bytes with
  | [first, second] =>
    if first == 0 then .pairs .greatestFirst
    else if second == 0 then .pairs .leastFirst
    else .bytes
  | first :: second :: third :: fourth :: _ =>
    if first == 0 then
      if second == 0 then .quadruples .greatestFirst
      else .pairs .greatestFirst
    else if second == 0 then
      if third == 0 && fourth == 0 then .quadruples .leastFirst
      else .pairs .leastFirst
    else .bytes
  | _ => .bytes

/-- The code points of bytes in an encoding of wider units. -/
def codes? (bytes : List UInt8) : Encoding → Option (List Nat)
  | .bytes => none
  | .pairs order => (pairs? order bytes).map joined
  | .quadruples order => quadruples? order bytes

end Encoding

example : Encoding.ofZeros [0x7B, 0, 0x7D, 0] = .pairs .leastFirst := by decide

example :
    Encoding.codes? [0x7B, 0, 0x7D, 0] (.pairs .leastFirst) =
      some [0x7B, 0x7D] := by decide

end WorkflowExchange.Text

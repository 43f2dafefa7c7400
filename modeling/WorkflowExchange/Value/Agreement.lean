import WorkflowExchange.Time.Iso
import WorkflowExchange.Value.Basic

/-!
# Agreement of values

`Value.agrees` is the equality of the host.  Truth values, integers, floats,
decimals and complex numbers agree when they count the same, and times with an
offset when they are the same in universal time; a list agrees with a list of any
class, a set with a frozen set, and dictionaries agree whatever the order of
their entries.  A member of an enumeration with a plain base agrees with its
plain value.  Two foreign values never agree.

`Value.distinctEntries` and `Value.distinctMembers` use it to keep one entry for
each key and one of several equal members.
-/

namespace WorkflowExchange

/-- An exact number: a coefficient that does not end in zero and a power of ten,
unless it is zero; or no finite number. -/
inductive Quantity where
  | finite (negative : Bool) (coefficient : Nat) (exponent : Int)
  | infinite (negative : Bool)
  | unordered
  deriving DecidableEq

namespace Quantity

/-- A coefficient without last zeros, and the power of ten that goes with it. -/
def normalized (coefficient : Nat) (exponent : Int) : Nat × Int :=
  if _positive : 0 < coefficient ∧ coefficient % 10 = 0 then
    normalized (coefficient / 10) (exponent + 1)
  else (coefficient, exponent)
termination_by coefficient
decreasing_by omega

def ofParts (negative : Bool) (coefficient : Nat) (exponent : Int) : Quantity :=
  if coefficient = 0 then .finite false 0 0
  else
    let (coefficient, exponent) := normalized coefficient exponent
    .finite negative coefficient exponent

def agrees (one other : Quantity) : Bool :=
  one != .unordered && one == other

def ofInt (value : Int) : Quantity :=
  ofParts (decide (value < 0)) value.natAbs 0

/-- The quantity of a floating point number.  A negative power of two is a power
of five by a power of ten. -/
def ofBinary64 : Binary64 → Quantity
  | .nan => .unordered
  | .infinite negative => .infinite negative
  | .finite negative significand exponent =>
    let below := (-exponent).toNat
    ofParts negative
      (significand * Number.twoTo exponent.toNat * Nat.pow 5 below) (-below)

def ofDecimal (numeral : String) : Quantity :=
  match Number.numeral? numeral.toList with
  | some number => ofParts number.negative number.coefficient number.exponent
  | none =>
    match numeral with
    | "Infinity" => .infinite false
    | "-Infinity" => .infinite true
    | _ => .unordered

def isPositive : Quantity → Bool
  | .finite negative coefficient _ => !negative && coefficient != 0
  | .infinite negative => !negative
  | .unordered => false

end Quantity

namespace Scalar

def quantity? : Scalar → Option Quantity
  | .bool value => some (.ofInt (if value then 1 else 0))
  | .int value => some (.ofInt value)
  | .float value => some (.ofBinary64 value)
  | .decimal numeral => some (.ofDecimal numeral)
  | .complex real imaginary =>
    if imaginary.isZero then some (.ofBinary64 real) else none
  | _ => none

def agrees (left right : Scalar) : Bool :=
  match left.quantity?, right.quantity? with
  | some one, some other => one.agrees other
  | none, none =>
    match left, right with
    | .complex real imaginary, .complex otherReal otherImaginary =>
      (Quantity.ofBinary64 real).agrees (.ofBinary64 otherReal) &&
        (Quantity.ofBinary64 imaginary).agrees (.ofBinary64 otherImaginary)
    | .datetime one, .datetime other =>
      (IsoTime.ofDatetime one).agrees (.ofDatetime other)
    | .time one, .time other => (IsoTime.ofTime one).agrees (.ofTime other)
    | _, _ => left == right
  | _, _ => false

end Scalar

namespace Value

mutual
def agrees : Value → Value → Bool
  | .scalar left, right =>
    match right.plain with
    | .scalar other => left.agrees other
    | _ => false
  | .member _ _ (some _) value, right => agrees value right.plain
  | .member type name none _, .member otherType otherName none _ =>
    type == otherType && name == otherName
  | .set _ members, .set _ others =>
    members.length == others.length && agreesEach members others
  | .dict _ _ entries, .dict _ _ others =>
    entries.length == others.length && agreesEntries entries others
  | .list _ _ items, .list _ _ others => agreesItems items others
  | .tuple _ _ items, .tuple _ _ others => agreesItems items others
  | .record kind type fields extra _,
    .record otherKind otherType others otherExtra _ =>
    kind == otherKind && type == otherType && agreesFields fields others &&
      (kind == .plain || agreesFields extra otherExtra)
  | .shared identity, .shared other => identity == other
  | _, _ => false
termination_by structural value => value

def agreesItems : List Value → List Value → Bool
  | [], [] => true
  | item :: rest, other :: others => agrees item other && agreesItems rest others
  | _, _ => false
termination_by structural items => items

def agreesEach : List Value → List Value → Bool
  | [], _ => true
  | element :: rest, others =>
    others.any (agrees element) && agreesEach rest others
termination_by structural members => members

/-- Does every entry agree with some entry of another dictionary? -/
def agreesEntries : List (Value × Value) → List (Value × Value) → Bool
  | [], _ => true
  | (key, value) :: rest, others =>
    (others.any fun other => agrees key other.1 && agrees value other.2) &&
      agreesEntries rest others
termination_by structural entries => entries

def agreesFields : List (String × Value) → List (String × Value) → Bool
  | [], [] => true
  | (name, value) :: rest, (otherName, other) :: others =>
    name == otherName && agrees value other && agreesFields rest others
  | _, _ => false
termination_by structural fields => fields
end

/-- Give a key a value, in place when an agreeing key is already there. -/
def insertEntry (entries : List (Value × Value)) (key value : Value) :
    List (Value × Value) :=
  match entries with
  | [] => [(key, value)]
  | first :: rest =>
    if first.1.agrees key then (first.1, value) :: rest
    else first :: insertEntry rest key value

/-- Entries with one value for each key, the last one. -/
def distinctEntries (entries : List (Value × Value)) : List (Value × Value) :=
  entries.foldl (fun collected entry => insertEntry collected entry.1 entry.2) []

/-- Members without those that agree with an earlier one. -/
def distinctMembers (members : List Value) : List Value :=
  members.foldl
    (fun collected element =>
      if collected.any (agrees element) then collected
      else collected ++ [element])
    []

end Value

end WorkflowExchange

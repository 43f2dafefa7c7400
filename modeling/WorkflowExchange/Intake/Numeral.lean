import WorkflowExchange.Intake.Rule

/-!
# Rules for numbers

An integer may be given as a whole number of any kind or as its numeral, and a
number as a numeral as well.  White space around a numeral, single underscores
between its digits, and for an integer zeros in front and after a point are
accepted.
-/

namespace WorkflowExchange.Rule

/-- Does white space stand around a numeral?  The information separators do not
count. -/
def isSpace (character : Char) : Bool :=
  Text.isBlank character &&
    !(0x1C ≤ character.toNat && character.toNat ≤ 0x1F)

/-- The characters without white space at their ends. -/
def withoutSpace (characters : List Char) : List Char :=
  ((characters.dropWhile isSpace).reverse.dropWhile isSpace).reverse

/-- The characters without underscores, if there are any and each of them stands
alone between two other characters. -/
def withoutUnderscores? (characters : List Char) : Option (List Char) :=
  let parts := Text.pieces '_' characters
  if parts.length = 1 || parts.any List.isEmpty then none
  else some parts.flatten

/-! ## Integers -/

/-- A numeral of digits that begins with zero only when it is zero.  A minus may
stand before it. -/
def isExactNumeral (characters : List Char) : Bool :=
  let digits :=
    match characters with
    | '-' :: rest => rest
    | others => others
  match digits with
  | [] => false
  | '0' :: rest => rest.isEmpty
  | others => others.all Number.isDigit

/-- The characters after leading zeros and underscores.  Zeros alone leave their
last one, and so do zeros before a point; a minus may follow zeros. -/
def withoutLeadingZeros? (characters : List Char) : Option (List Char) :=
  match characters with
  | '0' :: rest =>
    let zeros := rest.takeWhile fun character =>
      character == '0' || character == '_'
    match rest.drop zeros.length with
    | [] => some [zeros.getLast?.getD '0']
    | '.' :: fraction => some (zeros.getLast?.getD '0' :: '.' :: fraction)
    | first :: others =>
      if Number.isDigit first || first == '-' then some (first :: others)
      else none
  | first :: others =>
    if Number.isDigit first || first == '-' then some (first :: others) else none
  | [] => none

/-- The characters before a point, which zeros have to follow. -/
def withoutZeroFraction? (characters : List Char) : Option (List Char) :=
  match characters.span (· != '.') with
  | (whole, []) => some whole
  | (whole, _ :: fraction) =>
    if !fraction.isEmpty && fraction.all (· == '0') then some whole else none

/-- The characters without a plus, after which no minus may follow. -/
def withoutPlus? (characters : List Char) : Option (List Char) :=
  match characters with
  | '+' :: '-' :: _ => none
  | '+' :: rest => some rest
  | others => some others

/-- A numeral freed from white space, a plus, leading zeros, a fraction of zeros
and underscores. -/
def cleaned? (characters : List Char) : Option (List Char) := do
  let unsigned ← withoutPlus? (withoutSpace characters)
  let whole ← withoutZeroFraction? (← withoutLeadingZeros? unsigned)
  some ((withoutUnderscores? whole).getD whole)

def numeralLimit : Nat := 4300

def tooLarge {α : Type} : Fit α :=
  .misfit "int_parsing_size"
    "Unable to parse input string as an integer, exceeded maximum size"

def noNumeral {α : Type} : Fit α :=
  .misfit "int_parsing"
    "Input should be a valid integer, unable to parse string as an integer"

def integerOfText (content : String) : Fit Int :=
  match cleaned? content.toList with
  | none => noNumeral
  | some numeral =>
    if !isExactNumeral numeral then noNumeral
    else if numeralLimit < numeral.length then tooLarge
    else
      match Number.integer? numeral with
      | some whole => .fits whole
      | none => noNumeral

def notWhole {α : Type} : Fit α :=
  .misfit "int_from_float"
    "Input should be a valid integer, got a number with a fractional part"

def notFinite {α : Type} : Fit α :=
  .misfit "finite_number" "Input should be a finite number"

/-- The integer that a floating point number of moderate size is. -/
def integerOfFloat (number : Binary64) : Fit Int :=
  if !number.isFinite then notFinite
  else
    match number.toInt? with
    | none => notWhole
    | some whole =>
      if -wideBound < whole && whole < wideBound then .fits whole
      else tooLarge

def integerOfDecimal (numeral : String) : Fit Int :=
  match Quantity.ofDecimal numeral with
  | .finite negative coefficient exponent =>
    if exponent < 0 then notWhole
    else
      let size : Int := (coefficient * Number.tenTo exponent.toNat : Nat)
      .fits (if negative then -size else size)
  | _ => notFinite

/-- An integer, also as a whole number or a numeral. -/
def whole : Rule Int := fun heap value =>
  match (heap.resolve value).plain with
  | .scalar (.int number) => .fits number
  | .scalar (.bool content) => .fits (if content then 1 else 0)
  | .scalar (.text content) => integerOfText content
  | .scalar (.bytes content) =>
    match Scalar.decoded content with
    | .ok content => integerOfText content
    | .error _ => noNumeral
  | .scalar (.float content) => integerOfFloat content
  | .scalar (.decimal numeral) => integerOfDecimal numeral
  | _ => .misfit "int_type" "Input should be a valid integer"

/-- An integer as a value.  A member of an enumeration without a base stands for
its value, whatever that is. -/
def integer : Rule Value := fun heap value =>
  match heap.resolve value with
  | .member _ _ none inner => .fits inner
  | other => Value.int <$> whole heap other

/-! ## Numbers -/

/-- A number from its numeral.  Underscores are only accepted where no white
space stands around it. -/
def numberOfText (content : String) : Fit Binary64 :=
  let characters := content.toList
  let read? :=
    (Number.float? (withoutSpace characters)).orElse fun _ =>
      (withoutUnderscores? characters).bind Number.float?
  match read? with
  | some read => .fits read
  | none =>
    .misfit "float_parsing"
      "Input should be a valid number, unable to parse string as a number"

def noNumber : Fit Binary64 :=
  .misfit "float_type" "Input should be a valid number"

def number : Rule Binary64 := fun heap value =>
  match (heap.resolve value).plain with
  | .scalar (.float content) => .fits content
  | .scalar (.int whole) =>
    match Binary64.ofRatio (decide (whole < 0)) whole.natAbs 1 with
    | .infinite _ => noNumber
    | number => .fits number
  | .scalar (.bool content) => .fits (.ofRatio false (if content then 1 else 0) 1)
  | .scalar (.decimal numeral) =>
    if Scalar.isSignaling numeral then noNumber
    else .fits ((Number.float? numeral.toList).getD .nan)
  | .scalar (.text content) => numberOfText content
  | .scalar (.bytes content) =>
    match Scalar.decoded content with
    | .ok content => numberOfText content
    | .error _ => numberOfText "\uFFFD"
  | _ => noNumber

end WorkflowExchange.Rule

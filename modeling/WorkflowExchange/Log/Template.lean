import WorkflowExchange.Json.Reader
import WorkflowExchange.Log.Message
import WorkflowExchange.Number.Precision
import WorkflowExchange.Value.Access
import WorkflowExchange.Value.Agreement
import WorkflowExchange.Value.Display

/-!
# Filling in templates

A template is text with places that begin with a percent sign.  A place may name
an entry of a dictionary, then come flags, a width, a precision and the letter
of a conversion; two percent signs side by side stand for one.  `Template.pieces`
cuts a template into its pieces and `Template.fill` converts the arguments one after
the other.

A message without arguments is not filled in: its template is the line.  A
single argument that is a dictionary with entries is the source of named places.
-/

namespace WorkflowExchange.Log

namespace Template

/-- A number in a place: written out, or taken from the arguments. -/
inductive Amount where
  | given (number : Nat)
  | taken
  deriving DecidableEq

/-- How a value is put into a template.  A place without a conversion is one
that the template breaks off. -/
structure Place where
  key? : Option String
  flags : List Char
  width? : Option Amount
  precision? : Option Amount
  conversion? : Option Char
  deriving DecidableEq

inductive Piece where
  | character (character : Char)
  | place (place : Place)
  /-- A place whose key is not closed. -/
  | unclosed
  deriving DecidableEq

/-- The text up to the bracket that closes one more than the text opens. -/
def bracketed (depth : Nat) : List Char → Option (List Char × List Char)
  | [] => none
  | ')' :: rest =>
    match depth with
    | 0 => some ([], rest)
    | depth + 1 =>
      (bracketed depth rest).map fun found => (')' :: found.1, found.2)
  | '(' :: rest =>
    (bracketed (depth + 1) rest).map fun found => ('(' :: found.1, found.2)
  | character :: rest =>
    (bracketed depth rest).map fun found => (character :: found.1, found.2)

def amount (characters : List Char) : Option Amount × List Char :=
  match characters with
  | '*' :: rest => (some .taken, rest)
  | _ =>
    let digits := characters.takeWhile Number.isDigit
    (if digits.isEmpty then none else some (.given (Number.ofDigits digits)),
      characters.drop digits.length)

def isFlag (character : Char) : Bool :=
  character ∈ ['-', '+', ' ', '#', '0']

/-- The characters after a length letter, which has no meaning. -/
def afterLength : List Char → List Char
  | 'h' :: rest => rest
  | 'l' :: rest => rest
  | 'L' :: rest => rest
  | characters => characters

/-- The place that begins after a percent sign and its key. -/
def placeAfter (key? : Option String) (characters : List Char) :
    Place × List Char :=
  let flags := characters.takeWhile isFlag
  let (width?, afterWidth) := amount (characters.drop flags.length)
  let (precision?, afterPrecision) :=
    match afterWidth with
    | '.' :: rest =>
      let (found, rest) := amount rest
      (some (found.getD (.given 0)), rest)
    | others => (none, others)
  let ending := afterLength afterPrecision
  ({ key?, flags, width?, precision?, conversion? := ending.head? }, ending.tail)

def pieceAfter (characters : List Char) : Piece × List Char :=
  match characters with
  | '%' :: rest => (.character '%', rest)
  | '(' :: rest =>
    match bracketed 0 rest with
    | none => (.unclosed, [])
    | some (key, rest) =>
      let (place, rest) := placeAfter (some (String.ofList key)) rest
      (.place place, rest)
  | _ =>
    let (place, rest) := placeAfter none characters
    (.place place, rest)

def piecesWithin : Nat → List Char → List Piece
  | 0, _ => []
  | _, [] => []
  | bound + 1, '%' :: rest =>
    (pieceAfter rest).1 :: piecesWithin bound (pieceAfter rest).2
  | bound + 1, character :: rest =>
    .character character :: piecesWithin bound rest

def pieces (template : String) : List Piece :=
  piecesWithin template.length template.toList

/-! ## Arguments -/

/-- The arguments that are left, and the dictionary for named places. -/
structure Supply where
  left : List Value
  named? : Option Value

namespace Supply

def ofArguments : List Value → Supply
  | [single] =>
    if single.isDict && !single.isEmpty then ⟨[single], some single⟩
    else ⟨[single], none⟩
  | arguments => ⟨arguments, none⟩

def next (supply : Supply) : Except Fault (Value × Supply) :=
  match supply.left with
  | [] => .error .wrongType
  | value :: rest => .ok (value, { supply with left := rest })

/-- Make the entry with a key the only argument that is left. -/
def pick (supply : Supply) (key : String) : Except Fault Supply :=
  match supply.named? with
  | none => .error .wrongType
  | some (.dict _ _ entries) =>
    match Value.lookup? entries key with
    | some value => .ok { supply with left := [value] }
    | none => .error .noEntry
  | some _ => .error .wrongType

def isUnused (supply : Supply) : Bool :=
  supply.named?.isNone && !supply.left.isEmpty

end Supply

/-! ## Conversions -/

structure Shape where
  leftAligned : Bool
  plus : Bool
  blank : Bool
  alternate : Bool
  zeros : Bool
  width : Nat
  precision? : Option Nat

def Shape.padded (shape : Shape) (content : String) : String :=
  let filling := String.ofList (List.replicate (shape.width - content.length) ' ')
  if shape.leftAligned then content ++ filling else filling ++ content

/-- A text, cut to the precision and filled up. -/
def Shape.ofText (shape : Shape) (content : String) : String :=
  shape.padded
    (match shape.precision? with
    | some limit => String.ofList (content.toList.take limit)
    | none => content)

/-- A number from its sign, the mark of its base and its digits, filled up. -/
def Shape.ofNumber (shape : Shape) (negative : Bool) (mark digits : String) :
    String :=
  let sign :=
    if negative then "-" else if shape.plus then "+"
    else if shape.blank then " " else ""
  let missing := shape.width - (sign ++ mark ++ digits).length
  if shape.zeros && !shape.leftAligned then
    sign ++ mark ++ String.ofList (List.replicate missing '0') ++ digits
  else shape.padded (sign ++ mark ++ digits)

def wholePart (negative : Bool) (significand : Nat) (exponent : Int) : Int :=
  let size : Int :=
    (significand * Number.twoTo exponent.toNat / Number.twoTo (-exponent).toNat : Nat)
  if negative then -size else size

/-- The number that an identifier's digits in base 16 write. -/
def identifierNumber (digits : String) : Nat :=
  (digits.toList.filterMap Json.hexValue?).foldl
    (fun total digit => 16 * total + digit) 0

/-- The whole part of a decimal number that has not too many digits. -/
def cutDecimal (negative : Bool) (coefficient : Nat) (exponent : Int) :
    Except Fault Int :=
  let digits : Int := Binary64.digitCount coefficient
  if Number.digitLimit < digits + exponent then .error .badValue
  else if digits + exponent ≤ 0 then .ok 0
  else
    let size : Int :=
      (coefficient * Number.tenTo exponent.toNat /
        Number.tenTo (-exponent).toNat : Nat)
    .ok (if negative then -size else size)

/-- The integer that a real number is cut to, or that an identifier is. -/
def cutInteger (value : Value) : Except Fault Int :=
  match value.plain with
  | .scalar (.int whole) => .ok whole
  | .scalar (.bool content) => .ok (if content then 1 else 0)
  | .scalar (.float (.finite negative significand exponent)) =>
    .ok (wholePart negative significand exponent)
  | .scalar (.float .nan) => .error .badValue
  | .scalar (.float (.infinite _)) => .error .overflow
  | .scalar (.decimal numeral) =>
    match Quantity.ofDecimal numeral with
    | .finite negative coefficient exponent =>
      cutDecimal negative coefficient exponent
    | .infinite _ => .error .overflow
    | .unordered => .error .badValue
  | .scalar (.uuid digits) => .ok (identifierNumber digits)
  | _ => .error .wrongType

/-- An integer itself; other numbers are not cut. -/
def exactInteger (value : Value) : Except Fault Int :=
  match value.plain with
  | .scalar (.int whole) => .ok whole
  | .scalar (.bool content) => .ok (if content then 1 else 0)
  | _ => .error .wrongType

def floating (value : Value) : Except Fault Binary64 :=
  match value.plain with
  | .scalar (.float number) => .ok number
  | .scalar (.int whole) =>
    match Binary64.ofRatio (decide (whole < 0)) whole.natAbs 1 with
    | .infinite _ => .error .overflow
    | number => .ok number
  | .scalar (.bool content) => .ok (.ofRatio false (if content then 1 else 0) 1)
  | .scalar (.decimal numeral) =>
    if Scalar.isSignaling numeral then .error .badValue
    else .ok ((Number.float? numeral.toList).getD .nan)
  | _ => .error .wrongType

/-- An integer in a base, with at least as many digits as the precision asks. -/
def integerText (shape : Shape) (base : Nat) (mark : String) (upper : Bool)
    (whole : Int) : String :=
  let digits := Nat.toDigits base whole.natAbs
  let digits := if upper then digits.map Char.toUpper else digits
  let filling := List.replicate (shape.precision?.getD 0 - digits.length) '0'
  shape.ofNumber (decide (whole < 0)) (if shape.alternate then mark else "")
    (String.ofList (filling ++ digits))

/-- A floating point number in the notation of a conversion letter. -/
def floatingText (shape : Shape) (letter : Char) (number : Binary64) : String :=
  let precision := shape.precision?.getD 6
  let digitsOf (significand : Nat) (exponent : Int) : String :=
    let ratio := Binary64.sizeRatio significand exponent
    match letter.toLower with
    | 'e' => ratio.scientific shape.alternate precision
    | 'f' => ratio.positional shape.alternate precision
    | _ => ratio.significant shape.alternate precision
  let (negative, digits) :=
    match number with
    | .nan => (false, "nan")
    | .infinite negative => (negative, "inf")
    | .finite negative significand exponent =>
      (negative, digitsOf significand exponent)
  shape.ofNumber negative ""
    (if letter.isUpper then digits.map Char.toUpper else digits)

/-- A text in ASCII, with escapes for the other characters. -/
def asciiText (content : String) : String :=
  String.ofList (content.toList.flatMap fun character =>
    if character.toNat < 0x80 then [character] else Text.codeEscape character.toNat)

/-- A single character, given as one or by its code. -/
def characterText (value : Value) : Except Fault String :=
  match value.plain with
  | .scalar (.text content) =>
    if content.length = 1 then .ok content else .error .wrongType
  | other => do
    let code ← exactInteger other
    if 0 ≤ code && code < 0x110000 then
      pure (String.ofList [Char.ofNat code.toNat])
    else .error .overflow

/-- The text of a value for a conversion letter. -/
def convert (shape : Shape) (letter : Char) (value : Value) :
    Except Fault String :=
  match letter with
  | 's' => (value.display Number.digitLimit).map (shape.ofText ·.shown)
  | 'r' => (value.literal Number.digitLimit).map shape.ofText
  | 'a' => (value.literal Number.digitLimit).map (shape.ofText ∘ asciiText)
  | 'd' => (cutInteger value).map (integerText shape 10 "" false)
  | 'i' => (cutInteger value).map (integerText shape 10 "" false)
  | 'u' => (cutInteger value).map (integerText shape 10 "" false)
  | 'x' => (exactInteger value).map (integerText shape 16 "0x" false)
  | 'X' => (exactInteger value).map (integerText shape 16 "0X" true)
  | 'o' => (exactInteger value).map (integerText shape 8 "0o" false)
  | 'c' => (characterText value).map shape.padded
  | _ =>
    if letter ∈ ['e', 'E', 'f', 'F', 'g', 'G'] then
      (floating value).map (floatingText shape letter)
    else .error .badValue

/-! ## Filling in -/

/-- The number that an amount stands for, which has to be below a bound. -/
def Amount.resolve (bound : Nat) (supply : Supply) :
    Option Amount → Except Fault (Option Int × Supply)
  | none => .ok (none, supply)
  | some (.given number) =>
    if number < bound then .ok (some number, supply) else .error .badValue
  | some .taken => do
    let (value, supply) ← supply.next
    let number ← exactInteger value
    if -bound ≤ number && number < bound then pure (some number, supply)
    else .error .overflow

def widthBound : Nat := Number.twoTo 63

def precisionBound : Nat := Number.twoTo 31

/-- The text for a place, and the arguments that are left. -/
def Place.fill (place : Place) (supply : Supply) :
    Except Fault (String × Supply) := do
  let supply ←
    match place.key? with
    | some key => supply.pick key
    | none => pure supply
  let (width?, supply) ← Amount.resolve widthBound supply place.width?
  let (precision?, supply) ←
    Amount.resolve precisionBound supply place.precision?
  match place.conversion? with
  | none => .error .badValue
  | some conversion =>
    let width := width?.getD 0
    let shape : Shape :=
      { leftAligned := '-' ∈ place.flags || decide (width < 0)
        plus := '+' ∈ place.flags
        blank := ' ' ∈ place.flags
        alternate := '#' ∈ place.flags
        zeros := '0' ∈ place.flags
        width := width.natAbs
        precision? := precision?.map Int.toNat }
    let (value, supply) ← supply.next
    pure (← convert shape conversion value, supply)

/-- The text for some pieces, one after the other. -/
def fillPieces : List Piece → Supply → Except Fault (List Char × Supply)
  | [], supply => .ok ([], supply)
  | .character character :: rest, supply => do
    let (shown, supply) ← fillPieces rest supply
    pure (character :: shown, supply)
  | .unclosed :: _, supply =>
    .error (if supply.named?.isNone then .wrongType else .badValue)
  | .place place :: rest, supply => do
    let (filled, supply) ← place.fill supply
    let (shown, supply) ← fillPieces rest supply
    pure (filled.toList ++ shown, supply)

/-- A template with its places filled in.  Every argument has to be used. -/
def fill (template : String) (arguments : List Value) :
    Except Fault String := do
  let (shown, supply) ← fillPieces (pieces template)
    (Supply.ofArguments arguments)
  if supply.isUnused then .error .wrongType else pure (String.ofList shown)

end Template

def Message.line (message : Message) : Except Fault String :=
  if message.arguments.isEmpty then .ok message.template
  else Template.fill message.template message.arguments

def Message.record (message : Message) : Except Fault Record :=
  message.line.map fun line => ⟨message.level, line⟩

/-- The finished records of some messages.  A message that cannot be filled in
leaves no record. -/
def records (messages : List Message) : List Record :=
  messages.filterMap fun message => message.record.toOption

end WorkflowExchange.Log

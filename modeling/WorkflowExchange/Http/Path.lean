import WorkflowExchange.Json.Reader
import WorkflowExchange.Number.Positional
import WorkflowExchange.Text.Blank
import WorkflowExchange.Text.Utf8

/-!
# Paths

The path of a request is percent-encoded: `%` and two hexadecimal digits stand
for a byte, and the bytes encode the characters of the path.  A slash that was
encoded parts segments like any other.
-/

namespace WorkflowExchange.Http.Path

def bytes : List Char → List UInt8
  | '%' :: high :: low :: rest =>
    match Json.hexValue? high, Json.hexValue? low with
    | some first, some second => UInt8.ofNat (16 * first + second) :: bytes rest
    | _, _ => 0x25 :: bytes (high :: low :: rest)
  | character :: rest => String.utf8EncodeChar character ++ bytes rest
  | [] => []

/-- The path that an encoded one stands for. -/
def decoded (path : String) : String :=
  String.ofList (Text.decoded (bytes path.toList))

/-- Does a byte stand for itself in an address?  Letters, digits and the marks of
an address do. -/
def isPlain (byte : UInt8) : Bool :=
  let character := Char.ofNat byte.toNat
  character.isAlphanum || "_.-~:/%#?=@[]!$&'()*+,;".toList.contains character

/-- A path as it is written in an address: other bytes are percent-encoded. -/
def encoded (path : String) : String :=
  String.ofList ((path.toList.flatMap String.utf8EncodeChar).flatMap fun byte =>
    if isPlain byte then [Char.ofNat byte.toNat]
    else '%' :: (Number.hexDigits 2 byte.toNat).map Char.toUpper)

/-- The segments of a path, which begins with a slash. -/
def segments (path : String) : List String :=
  ((Text.pieces '/' path.toList).drop 1).map String.ofList

def withoutSlashes (path : String) : String :=
  String.ofList (path.toList.reverse.dropWhile (· == '/')).reverse

/-- The part of a path before anything that would begin a query or fragment. -/
def plainPart (path : String) : String :=
  String.ofList
    (path.toList.takeWhile fun character => character != '?' && character != '#')

example : segments "/workflows/a b" = ["workflows", "a b"] := by
  decide +kernel

example : encoded "/a b/é" = "/a%20b/%C3%A9" := by decide +kernel

end WorkflowExchange.Http.Path

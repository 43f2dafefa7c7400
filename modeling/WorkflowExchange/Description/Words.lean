import WorkflowExchange.Value.Display

/-!
# Words of live values

A value that stands where a text is expected is read as far as it goes:
`Value.excerpt` cuts a text, `Heap.shortType` shortens the type of a node to
the segment after its last point.
-/

namespace WorkflowExchange

/-- Is a byte blank when bytes are cut into words? -/
def isBlankByte (byte : UInt8) : Bool :=
  byte == 0x20 || (0x09 ≤ byte && byte ≤ 0x0D)

namespace Value

/-- The first words of a value.  Bytes have words as well, but these cannot be
joined into a text. -/
def excerpt (limit : Int) (value : Value) : Except Fault Wide :=
  match value.plain with
  | .scalar (.text content) => .ok (Text.excerpt limit content)
  | .scalar (.halves codes) => .ok (Wide.excerpt limit codes)
  | .scalar (.bytes content) =>
    if (Text.firstItems limit (Text.runs isBlankByte content)).isEmpty then .ok ""
    else .error .wrongType
  | _ => .error .noAttribute

end Value

namespace Heap

/-- The text of a value; a value that counts as nothing has an empty one. -/
def textOrEmpty (heap : Heap) (writer : Writer) (value : Value) : Except Fault Wide :=
  if (heap.resolve value).isEmpty then .ok "" else heap.display writer value

/-- The segment of a node type after its last point. -/
def shortType (heap : Heap) (writer : Writer) (value : Value) : Except Fault Wide :=
  (heap.textOrEmpty writer value).map Wide.afterPoint

end Heap

end WorkflowExchange

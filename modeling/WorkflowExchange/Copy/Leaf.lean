import WorkflowExchange.Value.Basic

/-!
# Copies of single values

A value that is not a container is copied on its own.  Plain data and sets are
kept as they are; a function, a class or a live host object is replaced by a
text that names it.
-/

namespace WorkflowExchange

namespace Foreign

/-- A function's text, from the first of its names that is not empty. -/
def functionText (names : List String) : String :=
  match names.find? (!·.isEmpty) with
  | some name => "[Function: " ++ name ++ "]"
  | none => "[Function]"

/-- The text that stands for a foreign value in a copy. -/
def placeholder : Foreign → String
  | .resource kind => "[Unserializable: " ++ kind ++ "]"
  | .routine _ name qualifiedName => functionText [qualifiedName, name]
  | .blueprint _ name qualifiedName => functionText [qualifiedName, name]
  | .callable _ name? qualifiedName? =>
    functionText (qualifiedName?.toList ++ name?.toList)
  | .object type => "[Object: " ++ type ++ "]"

end Foreign

namespace Value

/-- The text that stands for a container inside itself. -/
def circularText : String := "[Circular Reference]"

/-- The text that stands for a container nested too deep. -/
def truncatedText (typeName : String) : String :=
  "[Truncated: " ++ typeName ++ "]"

def leafCopy : Value → Value
  | .foreign thing => text thing.placeholder
  | other => other

@[simp]
theorem leafCopy_scalar (data : Scalar) :
    leafCopy (.scalar data) = .scalar data := rfl

@[simp]
theorem leafCopy_foreign (thing : Foreign) :
    leafCopy (.foreign thing) = text thing.placeholder := rfl

@[simp]
theorem leafCopy_set (frozen : Bool) (members : List Value) :
    leafCopy (.set frozen members) = .set frozen members := rfl

end Value

end WorkflowExchange

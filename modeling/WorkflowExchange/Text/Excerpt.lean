import WorkflowExchange.Text.Blank

/-!
# Excerpts

The excerpt of a text is its first words with single blanks between them.  A
negative limit drops that many words from the end instead.
-/

namespace WorkflowExchange.Text

/-- The first items of a list, or all but the last ones for a negative limit. -/
def firstItems {α : Type} (limit : Int) (items : List α) : List α :=
  if 0 ≤ limit then items.take limit.toNat
  else items.take (items.length - (-limit).toNat)

/-- Words with single blanks between them. -/
def spaced (words : List String) : String :=
  String.intercalate " " words

/-- The first words of a text with single blanks between them. -/
def excerpt (limit : Int) (text : String) : String :=
  spaced (firstItems limit (words text))

end WorkflowExchange.Text

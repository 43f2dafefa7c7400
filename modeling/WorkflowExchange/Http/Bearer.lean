import WorkflowExchange.Text.Blank
import WorkflowExchange.Text.Lowercase

/-!
# Bearer tokens

A request names its user in the `Authorization` header: the scheme `Bearer`, in
any case, and a token, which is the identifier of the user behind a mark.
-/

namespace WorkflowExchange.Http.Bearer

/-- The mark with which tokens begin. -/
def mark : String := "mock-"

/-- The token in an authorization, without blanks around it. -/
def token? (authorization : String) : Option String :=
  let characters := authorization.toList
  let scheme := characters.takeWhile (· != ' ')
  let token := Text.trimmed ((characters.dropWhile (· != ' ')).drop 1)
  if Text.lower (String.ofList scheme) = "bearer" && !token.isEmpty then
    some (String.ofList token)
  else none

def userId? (authorization : String) : Option String :=
  match token? authorization with
  | none => none
  | some token =>
    if token.startsWith mark then some (token.drop mark.length).toString
    else none

end WorkflowExchange.Http.Bearer

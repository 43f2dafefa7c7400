import WorkflowExchange.Number.Positional
import WorkflowExchange.Time.Moment

/-!
# Identifiers

Every stored thing has an identifier that begins with the code of its kind.
`Kind.numbered` counts the identifiers of a kind, so that no two of them are
equal.  Where no counter is shared, `sortable` makes one from the time and from
random bits: 26 digits in base 32, so that later identifiers sort after earlier
ones.  `version` makes the token of a version from random bits.
-/

namespace WorkflowExchange.Identifier

/-- The kinds of things that have identifiers. -/
inductive Kind where
  | user
  | project
  | workflow
  | entry
  | version
  deriving DecidableEq

def Kind.code : Kind → String
  | .user => "usr_"
  | .project => "prj_"
  | .workflow => "wf_"
  | .entry => "mkt_"
  | .version => "ver_"

def Kind.numbered (kind : Kind) (number : Nat) : String :=
  kind.code ++ Moment.padded 4 number

/-- The digits in base 32: no letter can be taken for another digit. -/
def alphabet : List Char := "0123456789ABCDEFGHJKMNPQRSTVWXYZ".toList

/-- The digits of a number in base 32, as many as asked for. -/
def base32 (count number : Nat) : List Char :=
  (Number.lastDigits 32 count number).map fun digit => alphabet.getD digit '0'

/-- The number of random bits in a sortable identifier. -/
def randomBits : Nat := 80

def sortable (code : String) (milliseconds random : Nat) : String :=
  code ++ String.ofList
    (base32 26 (milliseconds * Number.twoTo randomBits + random % Number.twoTo randomBits))

/-- The token of a version: 32 digits in five groups. -/
def version (random : Nat) : String :=
  let digits := Number.hexDigits 32 random
  let group (start size : Nat) : String :=
    String.ofList ((digits.drop start).take size)
  String.intercalate "-"
    [group 0 8, group 8 4, group 12 4, group 16 4, group 20 12]

end WorkflowExchange.Identifier

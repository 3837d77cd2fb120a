import Assay.Decimal.Digits
import Assay.Json.Basic
import Assay.Text.Basic

/-!
# JSON pointers

A pointer is a list of tokens, each written after a slash.  In the text of a token `~1`
stands for a slash and `~0` for a tilde.  A token selects the member of an object by name
and the element of an array by its decimal position.
-/

namespace Assay.Json

namespace Pointer

/-- The spelling of one character in a token. -/
def escapeChar (c : Char) : List Char :=
  if c = '~' then ['~', '0'] else if c = '/' then ['~', '1'] else [c]

/-- The spelling of a token. -/
def escape (token : String) : String := .ofList (token.toList.flatMap escapeChar)

/-- Replaces `~` followed by `digit` by `c`. -/
def replaceEscape (digit c : Char) : List Char → List Char
  | '~' :: d :: rest =>
    if d = digit then c :: replaceEscape digit c rest
    else '~' :: replaceEscape digit c (d :: rest)
  | x :: rest => x :: replaceEscape digit c rest
  | [] => []

/-- The token that a spelling stands for: first `~1` is read, then `~0`. -/
def unescape (cs : List Char) : String :=
  .ofList (replaceEscape '0' '~' (replaceEscape '1' '/' cs))

/-- The tokens of the text of a pointer, which is empty or starts with a slash. -/
def tokens? (text : String) : Option (List String) :=
  match text.toList with
  | [] => some []
  | '/' :: rest => some ((rest.splitOn '/').map unescape)
  | _ => none

/-- The position that a token names: decimal digits without a leading zero. -/
def position? (token : String) : Option Nat :=
  match token.toList with
  | [] => none
  | cs =>
    if cs.all Char.isDigit ∧ (cs.head? = some '0' → cs.length = 1) ∧ Decimal.value cs < Word.count
    then some (Decimal.value cs) else none

end Pointer

/-- The part of a value that a token selects. -/
def child? (token : String) : Json → Option Json
  | object members => members.lookup token
  | array items => (Pointer.position? token).bind (items[·]?)
  | _ => none

/-- The part of a value that a list of tokens selects. -/
def descend? : List String → Json → Option Json
  | [], v => some v
  | t :: ts, v => (child? t v).bind (descend? ts)

/-- The part of a value that the text of a pointer selects. -/
def pointer? (text : String) (v : Json) : Option Json :=
  (Pointer.tokens? text).bind (descend? · v)

end Assay.Json

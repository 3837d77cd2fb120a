import Assay.Json.Printer
import Assay.Kind

/-!
# Rendering values in messages

The text of a value in a message.  A floating-point number without a fractional part and
below `2 ^ 53` in magnitude is written as the integer that it is, at any depth.  An absent
value is written as the bare word `undefined`.
-/

namespace Assay

/-- The number with an integer in place of an integral floating-point number. -/
def Number.asInteger : Number → Number
  | int i => int i
  | float x =>
    match x.toInt? with
    | some i => if i.natAbs < 9007199254740992 then int i else float x
    | none => float x

namespace Json

mutual

/-- The value with integers in place of its integral floating-point numbers. -/
def withIntegers : Json → Json
  | number n => number n.asInteger
  | array items => array (withIntegersItems items)
  | object members => object (withIntegersMembers members)
  | v => v

def withIntegersItems : List Json → List Json
  | [] => []
  | v :: rest => withIntegers v :: withIntegersItems rest

def withIntegersMembers : List (String × Json) → List (String × Json)
  | [] => []
  | (k, v) :: rest => (k, withIntegers v) :: withIntegersMembers rest

end

end Json

/-- The text of a value that may be absent. -/
def render : Option Json → String
  | some v => v.withIntegers.pretty
  | none => Kind.undefined.name

/-- The text of the elements of an array. -/
def renderItems (items : List Json) : String :=
  (Json.array (Json.withIntegersItems items)).pretty

/-- The text of a kind, quoted. -/
def renderKind (k : Kind) : String := Json.quote k.name

/-- The text of the name of a member, quoted. -/
def renderKey (key : String) : String := Json.quote key

end Assay

import Assay.Filter.Results
import Assay.Filter.Value

/-!
# Arithmetic on filter values

The operators on numbers, strings, arrays and objects.  A number that is kept as text is
computed with as a floating-point number.  Integers are words with a sign: a result that does
not fit is cut off, except that of a division, in which the program breaks off.
-/

namespace Assay.Filter

open Decimal (Binary64)

/-- The remainder of floating-point numbers, which has the sign of the first. -/
def floatRem (x y : Float) : Float :=
  let a := Value.toBinary x
  let b := Value.toBinary y
  if ¬ a.isFinite ∨ y.isNaN ∨ b.isZero then Value.ofBinary ⟨0x7ff8000000000000⟩
  else if ¬ b.isFinite then x
  else Value.ofBinary (a.rem b)

/-- The pieces of a text between the places where a separator stands. -/
def pieces (sep : List Char) : Nat → List Char → List Char → List String
  | 0, acc, cs => [.ofList (acc.reverse ++ cs)]
  | _, acc, [] => [.ofList acc.reverse]
  | fuel + 1, acc, c :: cs =>
    if sep.isPrefixOf (c :: cs) then
      .ofList acc.reverse :: pieces sep fuel [] ((c :: cs).drop sep.length)
    else pieces sep fuel (c :: acc) cs

/-- Splits a text at a separator; without a separator, into its characters. -/
def splitText (s sep : String) : List Value :=
  if s.isEmpty then []
  else if sep.isEmpty then s.toList.map fun c => .string c.toString
  else (pieces sep.toList (s.length + 1) [] s.toList).map .string

namespace Arithmetic

open Value

/-- The operation on floating-point numbers. -/
def onFloats : Arithmetic → Float → Float → Float
  | add, x, y => x + y
  | sub, x, y => x - y
  | mul, x, y => x * y
  | div, x, y => x / y
  | rem, x, y => floatRem x y

/-- The operation on integers. -/
def onInts (op : Arithmetic) (x y : Int) : Except (Obstacle Error) Value :=
  match op with
  | add => .ok (int (Word.wrapped (x + y)))
  | sub => .ok (int (Word.wrapped (x - y)))
  | mul => .ok (int (Word.wrapped (x * y)))
  | div => .ok (float (floatOfInt x / floatOfInt y))
  | rem =>
    if y = 0 then .error (.fault (.badCalculation (int x) rem (int y)))
    else if x = Word.least ∧ y = -1 then .error (.ended .crash)
    else .ok (int (x.tmod y))

/-- A text several times over, or nothing if it is not to stand at least once. -/
def repeatText (s : String) (i : Int) : Value :=
  if 0 < i then string (.join (List.replicate i.toNat s)) else null

/-- The operation on values none of which is a number kept as text. -/
def onValues (op : Arithmetic) (l r : Value) : Except (Obstacle Error) Value :=
  match l, op, r with
  | null, add, v => .ok v
  | v, add, null => .ok v
  | int x, op, int y => onInts op x y
  | int x, op, float y => .ok (float (onFloats op (floatOfInt x) y))
  | float x, op, int y => .ok (float (onFloats op x (floatOfInt y)))
  | float x, op, float y => .ok (float (onFloats op x y))
  | string s, add, string t => .ok (string (s ++ t))
  | string s, mul, int i => .ok (repeatText s i)
  | int i, mul, string s => .ok (repeatText s i)
  | string s, div, string t => .ok (array (splitText s t))
  | array xs, add, array ys => .ok (array (xs ++ ys))
  | array xs, sub, array ys => .ok (array (xs.filter fun x => !ys.any (x == ·)))
  | object ms, add, object ns => .ok (object (extend ms ns))
  | object ms, mul, object ns => .ok (object (merge (object ms).depth ms ns))
  | l, op, r => .error (.fault (.badCalculation l op r))

/-- A number kept as text as a floating-point number, and another value as it is. -/
def computable : Value → Value
  | decimal t => floatOfText t
  | v => v

/-- The operation on values. -/
def apply (op : Arithmetic) (l r : Value) : Except (Obstacle Error) Value :=
  match l, op, r with
  | null, add, v => .ok v
  | v, add, null => .ok v
  | l, op, r => op.onValues (computable l) (computable r)

end Arithmetic

/-- The value of the other sign. -/
def Value.negate : Value → Except Error Value
  | int i => .ok (int (Word.wrapped (-i)))
  | float x => .ok (float (-x))
  | decimal t =>
    match floatOfText t with
    | float x => .ok (float (-x))
    | v => .error (.badUse v "number")
  | v => .error (.badUse v "number")

end Assay.Filter

/-!
# Decimal digits

The decimal spelling of natural numbers and integers as lists of characters, and the
number that a list of digits spells.  `digits n` has no leading zero, except that zero
is spelt `0`.  Words are the integers that fit into 64 bits.
-/

namespace Assay.Decimal

/-- The character of a digit below ten. -/
def digitChar (d : Nat) : Char := Char.ofNat (48 + d)

/-- The decimal spelling of `n`. -/
def digits (n : Nat) : List Char :=
  if n < 10 then [digitChar n] else digits (n / 10) ++ [digitChar (n % 10)]
termination_by n

/-- The decimal spelling of an integer, with a minus sign before a negative one. -/
def intDigits : Int → List Char
  | .ofNat n => digits n
  | .negSucc n => '-' :: digits (n + 1)

/-- The value of a digit character. -/
def digitValue (c : Char) : Nat := c.toNat - 48

/-- The number that a list of digits spells. -/
def value (cs : List Char) : Nat := cs.foldl (fun n c => 10 * n + digitValue c) 0

/-- The value of a hexadecimal digit, in either case. -/
def hexValue? (c : Char) : Option Nat :=
  if '0' ≤ c ∧ c ≤ '9' then some (c.toNat - 48)
  else if 'a' ≤ c ∧ c ≤ 'f' then some (c.toNat - 87)
  else if 'A' ≤ c ∧ c ≤ 'F' then some (c.toNat - 55)
  else none

/-- The lower-case hexadecimal digit of a number below sixteen. -/
def hexChar (d : Nat) : Char := if d < 10 then Char.ofNat (48 + d) else Char.ofNat (87 + d)

/-- The lower-case hexadecimal spelling of `n`, without leading zeros. -/
def hexDigits (n : Nat) : List Char :=
  if n < 16 then [hexChar n] else hexDigits (n / 16) ++ [hexChar (n % 16)]
termination_by n

end Assay.Decimal

namespace Assay.Word

/-- The number of words without a sign, `2 ^ 64`.  They are the numbers below. -/
def count : Nat := 18446744073709551616

/-- The least word with a sign, `-2 ^ 63`. -/
def least : Int := -9223372036854775808

/-- The greatest word with a sign, `2 ^ 63 - 1`. -/
def greatest : Int := 9223372036854775807

/-- Whether an integer is a word with a sign. -/
def isSigned (i : Int) : Bool := least ≤ i && i ≤ greatest

/-- The word with a sign that is left of an integer if only 64 bits of it are kept. -/
def wrapped (i : Int) : Int := (i - least) % count + least

end Assay.Word

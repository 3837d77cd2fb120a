import Assay.Decimal.Digits
import Mathlib.Tactic.Common

/-!
# Decimal digits and their value

The decimal spelling of a number consists of digits, has that number as its value and
starts with a zero only if the number is zero.
-/

namespace Assay.Decimal

theorem isDigit_digitChar {d : Nat} (h : d < 10) :
  (digitChar d).isDigit = true
  := by
  decide +revert

/-- The character of a digit is read back as the digit. -/
theorem digitValue_digitChar {d : Nat} (h : d < 10) :
  digitValue (digitChar d) = d
  := by
  decide +revert

theorem digits_of_lt {n : Nat} (h : n < 10) :
  digits n = [digitChar n]
  := by
  rw [digits, if_pos h]

/-- A number of several digits ends in its remainder by ten. -/
theorem digits_of_le {n : Nat} (h : 10 ≤ n) :
  digits n = digits (n / 10) ++ [digitChar (n % 10)]
  := by
  rw [digits, if_neg (Nat.not_lt.mpr h)]

/-- The digits are those of the library's function that spells numbers. -/
theorem ofList_digits (n : Nat) :
  String.ofList (digits n) = toString n
  := by
  have hchar : ∀ d < 10, digitChar d = d.digitChar := by decide
  have hdigits : digits n = Nat.toDigits 10 n := by
    induction n using digits.induct with
    | case1 n hn => rw [digits_of_lt hn, Nat.toDigits_of_lt_base hn, hchar n hn]
    | case2 n hn ih =>
        have hle := Nat.not_lt.mp hn
        rw [digits_of_le hle, Nat.toDigits_of_base_le (by decide) hle, ih,
          hchar _ (Nat.mod_lt _ (by decide))]
  rw [hdigits, ← Nat.repr_eq_ofList_toDigits]
  rfl

/-- Even zero has a digit. -/
theorem digits_ne_nil (n : Nat) :
  digits n ≠ []
  := by
  rw [digits]
  split <;> simp

/-- Nothing but digits is written for a number. -/
theorem isDigit_of_mem_digits {n : Nat} {c : Char} (h : c ∈ digits n) :
  c.isDigit = true
  := by
  induction n using digits.induct with
  | case1 n hn =>
      rw [digits_of_lt hn, List.mem_singleton] at h
      rw [h]
      apply isDigit_digitChar hn
  | case2 n hn ih =>
      rw [digits_of_le (Nat.not_lt.mp hn), List.mem_append, List.mem_singleton] at h
      obtain h | rfl := h
      · apply ih h
      · apply isDigit_digitChar
        omega

/-- The spelling of a number starts with a digit. -/
theorem digits_eq_cons (n : Nat) :
  ∃ d ds, digits n = d :: ds ∧ d.isDigit = true
  := by
  obtain ⟨d, ds, hds⟩ := List.exists_cons_of_ne_nil (digits_ne_nil n)
  use d, ds, hds
  apply isDigit_of_mem_digits (n := n)
  rw [hds]
  apply List.mem_cons_self

/-- A digit at the end counts once, and all digits before it count ten times as much. -/
theorem value_append_singleton (cs : List Char) (c : Char) :
  value (cs ++ [c]) = 10 * value cs + digitValue c
  := by
  rw [value, List.foldl_append]
  rfl

/-- The value of the spelling of a number is the number. -/
theorem value_digits (n : Nat) :
  value (digits n) = n
  := by
  induction n using digits.induct with
  | case1 n hn =>
      rw [digits_of_lt hn, ← List.nil_append [digitChar n], value_append_singleton,
        digitValue_digitChar hn]
      apply Nat.zero_add n
  | case2 n hn ih =>
      rw [digits_of_le (Nat.not_lt.mp hn), value_append_singleton, ih,
        digitValue_digitChar (Nat.mod_lt n (by decide))]
      omega

/-- Only zero starts with a zero. -/
theorem eq_zero_of_head?_digits {n : Nat} (h : (digits n).head? = some '0') :
  n = 0
  := by
  induction n using digits.induct with
  | case1 n hn =>
      rw [digits_of_lt hn] at h
      revert h
      decide +revert
  | case2 n hn ih =>
      obtain ⟨c, cs, hcs⟩ := List.exists_cons_of_ne_nil (digits_ne_nil (n / 10))
      rw [digits_of_le (Nat.not_lt.mp hn), hcs] at h
      rw [hcs] at ih
      have hzero := ih h
      omega

end Assay.Decimal

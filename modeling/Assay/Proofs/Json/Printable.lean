import Assay.Proofs.Json.Compact

/-!
# Compact texts stand on one line

The compact text of a value without fractions has no control characters
(`printable_compactChars`), since quoted strings escape them; hence it has no end of a line in it.
-/

namespace Assay.Json

open Reader (following memberChars compactItems_cons compactMembers_cons)

/-- A text has no control characters below `U+0020`. -/
def Printable (us : List Char) : Prop :=
  ∀ c ∈ us, 0x20 ≤ c.toNat

instance (us : List Char) : Decidable (Printable us) :=
  List.decidableBAll (fun c : Char => 0x20 ≤ c.toNat) us

/-- No control character occurs in a text without any. -/
theorem Printable.notMem {us : List Char} (h : Printable us) {c : Char} (hc : c.toNat < 0x20) :
  c ∉ us
  := by
  intro hmem
  apply Nat.not_lt.mpr (h c hmem) hc

theorem printable_cons_iff {c : Char} {us : List Char} :
  Printable (c :: us) ↔ 0x20 ≤ c.toNat ∧ Printable us
  := List.forall_mem_cons

theorem printable_append_iff {us vs : List Char} :
  Printable (us ++ vs) ↔ Printable us ∧ Printable vs
  := List.forall_mem_append

/-- Texts without control characters have none when they are strung together. -/
theorem printable_flatMap {α : Type} {f : α → List Char} {xs : List α}
    (h : ∀ x ∈ xs, Printable (f x)) :
  Printable (xs.flatMap f)
  := by
  intro c hc
  obtain ⟨x, hx, hc⟩ := List.mem_flatMap.mp hc
  apply h x hx c hc

/-! ## Strings and numbers -/

/-- A control character is escaped by a backslash, a letter and digits, so that none is left. -/
theorem printable_escapeChar (c : Char) :
  Printable (escapeChar c)
  := by
  have hhex : ∀ n < 16, Printable [Decimal.hexChar n] := by decide
  rw [escapeChar]
  split_ifs with hquote hbackslash hcontrol
  any_goals decide
  · have hhigh := hhex (c.toNat / 16) (by omega)
    have hlow := hhex (c.toNat % 16) (by omega)
    have hstart : Printable ['\\', 'u', '0', '0'] := by decide
    apply printable_append_iff.mpr ⟨hstart, printable_append_iff.mpr ⟨hhigh, hlow⟩⟩
  · apply printable_cons_iff.mpr ⟨Nat.not_lt.mp hcontrol, by decide⟩

/-- A quoted string has no control characters, whatever the string. -/
theorem printable_quoteChars (cs : List Char) :
  Printable (quoteChars cs)
  := by
  rw [quoteChars, List.cons_append, printable_cons_iff, printable_append_iff]
  use by decide, printable_flatMap fun c _ => printable_escapeChar c
  decide

theorem printable_digits (n : Nat) :
  Printable (Decimal.digits n)
  := by
  intro c hc
  have hrange := Char.isDigit_iff_toNat.mp (Decimal.isDigit_of_mem_digits hc)
  apply Nat.le_trans (by decide) hrange.1

/-- The digits of an integer and its sign are no control characters. -/
theorem printable_intDigits (i : Int) :
  Printable (Decimal.intDigits i)
  := by
  cases i with
  | ofNat n => apply printable_digits
  | negSucc n => apply printable_cons_iff.mpr ⟨by decide, printable_digits (n + 1)⟩

/-! ## Values -/

/-- Texts behind commas have no control characters if they have none without the commas. -/
theorem printable_following {texts : List (List Char)} (h : ∀ us ∈ texts, Printable us) :
  Printable (following texts)
  := by
  apply printable_flatMap
  intro us hus
  apply printable_cons_iff.mpr ⟨by decide, h us hus⟩

/-- Commas are all that is put between the texts of items. -/
theorem printable_compactItems {items : List Json} (h : ∀ v ∈ items, Printable v.compactChars) :
  Printable (compactItems items)
  := by
  cases items with
  | nil => decide
  | cons v items =>
      obtain ⟨hv, hitems⟩ := List.forall_mem_cons.mp h
      rw [compactItems_cons, printable_append_iff]
      use hv, printable_following (List.forall_mem_map.mpr hitems)

/-- The name of a member is quoted, and a colon is all that is put between it and the value. -/
theorem printable_compactMembers {members : List (String × Json)}
    (h : ∀ m ∈ members, Printable m.2.compactChars) :
  Printable (compactMembers members)
  := by
  have hmember : ∀ m ∈ members, Printable (memberChars m) := by
    intro m hm
    apply printable_append_iff.mpr ⟨printable_quoteChars m.1.toList, _⟩
    apply printable_cons_iff.mpr ⟨by decide, h m hm⟩
  cases members with
  | nil => decide
  | cons m members =>
      obtain ⟨hm, hmembers⟩ := List.forall_mem_cons.mp hmember
      rw [compactMembers_cons, printable_append_iff]
      use hm, printable_following (List.forall_mem_map.mpr hmembers)

/-- The compact text of a value without fractions has no control characters. -/
theorem printable_compactChars {v : Json} (h : v.Integral) :
  Printable v.compactChars
  := by
  induction v using Json.induction with
  | null => decide
  | boolean b => cases b <;> decide
  | number n =>
      cases h with
      | number => apply printable_intDigits
  | string s => apply printable_quoteChars
  | array items ih =>
      have hparts := integral_array_iff.mp h
      have hitems := printable_compactItems fun v hv => ih v hv (hparts v hv)
      rw [compactChars, List.cons_append, printable_cons_iff, printable_append_iff]
      use by decide, hitems
      decide
  | object members ih =>
      have hparts := integral_object_iff.mp h
      have hmembers := printable_compactMembers fun m hm => ih m hm (hparts m hm)
      rw [compactChars, List.cons_append, printable_cons_iff, printable_append_iff]
      use by decide, hmembers
      decide

end Assay.Json

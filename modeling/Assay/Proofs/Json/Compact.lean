import Assay.Json.Printer
import Assay.Proofs.Json.Containers
import Assay.Text.Basic

/-!
# Reading compact texts

A value without fractions is read back from its compact text (`document_compactChars`).  The
proof is by induction on the value: a scalar is read from its spelling
(`ReadsDelimited.value_scalarChars`), and the text of a container is made of the texts of its
parts, with commas between them.
-/

namespace Assay.Json

/-- Every number in a value is an integer of 64 bits, with a sign or without. -/
inductive Integral : Json → Prop where
  | null : Integral .null
  | boolean (b : Bool) : Integral (.boolean b)
  | number {i : Int} (least : Word.least ≤ i) (count : i < Word.count) :
    Integral (.number (.int i))
  | string (s : String) : Integral (.string s)
  | array {items : List Json} (parts : ∀ v ∈ items, Integral v) : Integral (.array items)
  | object {members : List (String × Json)} (parts : ∀ m ∈ members, Integral m.2) :
    Integral (.object members)

theorem integral_array_iff {items : List Json} :
  (array items).Integral ↔ ∀ v ∈ items, v.Integral
  := by
  constructor
  · rintro (- | - | - | - | parts)
    exact parts
  · apply Integral.array

theorem integral_object_iff {members : List (String × Json)} :
  (object members).Integral ↔ ∀ m ∈ members, m.2.Integral
  := by
  constructor
  · rintro (- | - | - | - | - | parts)
    exact parts
  · apply Integral.object

namespace Reader

/-! ## Words -/

/-- A word is read as it is spelt. -/
theorem Reads.word (ws : List Char) :
  Reads (Reader.word ws : Reader Char Unit) ws ()
  := by
  induction ws with
  | nil => apply Reads.pure
  | cons w ws ih =>
      rw [Reader.word]
      apply Reads.peek_bind
      dsimp only [glyph]
      rw [if_pos rfl]
      apply Reads.skip_bind ih

/-! ## Scalars -/

/-- A value without fractions that is no container is read back from its spelling. -/
theorem ReadsDelimited.value_scalarChars {v : Json} (h : v.Integral) (hscalar : v.levels = 0)
    (depth : Nat) :
  ReadsDelimited (value depth) v.scalarChars v
  := by
  cases h with
  | null =>
      apply of_reads
      rw [value.eq_def]
      apply Reads.next_bind rfl
      exact Reads.skip_bind ((Reads.word ['u', 'l', 'l']).bind_pure fun _ => Json.null)
  | boolean b =>
      apply of_reads
      rw [value.eq_def]
      cases b with
      | false =>
          apply Reads.next_bind rfl
          have hword := (Reads.word ['a', 'l', 's', 'e']).bind_pure fun _ => Json.boolean false
          exact Reads.skip_bind hword
      | true =>
          apply Reads.next_bind rfl
          have hword := (Reads.word ['r', 'u', 'e']).bind_pure fun _ => Json.boolean true
          exact Reads.skip_bind hword
  | number hleast hcount => apply ReadsDelimited.value_intDigits hleast hcount
  | string s =>
      have hread := Reads.value_quoteChars depth s.toList
      rw [String.ofList_toList] at hread
      exact of_reads hread
  | array | object => cases hscalar

/-! ## Parts -/

theorem isBlank_of_isDigit {d : Char} (hd : d.isDigit = true) :
  Text.isBlank d = false
  := by
  have hrange : 48 ≤ d.toNat ∧ d.toNat ≤ 57 := Char.isDigit_iff_toNat.mp hd
  simp [Text.isBlank]
  omega

/-- The text of an integral value starts neither with a blank nor like the end of an array. -/
theorem compactChars_eq_cons {v : Json} (h : v.Integral) :
  ∃ u us, v.compactChars = u :: us ∧ Text.isBlank u = false ∧ u ≠ ']'
  := by
  cases h with
  | null => use 'n', ['u', 'l', 'l'], rfl, by decide, by decide
  | boolean b =>
      cases b with
      | false => use 'f', ['a', 'l', 's', 'e'], rfl, by decide, by decide
      | true => use 't', ['r', 'u', 'e'], rfl, by decide, by decide
  | @number i =>
      show ∃ u us, Decimal.intDigits i = u :: us ∧ _
      cases i with
      | ofNat n =>
          obtain ⟨d, ds, hds, hd⟩ := Decimal.digits_eq_cons n
          use d, ds, hds, isBlank_of_isDigit hd, ne_of_isDigit hd (by decide)
      | negSucc n => use '-', Decimal.digits (n + 1), rfl, by decide, by decide
  | string s => use '"', s.toList.flatMap escapeChar ++ ['"'], rfl, by decide, by decide
  | @array items =>
      rw [compactChars]
      use '[', compactItems items ++ [']'], rfl, by decide, by decide
  | @object members =>
      rw [compactChars]
      use '\x7b', compactMembers members ++ ['\x7d'], rfl, by decide, by decide

theorem compactItems_cons (v : Json) (items : List Json) :
  compactItems (v :: items) = v.compactChars ++ following (items.map compactChars)
  := by
  induction items generalizing v with
  | nil =>
      rw [compactItems]
      apply (List.append_nil _).symm
  | cons w items ih =>
      rw [compactItems, ih w, List.map_cons, following_cons]
      simp

theorem compactItems_eq_commas (items : List Json) :
  compactItems items = commas (items.map compactChars)
  := by
  cases items with
  | nil => rfl
  | cons v items => apply compactItems_cons

/-- The text of a member. -/
def memberChars (m : String × Json) : List Char :=
  quoteChars m.1.toList ++ ':' :: m.2.compactChars

theorem compactMembers_cons (m : String × Json) (members : List (String × Json)) :
  compactMembers (m :: members) = memberChars m ++ following (members.map memberChars)
  := by
  induction members generalizing m with
  | nil =>
      rw [compactMembers]
      apply (List.append_nil _).symm
  | cons n members ih =>
      rw [compactMembers, ih n, List.map_cons, following_cons]
      · simp [memberChars]
      · simp

theorem compactMembers_eq_commas (members : List (String × Json)) :
  compactMembers members = commas (members.map memberChars)
  := by
  cases members with
  | nil => rfl
  | cons m members => apply compactMembers_cons

/-! ## Values -/

/-- A value without fractions is read back from its compact text. -/
theorem ReadsDelimited.value_compactChars {v : Json} (h : v.Integral) {depth : Nat}
    (hlevels : v.levels ≤ depth) :
  ReadsDelimited (value depth) v.compactChars v
  := by
  induction v using Json.induction generalizing depth with
  | null | boolean | number | string => apply value_scalarChars h rfl
  | array items ih =>
      obtain ⟨d, rfl, hparts⟩ := exists_of_levels_array_le hlevels
      have hitems : List.Forall₂ (Takes (value d)) (items.map compactChars) items := by
        apply List.forall₂_map_left_iff.mpr (List.forall₂_same.mpr _)
        intro v hv
        apply (ih v hv (integral_array_iff.mp h v hv) (hparts v hv)).takes
      have hread := Reads.value_array hitems spaces_nil
      rw [List.append_nil, ← compactItems_eq_commas] at hread
      exact of_reads hread
  | object ms ih =>
      obtain ⟨d, rfl, hparts⟩ := exists_of_levels_object_le hlevels
      have hmembers : List.Forall₂ (TakesMember d) (ms.map memberChars) ms := by
        apply List.forall₂_map_left_iff.mpr (List.forall₂_same.mpr _)
        intro m hm
        have hv := ih m hm (integral_object_iff.mp h m hm) (hparts m hm)
        use [], m.2.compactChars, rfl, spaces_nil, hv.takes
      have hread := Reads.value_object hmembers spaces_nil
      rw [List.append_nil, ← compactMembers_eq_commas] at hread
      exact of_reads hread

/-- A value without fractions and with no more levels than a reader has room for is read from
the start of its compact text up to the end. -/
theorem value_start_compactChars {v : Json} (h : v.Integral) (hlevels : v.levels ≤ maxDepth) :
  value maxDepth (.start v.compactChars) = .ok (v, ⟨[], endPlace v.compactChars ⟨1, 0⟩⟩)
  := by
  have hread := ReadsDelimited.value_compactChars h hlevels [] ⟨1, 0⟩ delimited_nil
  rw [List.append_nil] at hread
  exact hread

/-- A value without fractions and with no more levels than a reader has room for is a
document in its compact spelling. -/
theorem document_compactChars {v : Json} (h : v.Integral) (hlevels : v.levels ≤ maxDepth) :
  document.onText v.compactChars = .ok v
  := by
  apply document_of_takes (ReadsDelimited.value_compactChars h hlevels).takes

end Reader

end Assay.Json

import Assay.Proofs.Decimal.Digits
import Assay.Proofs.Json.Reading
import Assay.Proofs.Json.Success

/-!
# Reading integers

The text of a number does not tell where the number ends.  Therefore it is read back only if
what follows is `Delimited`, that is, does not go on with the number; `ReadsDelimited` is
`Reads` in front of such texts.  Integers of 64 bits are read back
(`ReadsDelimited.value_intDigits`).
-/

namespace Assay.Json.Reader

variable {β γ : Type}

/-! ## What may follow -/

/-- A text does not go on with a number. -/
def Delimited (us : List Char) : Prop :=
  ∀ u, us.head?.map glyph = some u → u.isDigit = false ∧ u ≠ '.' ∧ u ≠ 'e' ∧ u ≠ 'E'

theorem delimited_nil :
  Delimited []
  := by
  rintro u ⟨⟩

theorem delimited_cons {u : Char} (h : u.isDigit = false ∧ u ≠ '.' ∧ u ≠ 'e' ∧ u ≠ 'E')
    (us : List Char) :
  Delimited (u :: us)
  := by
  rintro _ ⟨⟩
  exact h

/-- In front of a text that does not go on with a number, the reader takes the units for the
result and stops after them. -/
def ReadsDelimited (r : Reader Char β) (us : List Char) (x : β) : Prop :=
  ∀ rest place, Delimited rest → r ⟨us ++ rest, place⟩ = .ok (x, ⟨rest, endPlace us place⟩)

namespace ReadsDelimited

theorem of_reads {r : Reader Char β} {us : List Char} {x : β} (h : Reads r us x) :
  ReadsDelimited r us x
  := by
  intro rest place _
  apply h

/-- Reading, and then making something of the result. -/
theorem bind_pure {r : Reader Char β} {us : List Char} {x : β} (hr : ReadsDelimited r us x)
    (f : β → γ) :
  ReadsDelimited (r >>= fun y => Pure.pure (f y)) us (f x)
  := by
  intro rest place hrest
  rw [bind_eq_ok (hr rest place hrest)]
  rfl

end ReadsDelimited

/-! ## Numbers -/

/-- The digits are taken up to the first character that is none. -/
theorem takeDigits_append {ds rest : List Char} (hds : ∀ d ∈ ds, d.isDigit = true)
    (hrest : Delimited rest) (place : Place) :
  takeDigits (ds ++ rest) place = (ds, ⟨rest, endPlace ds place⟩)
  := by
  induction ds generalizing place with
  | nil =>
      cases rest with
      | nil => rfl
      | cons u rest =>
          have hu : ¬ (glyph u).isDigit = true := by
            rw [(hrest (glyph u) rfl).1]
            decide
          rw [List.nil_append, takeDigits, if_neg hu]
          rfl
  | cons d ds ih =>
      obtain ⟨hd, hds⟩ := List.forall_mem_cons.mp hds
      rw [List.cons_append, takeDigits, if_pos (show (glyph d).isDigit = true from hd), ih hds]
      rfl

/-- Digits are taken into a word as long as they make one. -/
theorem intoWord_eq {start : Nat} {cs : List Char}
    (h : cs.foldl (fun n c => 10 * n + Decimal.digitValue c) start < Word.count) :
  intoWord start cs = (cs.foldl (fun n c => 10 * n + Decimal.digitValue c) start, 0)
  := by
  have hle : ∀ (cs : List Char) (n : Nat),
      n ≤ cs.foldl (fun n c => 10 * n + Decimal.digitValue c) n := by
    intro cs
    induction cs with
    | nil =>
        intro n
        apply Nat.le_refl
    | cons c cs ih =>
        intro n
        apply Nat.le_trans _ (ih _)
        show n ≤ 10 * n + _
        omega
  induction cs generalizing start with
  | nil => rfl
  | cons c cs ih =>
      rw [List.foldl_cons] at h
      rw [intoWord, if_pos (Nat.lt_of_le_of_lt (hle cs _) h), ih h, List.foldl_cons]

theorem intoWord_digits {n : Nat} (h : n < Word.count) :
  intoWord 0 (Decimal.digits n) = (n, 0)
  := by
  have hvalue := Decimal.value_digits n
  rw [Decimal.value] at hvalue
  rw [intoWord_eq (by rw [hvalue]; exact h), hvalue]

/-- A word is read back from its digits, with the sign that was read before. -/
theorem ReadsDelimited.numberBody {n : Nat} (h : n < Word.count) (negative : Bool) :
  ReadsDelimited (Reader.numberBody negative) (Decimal.digits n) (integer negative n)
  := by
  intro rest place hrest
  obtain ⟨d, ds, hds, hdigit⟩ := Decimal.digits_eq_cons n
  have hall : ∀ c ∈ Decimal.digits n, c.isDigit = true :=
    fun c hc => Decimal.isDigit_of_mem_digits hc
  have hpeek : ∀ (us : List Char) (place : Place),
      (peek : Reader Char (Option Char)) ⟨us, place⟩ = .ok (us.head?.map glyph, ⟨us, place⟩) :=
    fun _ _ => rfl
  rw [Delimited] at hrest
  rw [Reader.numberBody, bind_eq_ok (hpeek _ _)]
  by_cases hzero : d = '0'
  · subst hzero
    obtain rfl : n = 0 := Decimal.eq_zero_of_head?_digits (by rw [hds]; rfl)
    rw [Decimal.digits_of_lt (by decide)]
    apply Eq.trans ((Reads.skip '0').run_bind _ rest place)
    rw [bind_eq_ok (hpeek _ _)]
    generalize rest.head?.map glyph = looks at *
    refine (congrFun (?_ : _ = (pure (integer negative 0) : Reader Char Number)) _).trans rfl
    split <;> simp_all
  · have hrun : digitRun ⟨Decimal.digits n ++ rest, place⟩
        = .ok (Decimal.digits n, ⟨rest, endPlace (Decimal.digits n) place⟩) := by
      rw [digitRun, get_bind]
      dsimp only
      rw [takeDigits_append hall hrest]
      rfl
    rw [hds, List.cons_append]
    dsimp only [List.head?_cons, Option.map_some, glyph]
    rw [if_neg (not_not.mpr hdigit), if_neg hzero, ← List.cons_append, ← hds, bind_eq_ok hrun,
      intoWord_digits h]
    dsimp only
    rw [bind_eq_ok (hpeek _ _)]
    generalize rest.head?.map glyph = looks at *
    refine (congrFun (?_ : _ = (pure (integer negative n) : Reader Char Number)) _).trans rfl
    split <;> simp_all

/-! ## Values -/

/-- What does not start like a container is read by `scalar`. -/
theorem value_eq_scalar {u : Char} (hspace : isSpace u = false) (hbracket : u ≠ '[')
    (hbrace : u ≠ '\x7b') (depth : Nat) (us : List Char) (place : Place) :
  value depth ⟨u :: us, place⟩ = scalar u ⟨u :: us, place⟩
  := by
  rw [value.eq_def, bind_eq_ok (next_eq (u := u) hspace us place)]
  refine congrFun (?_ : _ = (scalar u : Reader Char Json)) _
  split <;> simp_all [glyph]

/-- A digit is none of the characters that are no digits. -/
theorem ne_of_isDigit {c d : Char} (hd : d.isDigit = true) (hc : c.isDigit = false) :
  d ≠ c
  := by
  rintro rfl
  rw [hd] at hc
  cases hc

theorem isSpace_of_isDigit {d : Char} (hd : d.isDigit = true) :
  isSpace d = false
  := by
  simp [isSpace, ne_of_isDigit hd (show ' '.isDigit = false by decide),
    ne_of_isDigit hd (show '\n'.isDigit = false by decide),
    ne_of_isDigit hd (show '\t'.isDigit = false by decide),
    ne_of_isDigit hd (show '\r'.isDigit = false by decide)]

/-- What starts with a digit is a number without a sign. -/
theorem value_eq_number {d : Char} (hd : d.isDigit = true) (depth : Nat) (us : List Char)
    (place : Place) :
  value depth ⟨d :: us, place⟩
    = (numberBody false >>= fun n => pure (.number n)) ⟨d :: us, place⟩
  := by
  rw [value_eq_scalar (isSpace_of_isDigit hd) (ne_of_isDigit hd (by decide))
      (ne_of_isDigit hd (by decide)), scalar, if_neg (ne_of_isDigit hd (by decide)),
    if_neg (ne_of_isDigit hd (by decide)), if_neg (ne_of_isDigit hd (by decide)),
    if_neg (ne_of_isDigit hd (by decide)), if_pos hd]

/-- An integer of 64 bits is read back. -/
theorem ReadsDelimited.value_intDigits {i : Int} (hleast : Word.least ≤ i)
    (hcount : i < Word.count) (depth : Nat) :
  ReadsDelimited (value depth) (Decimal.intDigits i) (.number (.int i))
  := by
  cases i with
  | ofNat n =>
      intro rest place hrest
      obtain ⟨d, ds, hds, hd⟩ := Decimal.digits_eq_cons n
      have hread := (numberBody (Int.ofNat_lt.mp hcount) false).bind_pure Json.number
        rest place hrest
      rw [hds, List.cons_append] at hread
      rw [Decimal.intDigits, hds, List.cons_append, value_eq_number hd]
      exact hread
  | negSucc n =>
      have hword : n + 1 < Word.count := by
        rw [Word.least] at hleast
        rw [Word.count]
        omega
      have hinteger : integer true (n + 1) = .int (.negSucc n) := by
        rw [integer, if_pos rfl, if_neg]
        · rfl
        · rw [Word.least] at *
          omega
      rw [← hinteger, Decimal.intDigits]
      intro rest place hrest
      rw [List.cons_append, value_eq_scalar (by decide) (by decide) (by decide)]
      apply Eq.trans ((Reads.skip '-').run_bind _ _ place)
      apply (numberBody hword true).bind_pure Json.number _ _ hrest

end Assay.Json.Reader

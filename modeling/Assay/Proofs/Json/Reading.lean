import Assay.Json.Reader
import Mathlib.Tactic.Common

/-!
# Reading what was written

`Reads r us x` says that a reader takes the units `us`, whatever follows them, for `x`.
Readers put together read texts put together (`Reads.bind`).  A quoted string is read as
the string (`Reads.value_quoteChars`, `parse_quote`), so that a string can be told from its
quoted form (`quote_injective`).
-/

namespace Assay.Json

namespace Reader

variable {α β γ : Type} [Source α]

/-- In front of any text and from any place, the reader takes the units for the result and
stops after them. -/
def Reads (r : Reader α β) (us : List α) (x : β) : Prop :=
  ∀ rest place, r ⟨us ++ rest, place⟩ = .ok (x, ⟨rest, endPlace us place⟩)

theorem endPlace_append (us vs : List α) (place : Place) :
  endPlace (us ++ vs) place = endPlace vs (endPlace us place)
  := List.foldl_append

/-- A unit that is no white space is looked at and left. -/
theorem next_eq {u : α} (hu : isSpace (glyph u) = false) (us : List α) (place : Place) :
  next ⟨u :: us, place⟩ = .ok (some (glyph u), ⟨u :: us, place⟩)
  := by
  show Except.ok (((skipSpace (u :: us) place).rest.head?.map glyph), _) = _
  simp only [skipSpace, hu]
  rfl

namespace Reads

theorem pure (x : β) :
  Reads (Pure.pure x : Reader α β) [] x
  := by
  intro rest place
  rfl

/-- After reading the units, a reader goes on with the result. -/
theorem run_bind {r : Reader α β} {us : List α} {x : β} (hr : Reads r us x)
    (f : β → Reader α γ) (rest : List α) (place : Place) :
  (r >>= f) ⟨us ++ rest, place⟩ = f x ⟨rest, endPlace us place⟩
  := by
  show (r ⟨us ++ rest, place⟩ >>= fun p => f p.1 p.2) = _
  rw [hr]
  rfl

theorem bind {r : Reader α β} {f : β → Reader α γ} {us vs : List α} {x : β} {y : γ}
    (hr : Reads r us x) (hf : Reads (f x) vs y) :
  Reads (r >>= f) (us ++ vs) y
  := by
  intro rest place
  rw [List.append_assoc, endPlace_append, hr.run_bind]
  apply hf

/-- Reading, and then making something of the result. -/
theorem bind_pure {r : Reader α β} {us : List α} {x : β} (hr : Reads r us x) (f : β → γ) :
  Reads (r >>= fun y => Pure.pure (f y)) us (f x)
  := by
  have h : Reads (r >>= fun y => Pure.pure (f y)) (us ++ []) (f x) := hr.bind (pure (f x))
  rw [List.append_nil] at h
  exact h

theorem skip (u : α) :
  Reads Reader.skip [u] ()
  := by
  intro rest place
  rfl

/-- Stepping over a unit, and then reading. -/
theorem skip_bind {r : Reader α β} {u : α} {us : List α} {x : β} (hr : Reads r us x) :
  Reads (Reader.skip >>= fun _ => r) (u :: us) x
  := bind (skip u) hr

/-- Looking at a unit, and then reading from it on. -/
theorem peek_bind {f : Option Char → Reader α β} {u : α} {us : List α} {x : β}
    (hf : Reads (f (some (glyph u))) (u :: us) x) :
  Reads (peek >>= f) (u :: us) x
  := by
  intro rest place
  apply hf

/-- Looking at a unit that is no white space, and then reading from it on. -/
theorem next_bind {f : Option Char → Reader α β} {u : α} {us : List α} {x : β}
    (hu : isSpace (glyph u) = false) (hf : Reads (f (some (glyph u))) (u :: us) x) :
  Reads (next >>= f) (u :: us) x
  := by
  intro rest place
  apply Eq.trans (congrArg (· >>= fun p => f p.1 p.2) (next_eq hu (us ++ rest) place))
  apply hf

end Reads

omit [Source α] in
theorem get_bind (f : Cursor α → Reader α β) (cursor : Cursor α) :
  (get >>= f) cursor = f cursor cursor
  := rfl

/-! ## Escapes -/

theorem hexValue?_hexChar {d : Nat} (h : d < 16) :
  Decimal.hexValue? (Decimal.hexChar d) = some d
  := by
  decide +revert

/-- Hexadecimal digits are in ASCII. -/
theorem range_of_hexValue? {u : Char} {d : Nat} (h : Decimal.hexValue? u = some d) :
  48 ≤ u.toNat ∧ u.toNat ≤ 102
  := by
  rw [Decimal.hexValue?] at h
  split_ifs at h with hdigit hlower hupper
  · exact ⟨UInt32.le_iff_toNat_le.mp hdigit.1,
      Nat.le_trans (UInt32.le_iff_toNat_le.mp hdigit.2) (by decide)⟩
  · exact ⟨Nat.le_trans (by decide) (UInt32.le_iff_toNat_le.mp hlower.1),
      UInt32.le_iff_toNat_le.mp hlower.2⟩
  · exact ⟨Nat.le_trans (by decide) (UInt32.le_iff_toNat_le.mp hupper.1),
      Nat.le_trans (UInt32.le_iff_toNat_le.mp hupper.2) (by decide)⟩

/-- A hexadecimal digit is of one byte, and no line feed. -/
theorem after_of_hexValue? {u : Char} {d : Nat} (h : Decimal.hexValue? u = some d)
    (place : Place) :
  place.after (glyph u) (Source.width u) = ⟨place.line, place.column + 1⟩
  := by
  have hrange := range_of_hexValue? h
  have hfeed : u ≠ '\n' := by
    rintro rfl
    exact absurd hrange.1 (by decide)
  have hwidth : u.utf8Size = 1 :=
    Char.utf8Size_eq_one_iff.mpr (UInt32.le_iff_toNat_le.mpr (Nat.le_trans hrange.2 (by decide)))
  rw [Place.after, if_neg (show glyph u ≠ '\n' from hfeed)]
  apply congrArg (fun n => Place.mk place.line (place.column + n)) hwidth

theorem after_hexChar {d : Nat} (h : d < 16) (place : Place) :
  place.after (Decimal.hexChar d) (Source.width (Decimal.hexChar d))
    = ⟨place.line, place.column + 1⟩
  := after_of_hexValue? (hexValue?_hexChar h) place

/-- The number that four hexadecimal digits spell is read back from them. -/
theorem Reads.hexEscape {p q m n : Nat} (hp : p < 16) (hq : q < 16) (hm : m < 16)
    (hn : n < 16) :
  Reads Reader.hexEscape
    [Decimal.hexChar p, Decimal.hexChar q, Decimal.hexChar m, Decimal.hexChar n]
    (4096 * p + 256 * q + 16 * m + n)
  := by
  intro rest place
  have hplace : endPlace
      [Decimal.hexChar p, Decimal.hexChar q, Decimal.hexChar m, Decimal.hexChar n] place
        = ⟨place.line, place.column + 4⟩ := by
    simp only [endPlace, List.foldl_cons, List.foldl_nil, glyph, after_hexChar, hp, hq, hm, hn]
  rw [hplace]
  rw [Reader.hexEscape, get_bind]
  simp only [List.cons_append, List.nil_append, glyph, hexValue?_hexChar, hp, hq, hm, hn]
  rfl

/-- A control character is read back from its escape. -/
theorem Reads.unicodeEscape {c : Char} (h : c.toNat < 0x20) :
  Reads Reader.unicodeEscape
    ['0', '0', Decimal.hexChar (c.toNat / 16), Decimal.hexChar (c.toNat % 16)] c
  := by
  have hhex : Reads Reader.hexEscape
      ['0', '0', Decimal.hexChar (c.toNat / 16), Decimal.hexChar (c.toNat % 16)] c.toNat := by
    have hdigits : 4096 * 0 + 256 * 0 + 16 * (c.toNat / 16) + c.toNat % 16 = c.toNat := by omega
    have hread := Reads.hexEscape (p := 0) (q := 0) (m := c.toNat / 16) (n := c.toNat % 16)
      (by omega) (by omega) (by omega) (by omega)
    rw [hdigits] at hread
    exact hread
  have hchar : Reads (Pure.pure (Char.ofNat c.toNat) : Reader Char Char) [] c := by
    rw [Char.ofNat_toNat]
    apply Reads.pure
  apply Reads.bind hhex
  rw [if_neg (by omega), if_pos (by omega)]
  exact hchar

/-- A character is written as itself, or as a backslash and an escape that is read as the
character. -/
theorem escapeChar_cases (c : Char) :
  (escapeChar c = [c] ∧ c ≠ '"' ∧ c ≠ '\\' ∧ ¬ c.toNat < 0x20) ∨
    ∃ us, escapeChar c = '\\' :: us ∧ Reads escape us c
  := by
  rw [escapeChar]
  split_ifs with hquote hbackslash hcontrol hn hr ht hb hf
  · subst hquote
    exact .inr ⟨_, rfl, .peek_bind (.skip_bind (.pure _))⟩
  · subst hbackslash
    exact .inr ⟨_, rfl, .peek_bind (.skip_bind (.pure _))⟩
  · subst hn
    exact .inr ⟨_, rfl, .peek_bind (.skip_bind (.pure _))⟩
  · subst hr
    exact .inr ⟨_, rfl, .peek_bind (.skip_bind (.pure _))⟩
  · subst ht
    exact .inr ⟨_, rfl, .peek_bind (.skip_bind (.pure _))⟩
  · subst hb
    exact .inr ⟨_, rfl, .peek_bind (.skip_bind (.pure _))⟩
  · subst hf
    exact .inr ⟨_, rfl, .peek_bind (.skip_bind (.pure _))⟩
  · exact .inr ⟨_, rfl, .peek_bind (.skip_bind (.unicodeEscape hcontrol))⟩
  · exact .inl ⟨rfl, hquote, hbackslash, hcontrol⟩

theorem length_le_length_escaped (cs : List Char) :
  cs.length ≤ (cs.flatMap escapeChar).length
  := by
  induction cs with
  | nil => apply Nat.le_refl
  | cons c cs ih =>
      rw [List.flatMap_cons, List.length_append, List.length_cons]
      obtain ⟨h, -⟩ | ⟨us, h, -⟩ := escapeChar_cases c
      · rw [h, List.length_singleton]
        omega
      · rw [h, List.length_cons]
        omega

/-! ## Strings -/

/-- Reading what a character is written as adds one piece that stands for the character. -/
theorem stringPieces_escapeChar (c : Char) :
  ∃ piece : Char ⊕ Char, Sum.elim id id piece = c ∧
    ∀ fuel pieces rest place,
      stringPieces (fuel + 1) pieces ⟨escapeChar c ++ rest, place⟩
        = stringPieces fuel (piece :: pieces) ⟨rest, endPlace (escapeChar c) place⟩
  := by
  obtain ⟨h, hquote, hbackslash, hcontrol⟩ | ⟨us, h, hescape⟩ := escapeChar_cases c
  · use .inl c, rfl
    intro fuel pieces rest place
    rw [h, stringPieces, get_bind]
    simp only [List.cons_append, List.nil_append, glyph, hquote, hbackslash, hcontrol, if_false]
    rfl
  · use .inr c, rfl
    intro fuel pieces rest place
    rw [h, stringPieces, get_bind]
    simp only [List.cons_append, glyph, if_pos, if_neg (show '\\' ≠ '"' by decide)]
    apply Eq.trans ((Reads.skip '\\').run_bind _ (us ++ rest) place)
    apply hescape.run_bind

/-- The pieces of a quoted string stand for its characters. -/
theorem stringPieces_quoted (cs : List Char) :
  ∃ pieces : List (Char ⊕ Char), pieces.map (Sum.elim id id) = cs ∧
    ∀ fuel, cs.length < fuel → ∀ before,
      Reads (stringPieces fuel before) (cs.flatMap escapeChar ++ ['"'])
        (before.reverse ++ pieces)
  := by
  induction cs with
  | nil =>
      use [], rfl
      intro fuel hfuel before rest place
      obtain ⟨fuel, rfl⟩ : ∃ n, fuel = n + 1 := Nat.exists_eq_add_one.mpr hfuel
      rw [stringPieces, get_bind, List.append_nil]
      rfl
  | cons c cs ih =>
      obtain ⟨piece, hpiece, hread⟩ := stringPieces_escapeChar c
      obtain ⟨pieces, hpieces, ih⟩ := ih
      use piece :: pieces
      use by rw [List.map_cons, hpiece, hpieces]
      intro fuel hfuel before rest place
      obtain ⟨fuel, rfl⟩ : ∃ n, fuel = n + 1 := Nat.exists_eq_add_one.mpr (by omega)
      rw [List.flatMap_cons, List.append_assoc (escapeChar c), List.append_assoc (escapeChar c),
        hread, endPlace_append, ih fuel (by simpa using hfuel), List.reverse_cons,
        List.append_assoc, List.singleton_append]

/-- A quoted string is read after its first mark. -/
theorem Reads.stringBody (cs : List Char) :
  Reads Reader.stringBody (cs.flatMap escapeChar ++ ['"']) (String.ofList cs)
  := by
  obtain ⟨pieces, hpieces, hread⟩ := stringPieces_quoted cs
  intro rest place
  have hfuel : cs.length < (cs.flatMap escapeChar ++ ['"'] ++ rest).length + 1 := by
    have hlength := length_le_length_escaped cs
    simp only [List.length_append, List.length_singleton]
    omega
  rw [Reader.stringBody, get_bind]
  apply Eq.trans ((hread _ hfuel []).run_bind _ rest place)
  have hdecode : Source.decode ([].reverse ++ pieces) = some cs := congrArg some hpieces
  rw [hdecode]
  rfl

/-- A quoted string is read as the string. -/
theorem Reads.value_quoteChars (depth : Nat) (cs : List Char) :
  Reads (value depth) (quoteChars cs) (.string (String.ofList cs))
  := by
  rw [value.eq_def]
  apply Reads.next_bind rfl
  apply Reads.skip_bind
  apply Reads.bind_pure (Reads.stringBody cs)

/-! ## Whole texts -/

/-- A text that is read as a value, and has nothing else, is a document. -/
theorem document_of_reads {us : List α} {v : Json} (h : Reads (value maxDepth) us v) :
  document.onText us = .ok v
  := by
  have hstart : Cursor.start us = ⟨us ++ [], ⟨1, 0⟩⟩ := by
    rw [List.append_nil]
    rfl
  rw [onText, hstart]
  apply congrArg (Except.map Prod.fst) (h.run_bind _ [] ⟨1, 0⟩)

end Reader

theorem parse_of_reads {text : String} {v : Json}
    (h : Reader.Reads (Reader.value Reader.maxDepth) text.toList v) :
  parse text = .ok v.settled
  := by
  rw [parse, Reader.document_of_reads h]
  rfl

/-- A quoted string is a document, and its value is the string. -/
theorem parse_quote (s : String) :
  parse (quote s) = .ok (.string s)
  := by
  have hread := Reader.Reads.value_quoteChars Reader.maxDepth s.toList
  rw [String.ofList_toList] at hread
  apply parse_of_reads (v := .string s)
  rw [quote, String.toList_ofList]
  exact hread

/-- A string can be told from its quoted form. -/
theorem quote_injective :
  Function.Injective quote
  := by
  intro s t h
  have hparse := parse_quote s
  rw [h, parse_quote t] at hparse
  cases hparse
  rfl

end Assay.Json

import Assay.Proofs.Json.Reading
import Assay.Proofs.Json.Success

/-!
# Reading bytes

A text is read from its characters or from its bytes of UTF-8.  `Mirrors r r'` says that the
second reader does to the bytes of a text what the first does to its characters, whether they
succeed or fail; in particular they tell the same places.  The two sources look alike as far as
ASCII goes.  Outside of it a byte does not look like the character that it belongs to, so that
what is decided by a look has to be `Blind` there.
-/

namespace Assay.Json

/-! ## Characters outside ASCII -/

/-- The character is outside ASCII. -/
abbrev Wide (c : Char) : Prop := 128 ≤ c.toNat

/-- A wide character is none of those of one byte. -/
theorem Wide.ne {u c : Char} (h : Wide u) (hc : ¬ Wide c) :
  u ≠ c
  := by
  rintro rfl
  apply hc h

theorem Wide.not_space {u : Char} (h : Wide u) :
  ¬ Reader.isSpace u = true
  := by
  simp [Reader.isSpace, h.ne]

theorem Wide.not_digit {u : Char} (h : Wide u) :
  ¬ u.isDigit = true
  := by
  intro hdigit
  have hnine := of_decide_eq_true (Bool.and_eq_true_iff.mp hdigit).2
  have hle : u.toNat ≤ 57 := UInt32.le_iff_toNat_le.mp hnine
  apply Nat.not_le_of_lt (Nat.lt_of_le_of_lt hle (by decide)) h

theorem Wide.hexValue? {u : Char} (h : Wide u) :
  Decimal.hexValue? u = none
  := by
  cases hu : Decimal.hexValue? u with
  | none => rfl
  | some d =>
      have hle := (Reader.range_of_hexValue? hu).2
      apply absurd h (Nat.not_le_of_lt (Nat.lt_of_le_of_lt hle (by decide)))

/-- The place after a character outside ASCII, which is no line feed. -/
theorem after_of_wide {u : Char} (h : Wide u) (p : Place) (width : Nat) :
  p.after u width = ⟨p.line, p.column + width⟩
  := by
  rw [Place.after, if_neg (h.ne (by decide))]

/-! ## Characters and their bytes -/

/-- The bytes of characters. -/
def utf8 (us : List Char) : List UInt8 := us.flatMap String.utf8EncodeChar

theorem utf8_cons (u : Char) (us : List Char) :
  utf8 (u :: us) = String.utf8EncodeChar u ++ utf8 us
  := List.flatMap_cons

/-- The bytes are those of the library. -/
theorem utf8_toArray (us : List Char) :
  ByteArray.mk (utf8 us).toArray = us.utf8Encode
  := by
  apply ByteArray.ext
  simp [List.utf8Encode, utf8]

theorem glyph_char (u : Char) :
  glyph u = u
  := rfl

theorem toNat_glyph (b : UInt8) :
  (glyph b).toNat = b.toNat
  := by
  have hb := b.toNat_lt
  have hvalid : b.toNat.isValidChar := .inl (by omega)
  show (Char.ofNat b.toNat).toNat = b.toNat
  rw [Char.ofNat, dif_pos hvalid]
  rfl

/-- A character of ASCII is one byte, which looks like it. -/
theorem utf8EncodeChar_of_not_wide {u : Char} (h : ¬ Wide u) :
  ∃ b, String.utf8EncodeChar u = [b] ∧ glyph b = u
  := by
  have hu : u.toNat < 128 := Nat.lt_of_not_le h
  use UInt8.ofNat u.toNat
  constructor
  · rw [String.utf8EncodeChar]
    exact if_pos (Nat.le_of_lt_succ hu)
  · apply Char.toNat_inj.mp
    rw [toNat_glyph, UInt8.toNat_ofNat']
    omega

/-- The bytes of a character outside ASCII look like characters outside ASCII. -/
theorem wide_of_mem_utf8EncodeChar {u : Char} (h : Wide u) :
  ∀ b ∈ String.utf8EncodeChar u, Wide (glyph b)
  := by
  have hu : ¬ u.val.toNat ≤ 127 := Nat.not_le_of_lt h
  rw [String.utf8EncodeChar]
  simp only [if_neg hu, Wide, toNat_glyph]
  -- A leading byte is at least 192, and a following one at least 128.
  split_ifs
  all_goals
    simp only [List.forall_mem_cons, List.not_mem_nil, false_imp_iff, implies_true, and_true,
      UInt8.toNat_ofNat']
    omega

/-- The first byte of a wide character is wide itself. -/
theorem utf8_cons_of_wide {u : Char} (h : Wide u) (us : List Char) :
  ∃ b bs, utf8 (u :: us) = b :: bs ∧ Wide (glyph b)
  := by
  have hwide := wide_of_mem_utf8EncodeChar h
  have hlength := String.length_utf8EncodeChar u
  rw [utf8_cons]
  cases hbytes : String.utf8EncodeChar u with
  | nil =>
      rw [hbytes] at hlength
      cases Nat.ne_of_gt u.utf8Size_pos hlength.symm
  | cons b bs =>
      rw [hbytes] at hwide
      exact ⟨b, bs ++ utf8 us, rfl, hwide b List.mem_cons_self⟩

/-- A character that is not wide is one byte, with the same glyph. -/
theorem utf8_cons_of_not_wide {u : Char} (h : ¬ Wide u) (us : List Char) :
  ∃ b, utf8 (u :: us) = b :: utf8 us ∧ glyph b = u
  := by
  obtain ⟨b, hb, hglyph⟩ := utf8EncodeChar_of_not_wide h
  use b
  rw [utf8_cons, hb]
  exact ⟨rfl, hglyph⟩

/-- There are no more characters than bytes. -/
theorem length_le_length_utf8 (us : List Char) :
  us.length ≤ (utf8 us).length
  := by
  induction us with
  | nil => apply Nat.le_refl
  | cons u us ih =>
      have hpos := u.utf8Size_pos
      rw [utf8_cons, List.length_append, String.length_utf8EncodeChar, List.length_cons]
      omega

theorem width_of_not_wide {u : Char} (h : ¬ Wide u) :
  Source.width u = 1
  := by
  obtain ⟨b, hbytes, -⟩ := utf8EncodeChar_of_not_wide h
  show u.utf8Size = 1
  rw [← String.length_utf8EncodeChar, hbytes, List.length_singleton]

/-- The place after a character of ASCII is that after its byte. -/
theorem after_of_not_wide {u : Char} (h : ¬ Wide u) {b : UInt8} (hb : glyph b = u) (p : Place) :
  p.after (glyph b) (Source.width b) = p.after u (Source.width u)
  := by
  rw [hb, width_of_not_wide h]
  rfl

/-- A cursor in the bytes of a text. -/
def Cursor.bytes (c : Cursor Char) : Cursor UInt8 := ⟨utf8 c.rest, c.place⟩

theorem Cursor.bytes_of_wide {u : Char} (h : Wide u) (us : List Char) (p : Place) :
  ∃ b bs, Cursor.bytes ⟨u :: us, p⟩ = ⟨b :: bs, p⟩ ∧ Wide (glyph b)
  := by
  obtain ⟨b, bs, hbytes, hb⟩ := utf8_cons_of_wide h us
  exact ⟨b, bs, congrArg (Cursor.mk · p) hbytes, hb⟩

theorem Cursor.bytes_of_not_wide {u : Char} (h : ¬ Wide u) (us : List Char) (p : Place) :
  ∃ b, Cursor.bytes ⟨u :: us, p⟩ = ⟨b :: utf8 us, p⟩ ∧ glyph b = u
  := by
  obtain ⟨b, hbytes, hb⟩ := utf8_cons_of_not_wide h us
  exact ⟨b, congrArg (Cursor.mk · p) hbytes, hb⟩

namespace Reader

variable {β γ : Type}

/-! ## Runs and places -/

/-- White space is made of characters of one byte. -/
theorem skipSpace_utf8 (us : List Char) (p : Place) :
  skipSpace (utf8 us) p = (skipSpace us p).bytes
  := by
  induction us generalizing p with
  | nil => rfl
  | cons u us ih =>
      by_cases hu : Wide u
      · obtain ⟨b, bs, hbytes, hb⟩ := utf8_cons_of_wide hu us
        rw [hbytes, skipSpace, skipSpace, glyph_char, if_neg hb.not_space, if_neg hu.not_space,
          Cursor.bytes, hbytes]
      · obtain ⟨b, hbytes, hb⟩ := utf8_cons_of_not_wide hu us
        rw [hbytes, skipSpace, skipSpace, glyph_char, after_of_not_wide hu hb, hb, ih]
        split_ifs
        · rfl
        · rw [Cursor.bytes, hbytes]

/-- Digits are characters of one byte. -/
theorem takeDigits_utf8 (us : List Char) (p : Place) :
  takeDigits (utf8 us) p = ((takeDigits us p).1, (takeDigits us p).2.bytes)
  := by
  induction us generalizing p with
  | nil => rfl
  | cons u us ih =>
      by_cases hu : Wide u
      · obtain ⟨b, bs, hbytes, hb⟩ := utf8_cons_of_wide hu us
        rw [hbytes, takeDigits, takeDigits, glyph_char, if_neg hb.not_digit, if_neg hu.not_digit,
          Cursor.bytes, hbytes]
      · obtain ⟨b, hbytes, hb⟩ := utf8_cons_of_not_wide hu us
        rw [hbytes, takeDigits, takeDigits, glyph_char, after_of_not_wide hu hb, hb, ih]
        split_ifs
        · rfl
        · rw [Cursor.bytes, hbytes]

theorem exponentDigits_utf8 (us : List Char) (p : Place) (n : Nat) :
  exponentDigits (utf8 us) p n
    = ((exponentDigits us p n).1.bytes, (exponentDigits us p n).2)
  := by
  induction us generalizing p n with
  | nil => rfl
  | cons u us ih =>
      by_cases hu : Wide u
      · obtain ⟨b, bs, hbytes, hb⟩ := utf8_cons_of_wide hu us
        rw [hbytes, exponentDigits, exponentDigits, glyph_char, if_neg hb.not_digit,
          if_neg hu.not_digit, Cursor.bytes, hbytes]
      · obtain ⟨b, hbytes, hb⟩ := utf8_cons_of_not_wide hu us
        rw [hbytes, exponentDigits, exponentDigits, glyph_char, after_of_not_wide hu hb, hb]
        split_ifs
        · dsimp only
          split_ifs
          · apply ih
          · rfl
        · rw [Cursor.bytes, hbytes]

/-- Bytes outside ASCII are no line feeds. -/
theorem endPlace_of_wide {bs : List UInt8} (h : ∀ b ∈ bs, Wide (glyph b)) (p : Place) :
  endPlace bs p = ⟨p.line, p.column + bs.length⟩
  := by
  induction bs generalizing p with
  | nil => rfl
  | cons b bs ih =>
      obtain ⟨hb, hbs⟩ := List.forall_mem_cons.mp h
      show endPlace bs (p.after (glyph b) 1) = _
      rw [ih hbs, after_of_wide hb, List.length_cons, Nat.add_assoc, Nat.add_comm 1]

/-- A character ends at the same place as its bytes. -/
theorem endPlace_utf8EncodeChar (u : Char) (p : Place) :
  endPlace (String.utf8EncodeChar u) p = p.after u (Source.width u)
  := by
  by_cases hu : Wide u
  · rw [endPlace_of_wide (wide_of_mem_utf8EncodeChar hu), String.length_utf8EncodeChar,
      after_of_wide hu]
    rfl
  · obtain ⟨b, hbytes, hb⟩ := utf8EncodeChar_of_not_wide hu
    rw [hbytes, ← after_of_not_wide hu hb]
    rfl

/-- Columns are counted in bytes, so that the end of a text is at the same place. -/
theorem endPlace_utf8 (us : List Char) (p : Place) :
  endPlace (utf8 us) p = endPlace us p
  := by
  induction us generalizing p with
  | nil => rfl
  | cons u us ih =>
      rw [utf8_cons, endPlace_append, endPlace_utf8EncodeChar, ih]
      rfl

/-- A number of bytes ends inside of a character outside ASCII, or after it. -/
theorem placeAfter_append_of_wide {bs : List UInt8} (h : ∀ b ∈ bs, Wide (glyph b))
    (rest : List UInt8) (n : Nat) (p : Place) :
  placeAfter n (bs ++ rest) p =
    if bs.length ≤ n then placeAfter (n - bs.length) rest ⟨p.line, p.column + bs.length⟩
    else some ⟨p.line, p.column + n⟩
  := by
  induction bs generalizing n p with
  | nil => rfl
  | cons b bs ih =>
      obtain ⟨hb, hbs⟩ := List.forall_mem_cons.mp h
      cases n with
      | zero => rw [placeAfter]; rfl
      | succ n =>
          have hwidth : Source.width b ≤ n + 1 := Nat.le_add_left 1 n
          rw [List.cons_append, placeAfter, if_pos hwidth, after_of_wide hb]
          show placeAfter n (bs ++ rest) ⟨p.line, p.column + 1⟩ = _
          rw [ih hbs, List.length_cons]
          simp only [Nat.add_le_add_iff_right, Nat.add_sub_add_right, Nat.add_assoc,
            Nat.add_comm 1]

theorem placeAfter_utf8 (n : Nat) (us : List Char) (p : Place) :
  placeAfter n (utf8 us) p = placeAfter n us p
  := by
  induction us generalizing n p with
  | nil => cases n <;> rw [utf8, List.flatMap_nil, placeAfter, placeAfter]
  | cons u us ih =>
      cases n with
      | zero => rw [placeAfter, placeAfter]
      | succ n =>
          by_cases hu : Wide u
          · rw [utf8_cons, placeAfter_append_of_wide (wide_of_mem_utf8EncodeChar hu),
              String.length_utf8EncodeChar, placeAfter, glyph_char, after_of_wide hu,
              after_of_wide hu, ih]
            rfl
          · obtain ⟨b, hbytes, hb⟩ := utf8_cons_of_not_wide hu us
            have hwidth := width_of_not_wide hu
            rw [hbytes, placeAfter, placeAfter, glyph_char, after_of_not_wide hu hb, hwidth]
            show (if 1 ≤ n + 1 then placeAfter n (utf8 us) _ else some (p.after (glyph b) (n + 1)))
              = if 1 ≤ n + 1 then placeAfter n us _ else _
            rw [ih, hb]

/-! ## Steps -/

/-- The second reader does to the bytes at a cursor what the first does to the characters, and
makes of it what `g` makes of the result of the first. -/
def MirrorsBy (g : β → γ) (c : Cursor Char) (r : Reader Char β) (r' : Reader UInt8 γ) : Prop :=
  r' c.bytes = (r c).map (Prod.map g Cursor.bytes)

/-- The second reader does to the bytes at a cursor what the first does to the characters. -/
def MirrorsAt (c : Cursor Char) (r : Reader Char β) (r' : Reader UInt8 β) : Prop :=
  MirrorsBy id c r r'

/-- The second reader does to bytes what the first does to characters. -/
def Mirrors (r : Reader Char β) (r' : Reader UInt8 β) : Prop :=
  ∀ c, MirrorsAt c r r'

/-- The second reader does to bytes what the first does to characters in front of `look`. -/
def MirrorsAhead (look : Option Char) (r : Reader Char β) (r' : Reader UInt8 β) : Prop :=
  ∀ c, c.rest.head? = look → MirrorsAt c r r'

/-- What is done after a look outside ASCII does not depend on what was seen. -/
def Blind (f : Option Char → Reader UInt8 β) : Prop :=
  ∀ x y, Wide x → Wide y → f (some x) = f (some y)

/-- The second step has to be followed only where the first one leads. -/
theorem MirrorsBy.bind {β' γ' : Type} {g : β → β'} {g' : γ → γ'} {c : Cursor Char}
    {r : Reader Char β} {r' : Reader UInt8 β'} {f : β → Reader Char γ} {f' : β' → Reader UInt8 γ'}
    (hr : MirrorsBy g c r r')
    (hf : ∀ x c', r c = .ok (x, c') → r' c.bytes = .ok (g x, c'.bytes) →
      MirrorsBy g' c' (f x) (f' (g x))) :
  MirrorsBy g' c (r >>= f) (r' >>= f')
  := by
  rw [MirrorsBy] at hr ⊢
  cases hrc : r c with
  | error fault =>
      rw [hrc] at hr
      rw [bind_eq_error hrc, bind_eq_error hr, Except.map]
  | ok p =>
      obtain ⟨x, c'⟩ := p
      rw [hrc] at hr
      rw [bind_eq_ok hrc, bind_eq_ok hr]
      exact hf x c' hrc hr

/-- The first byte of a character is a line feed exactly if the character is. -/
theorem MirrorsBy.failNext {g : β → γ} (cause : Cause) (c : Cursor Char) :
  MirrorsBy g c (Reader.failNext cause) (Reader.failNext cause)
  := by
  obtain ⟨us, p⟩ := c
  cases us with
  | nil => rfl
  | cons u us =>
      by_cases hu : Wide u
      · obtain ⟨b, bs, hcursor, hb⟩ := Cursor.bytes_of_wide hu us p
        rw [MirrorsBy, hcursor]
        show Except.error (Fault.mk cause (some (p.after (glyph b) 1)) [])
          = .error ⟨cause, some (p.after u 1), []⟩
        rw [after_of_wide hb, after_of_wide hu]
      · obtain ⟨b, hcursor, hb⟩ := Cursor.bytes_of_not_wide hu us p
        rw [MirrorsBy, hcursor]
        show Except.error (Fault.mk cause (some (p.after (glyph b) 1)) [])
          = .error ⟨cause, some (p.after u 1), []⟩
        rw [hb]

/-- Steps that mirror each other do so one after the other. -/
theorem MirrorsAt.bind {c : Cursor Char} {r : Reader Char β} {r' : Reader UInt8 β}
    {f : β → Reader Char γ} {f' : β → Reader UInt8 γ} (hr : MirrorsAt c r r')
    (hf : ∀ x, Mirrors (f x) (f' x)) :
  MirrorsAt c (r >>= f) (r' >>= f')
  := MirrorsBy.bind hr fun x c' _ _ => hf x c'

/-- Telling the cursor, and then reading. -/
theorem MirrorsAt.get_bind {c : Cursor Char} {f : Cursor Char → Reader Char β}
    {f' : Cursor UInt8 → Reader UInt8 β} (h : MirrorsAt c (f c) (f' c.bytes)) :
  MirrorsAt c (get >>= f) (get >>= f')
  := h

theorem MirrorsAhead.bind {look : Option Char} {r : Reader Char β} {r' : Reader UInt8 β}
    {f : β → Reader Char γ} {f' : β → Reader UInt8 γ} (hr : MirrorsAhead look r r')
    (hf : ∀ x, Mirrors (f x) (f' x)) :
  MirrorsAhead look (r >>= f) (r' >>= f')
  := fun c hc => (hr c hc).bind hf

/-- A character of ASCII is stepped over with its byte. -/
theorem MirrorsAhead.skip {ch : Char} (hch : ¬ Wide ch) :
  MirrorsAhead (some ch) Reader.skip Reader.skip
  := by
  rintro ⟨us, p⟩ hc
  obtain ⟨us, rfl⟩ := List.head?_eq_some_iff.mp hc
  obtain ⟨b, hcursor, hb⟩ := Cursor.bytes_of_not_wide hch us p
  rw [MirrorsAt, MirrorsBy, hcursor]
  show Except.ok ((), Cursor.mk (utf8 us) (p.after (glyph b) (Source.width b))) = _
  rw [after_of_not_wide hch hb]
  rfl

namespace Mirrors

/-- What mirrors at every place does so where the next character is known. -/
theorem ahead {look : Option Char} {r : Reader Char β} {r' : Reader UInt8 β} (h : Mirrors r r') :
  MirrorsAhead look r r'
  := fun c _ => h c

theorem bind {r : Reader Char β} {r' : Reader UInt8 β} {f : β → Reader Char γ}
    {f' : β → Reader UInt8 γ} (hr : Mirrors r r') (hf : ∀ x, Mirrors (f x) (f' x)) :
  Mirrors (r >>= f) (r' >>= f')
  := fun c => (hr c).bind hf

theorem pure (x : β) :
  Mirrors (Pure.pure x) (Pure.pure x)
  := fun _ => rfl

theorem fail (cause : Cause) :
  Mirrors (Reader.fail cause : Reader Char β) (Reader.fail cause)
  := fun _ => rfl

theorem within {r : Reader Char β} {r' : Reader UInt8 β} (hr : Mirrors r r') (step : Step) :
  Mirrors (Reader.within step r) (Reader.within step r')
  := by
  intro c
  rw [MirrorsAt, MirrorsBy, Reader.within, Reader.within, hr c]
  cases r c <;> rfl

theorem failNext (cause : Cause) :
  Mirrors (Reader.failNext cause : Reader Char β) (Reader.failNext cause)
  := MirrorsBy.failNext cause

/-- Looking at the next unit, and then reading. -/
theorem peek_bind {f : Option Char → Reader Char β} {f' : Option Char → Reader UInt8 β}
    (hblind : Blind f') (h : ∀ look, MirrorsAhead look (f look) (f' look)) :
  Mirrors (peek >>= f) (peek >>= f')
  := by
  rintro ⟨us, p⟩
  cases us with
  | nil => exact h none ⟨[], p⟩ rfl
  | cons u us =>
      have hu := h (some u) ⟨u :: us, p⟩ rfl
      by_cases hwide : Wide u
      · obtain ⟨b, bs, hcursor, hb⟩ := Cursor.bytes_of_wide hwide us p
        rw [MirrorsAt, MirrorsBy, hcursor] at hu ⊢
        show f' (some (glyph b)) ⟨b :: bs, p⟩ = _
        rw [hblind _ u hb hwide, hu]
        rfl
      · obtain ⟨b, hcursor, hb⟩ := Cursor.bytes_of_not_wide hwide us p
        rw [MirrorsAt, MirrorsBy, hcursor] at hu ⊢
        show f' (some (glyph b)) ⟨b :: utf8 us, p⟩ = _
        rw [hb, hu]
        rfl

/-- Setting the cursor, and then reading. -/
theorem get_set_bind {g : Cursor Char → Cursor Char} {g' : Cursor UInt8 → Cursor UInt8}
    {f : Cursor Char → Reader Char β} {f' : Cursor UInt8 → Reader UInt8 β}
    (hg : ∀ c, g' c.bytes = (g c).bytes) (hf : ∀ c, Mirrors (f c) (f' c.bytes)) :
  Mirrors (get >>= fun c => set (g c) >>= fun _ => f c)
    (get >>= fun c => set (g' c) >>= fun _ => f' c)
  := by
  intro c
  show f' c.bytes (g' c.bytes) = _
  rw [hg]
  exact hf c (g c)

/-- Looking at the next unit that is no white space, and then reading. -/
theorem next_bind {f : Option Char → Reader Char β} {f' : Option Char → Reader UInt8 β}
    (hblind : Blind f') (h : ∀ look, MirrorsAhead look (f look) (f' look)) :
  Mirrors (next >>= f) (next >>= f')
  := by
  intro c
  show (peek >>= f') (skipSpace (utf8 c.rest) c.place) = _
  rw [skipSpace_utf8]
  exact peek_bind hblind h (skipSpace c.rest c.place)

theorem digitRun :
  Mirrors Reader.digitRun Reader.digitRun
  := by
  apply get_set_bind
  · intro c
    exact congrArg Prod.snd (takeDigits_utf8 c.rest c.place)
  · intro c
    rw [Cursor.bytes, takeDigits_utf8]
    apply pure

/-- Reading the digits of an exponent, and going on with the exponent if it is not too great. -/
theorem exponentRun_bind {n : Nat} {f : Nat → Reader Char β} {f' : Nat → Reader UInt8 β}
    {r : Reader Char β} {r' : Reader UInt8 β} (hf : ∀ e, Mirrors (f e) (f' e))
    (hr : Mirrors r r') :
  Mirrors
    (do
      let c ← get
      set (exponentDigits c.rest c.place n).1
      match (exponentDigits c.rest c.place n).2 with
      | some e => f e
      | none => r)
    (do
      let c ← get
      set (exponentDigits c.rest c.place n).1
      match (exponentDigits c.rest c.place n).2 with
      | some e => f' e
      | none => r')
  := by
  apply get_set_bind
  · intro c
    exact congrArg Prod.fst (exponentDigits_utf8 c.rest c.place n)
  · intro c
    rw [Cursor.bytes, exponentDigits_utf8]
    cases (exponentDigits c.rest c.place n).2 with
    | none => exact hr
    | some e => exact hf e

end Mirrors

end Reader

end Assay.Json

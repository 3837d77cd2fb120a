import Assay.Proofs.Json.Encoding
import Assay.Proofs.Json.Progress

/-!
# Reading values from bytes

The readers of bytes mirror those of characters.  There is one lemma for each reader, up to values
(`Mirrors.value`).  A string is read in pieces of single bytes, which are put together when it is
decoded (`Mirrors.stringPieces`, `decode_bytePieces`).  The readers of strings and containers have
fuel for each unit; the bytes have more of it, but that decides nothing (`Mirrors.room_bind`).
-/

namespace Assay.Json.Reader

variable {β γ : Type}

/-! ## Hexadecimal escapes -/

/-- The number that the first units spell in hexadecimal digits behind `start`, and what is after
them. -/
def hexNumber? {α : Type} [Source α] : Nat → Nat → List α → Option (Nat × List α)
  | 0, start, us => some (start, us)
  | _ + 1, _, [] => none
  | n + 1, start, u :: us => do
    let x ← Decimal.hexValue? (glyph u)
    hexNumber? n (16 * start + x) us

/-- An escape is the number that four digits spell. -/
theorem hexEscape_eq {α : Type} [Source α] (us : List α) (p : Place) :
  hexEscape ⟨us, p⟩ =
    match hexNumber? 4 0 us with
    | some (n, rest) => .ok (n, ⟨rest, ⟨p.line, p.column + 4⟩⟩)
    | none => (hexEscape.failBytes ⟨us, p⟩ : Reader α Nat) ⟨us, p⟩
  := by
  rw [hexEscape, get_bind]
  rcases us with _ | ⟨a, _ | ⟨b, _ | ⟨d, _ | ⟨e, rest⟩⟩⟩⟩
  · rfl
  · simp [hexNumber?]
  · simp [hexNumber?]
  · simp [hexNumber?]
  · simp only [hexNumber?]
    cases Decimal.hexValue? (glyph a) with
    | none => rfl
    | some x =>
        cases Decimal.hexValue? (glyph b) with
        | none => rfl
        | some y =>
            cases Decimal.hexValue? (glyph d) with
            | none => rfl
            | some z =>
                cases Decimal.hexValue? (glyph e) with
                | none => rfl
                | some w =>
                    have hvalue : 4096 * x + 256 * y + 16 * z + w
                        = 16 * (16 * (16 * (16 * 0 + x) + y) + z) + w := by omega
                    exact congrArg (fun n => Except.ok (n, Cursor.mk rest _)) hvalue

/-- A hexadecimal digit is one byte, and no byte of a wide character is one. -/
theorem hexNumber?_utf8 (n start : Nat) (us : List Char) :
  hexNumber? n start (utf8 us) = (hexNumber? n start us).map (Prod.map id utf8)
  := by
  induction n generalizing start us with
  | zero => rfl
  | succ n ih =>
      cases us with
      | nil => rfl
      | cons u us =>
          by_cases hu : Wide u
          · obtain ⟨b, bs, hbytes, hb⟩ := utf8_cons_of_wide hu us
            rw [hbytes, hexNumber?, hexNumber?, glyph_char, hb.hexValue?, hu.hexValue?]
            rfl
          · obtain ⟨b, hbytes, hb⟩ := utf8_cons_of_not_wide hu us
            rw [hbytes, hexNumber?, hexNumber?, glyph_char, hb]
            cases Decimal.hexValue? u with
            | none => rfl
            | some x => apply ih

namespace Mirrors

/-- Four bytes on is the same place in both texts. -/
theorem failBytes (c : Cursor Char) :
  Mirrors (hexEscape.failBytes c : Reader Char β) (hexEscape.failBytes c.bytes)
  := by
  rw [hexEscape.failBytes, hexEscape.failBytes, Cursor.bytes, placeAfter_utf8, endPlace_utf8]
  intro c'
  cases placeAfter 4 c.rest c.place <;> rfl

/-- An escape of four digits is the same number in both texts. -/
theorem hexEscape :
  Mirrors Reader.hexEscape Reader.hexEscape
  := by
  rintro ⟨us, p⟩
  rw [MirrorsAt, MirrorsBy, hexEscape_eq, Cursor.bytes, hexEscape_eq, hexNumber?_utf8]
  cases hexNumber? 4 0 us with
  | none => exact failBytes ⟨us, p⟩ ⟨us, p⟩
  | some r => rfl

/-! ## Strings -/

/-- A mark that is one byte is looked for in both texts. -/
theorem surrogateMark {mark : Char} (hmark : ¬ Wide mark) :
  Mirrors (Reader.surrogateMark mark) (Reader.surrogateMark mark)
  := by
  rw [Reader.surrogateMark, Reader.surrogateMark]
  apply peek_bind
  · intro x y hx hy
    simp [hx.ne hmark, hy.ne hmark]
  · rintro (_ | c)
    · apply (fail _).ahead
    · dsimp only
      split_ifs with hc
      · subst hc
        apply MirrorsAhead.skip hmark
      · apply (failNext _).ahead

/-- The surrogates of a character are told apart by their numbers, which are the same. -/
theorem unicodeEscape :
  Mirrors Reader.unicodeEscape Reader.unicodeEscape
  := by
  rw [Reader.unicodeEscape, Reader.unicodeEscape]
  apply hexEscape.bind fun n => ?_
  split_ifs
  · apply fail
  · apply pure
  · apply (surrogateMark (by decide)).bind fun _ => ?_
    apply (surrogateMark (by decide)).bind fun _ => ?_
    apply hexEscape.bind fun m => ?_
    split_ifs
    · apply fail
    · apply pure

/-- What comes after a backslash is one byte in both texts, or a fault. -/
theorem escape :
  Mirrors Reader.escape Reader.escape
  := by
  rw [Reader.escape, Reader.escape]
  apply peek_bind
  · intro x y hx hy
    simp [hx.ne, hy.ne]
  · intro look
    split
    · apply (fail _).ahead
    · apply (MirrorsAhead.skip (by decide)).bind fun _ => pure _
    · apply (MirrorsAhead.skip (by decide)).bind fun _ => pure _
    · apply (MirrorsAhead.skip (by decide)).bind fun _ => pure _
    · apply (MirrorsAhead.skip (by decide)).bind fun _ => pure _
    · apply (MirrorsAhead.skip (by decide)).bind fun _ => pure _
    · apply (MirrorsAhead.skip (by decide)).bind fun _ => pure _
    · apply (MirrorsAhead.skip (by decide)).bind fun _ => pure _
    · apply (MirrorsAhead.skip (by decide)).bind fun _ => pure _
    · apply (MirrorsAhead.skip (by decide)).bind fun _ => unicodeEscape
    · apply (failNext _).ahead

end Mirrors

section

variable {α : Type} [Source α]

/-- The unit stands for itself in a string. -/
def Plain (u : α) : Prop := glyph u ≠ '"' ∧ glyph u ≠ '\\' ∧ ¬ (glyph u).toNat < 0x20

/-- A string ends, goes on with an escape, fails or goes on with a unit that stands for itself. -/
theorem stringPieces_cons (fuel : Nat) (pieces : List (α ⊕ Char)) (u : α) (us : List α)
    (p : Place) :
  stringPieces (fuel + 1) pieces ⟨u :: us, p⟩ =
    if glyph u = '"' then .ok (pieces.reverse, ⟨us, p.after (glyph u) (Source.width u)⟩)
    else if glyph u = '\\' then
      (escape >>= fun e => stringPieces fuel (.inr e :: pieces))
        ⟨us, p.after (glyph u) (Source.width u)⟩
    else if (glyph u).toNat < 0x20 then failNext .controlCharacter ⟨u :: us, p⟩
    else stringPieces fuel (.inl u :: pieces) ⟨us, p.after (glyph u) (Source.width u)⟩
  := by
  rw [stringPieces, get_bind]
  dsimp only
  split_ifs <;> rfl

/-- A unit that stands for itself is taken. -/
theorem stringPieces_of_plain {u : α} (h : Plain u) (fuel : Nat) (pieces : List (α ⊕ Char))
    (us : List α) (p : Place) :
  stringPieces (fuel + 1) pieces ⟨u :: us, p⟩
    = stringPieces fuel (.inl u :: pieces) ⟨us, p.after (glyph u) (Source.width u)⟩
  := by
  rw [stringPieces_cons, if_neg h.1, if_neg h.2.1, if_neg h.2.2]

/-- Units that stand for themselves are taken one by one. -/
theorem stringPieces_append_of_plain {vs : List α} (h : ∀ u ∈ vs, Plain u) (fuel : Nat)
    (pieces : List (α ⊕ Char)) (us : List α) (p : Place) :
  stringPieces (fuel + vs.length) pieces ⟨vs ++ us, p⟩
    = stringPieces fuel ((vs.map Sum.inl).reverse ++ pieces) ⟨us, endPlace vs p⟩
  := by
  induction vs generalizing pieces p with
  | nil => rfl
  | cons u vs ih =>
      obtain ⟨hu, hvs⟩ := List.forall_mem_cons.mp h
      rw [List.length_cons, ← Nat.add_assoc, List.cons_append, stringPieces_of_plain hu, ih hvs,
        List.map_cons, List.reverse_cons, List.append_assoc, List.singleton_append]
      rfl

end

/-- The pieces of bytes that pieces of characters are. -/
def bytePieces (pieces : List (Char ⊕ Char)) : List (UInt8 ⊕ Char) :=
  pieces.flatMap (Sum.elim (fun u => (String.utf8EncodeChar u).map Sum.inl) fun c => [.inr c])

theorem bytePieces_append (pieces more : List (Char ⊕ Char)) :
  bytePieces (pieces ++ more) = bytePieces pieces ++ bytePieces more
  := List.flatMap_append

/-- One more piece in front of those that were read, which are kept in reverse. -/
theorem reverse_bytePieces_cons (piece : Char ⊕ Char) (pieces : List (Char ⊕ Char)) :
  (bytePieces (piece :: pieces).reverse).reverse
    = (bytePieces [piece]).reverse ++ (bytePieces pieces.reverse).reverse
  := by
  rw [List.reverse_cons, bytePieces_append, List.reverse_append]

/-- The bytes of the pieces are those of the characters that the pieces stand for. -/
theorem flatMap_bytePieces (pieces : List (Char ⊕ Char)) :
  (bytePieces pieces).flatMap pieceBytes = utf8 (pieces.map (Sum.elim id id))
  := by
  induction pieces with
  | nil => rfl
  | cons piece pieces ih =>
      rw [List.map_cons, utf8_cons, ← ih, ← List.singleton_append, bytePieces_append,
        List.flatMap_append]
      cases piece with
      | inl u => simp [bytePieces, List.flatMap_map, pieceBytes]
      | inr c => simp [bytePieces, pieceBytes]

/-- Pieces of characters and of bytes are decoded alike. -/
theorem decode_bytePieces (pieces : List (Char ⊕ Char)) :
  Source.decode (bytePieces pieces) = Source.decode pieces
  := by
  show (ByteArray.mk ((bytePieces pieces).flatMap pieceBytes).toArray).utf8Decode?.map Array.toList
    = some (pieces.map (Sum.elim id id))
  rw [flatMap_bytePieces, utf8_toArray, List.utf8Decode?_utf8Encode, Option.map_some,
    List.toList_toArray]

/-- A wide character stands for itself in a string. -/
theorem plain_of_wide {α : Type} [Source α] {u : α} (h : Wide (glyph u)) :
  Plain u
  := ⟨h.ne (by decide), h.ne (by decide), Nat.not_lt_of_le (Nat.le_trans (by decide) h)⟩

/-- All bytes of a character that stands for itself stand for themselves. -/
theorem plain_of_mem_utf8EncodeChar {u : Char} (h : Plain u) :
  ∀ b ∈ String.utf8EncodeChar u, Plain b
  := by
  by_cases hu : Wide u
  · intro b hb
    apply plain_of_wide (wide_of_mem_utf8EncodeChar hu b hb)
  · obtain ⟨b, hbytes, hb⟩ := utf8EncodeChar_of_not_wide hu
    rw [hbytes, List.forall_mem_singleton, Plain, hb]
    exact h

/-- The bytes of a character that stands for itself are taken together. -/
theorem stringPieces_utf8_of_plain {u : Char} (h : Plain u) (fuel : Nat)
    (pieces : List (Char ⊕ Char)) (us : List Char) (p : Place) :
  stringPieces (fuel + (String.utf8EncodeChar u).length) (bytePieces pieces.reverse).reverse
      ⟨utf8 (u :: us), p⟩
    = stringPieces fuel (bytePieces (.inl u :: pieces).reverse).reverse
        ⟨utf8 us, p.after u (Source.width u)⟩
  := by
  have hpieces : (bytePieces [.inl u]).reverse
      = ((String.utf8EncodeChar u).map Sum.inl).reverse := by simp [bytePieces]
  rw [utf8_cons, stringPieces_append_of_plain (plain_of_mem_utf8EncodeChar h), ← hpieces,
    ← reverse_bytePieces_cons, endPlace_utf8EncodeChar]

namespace Mirrors

/-- The pieces that are read of bytes are those that are read of characters.  The fuel is used up
by single bytes, and by single characters. -/
theorem stringPieces {n n' : Nat} {c : Cursor Char} (hn : c.rest.length < n)
    (hn' : c.bytes.rest.length < n') (pieces : List (Char ⊕ Char)) :
  MirrorsBy bytePieces c (Reader.stringPieces n pieces)
    (Reader.stringPieces n' (bytePieces pieces.reverse).reverse)
  := by
  induction n generalizing n' c pieces with
  | zero => cases hn
  | succ n ih =>
      obtain ⟨us, p⟩ := c
      obtain ⟨n', rfl⟩ : ∃ m, n' = m + 1 := Nat.exists_eq_add_one.mpr (by omega)
      cases us with
      | nil => rfl
      | cons u us =>
          have hus : us.length < n := Nat.lt_of_succ_lt_succ hn
          by_cases hplain : Plain u
          · have hlength : (String.utf8EncodeChar u).length + (utf8 us).length < n' + 1 := by
              rw [← List.length_append, ← utf8_cons]
              exact hn'
            obtain ⟨m, hm⟩ : ∃ m, n' + 1 = m + (String.utf8EncodeChar u).length :=
              Nat.exists_eq_add_of_le' (by omega)
            have hread := @ih m ⟨us, p.after u (Source.width u)⟩ hus
              (show (utf8 us).length < m by omega) (.inl u :: pieces)
            rw [MirrorsBy] at hread ⊢
            rw [stringPieces_of_plain hplain, hm]
            exact (stringPieces_utf8_of_plain hplain m pieces us p).trans hread
          -- What does not stand for itself is in ASCII.
          · have hu : ¬ Wide u := fun hu => hplain (plain_of_wide hu)
            obtain ⟨b, hcursor, hb⟩ := Cursor.bytes_of_not_wide hu us p
            rw [hcursor] at hn'
            have hescape : MirrorsBy bytePieces ⟨us, p.after u (Source.width u)⟩
                (Reader.escape >>= fun e => Reader.stringPieces n (.inr e :: pieces))
                (Reader.escape >>= fun e =>
                  Reader.stringPieces n' (.inr e :: (bytePieces pieces.reverse).reverse)) := by
              apply MirrorsBy.bind (escape _)
              intro e c hread hread'
              have hc := Shrinks.compositional.escape _ _ _ hread
              have hc' := Shrinks.compositional.escape _ _ _ hread'
              have hpieces : Sum.inr e :: (bytePieces pieces.reverse).reverse
                  = (bytePieces (.inr e :: pieces).reverse).reverse :=
                (reverse_bytePieces_cons (.inr e) pieces).symm
              rw [id, hpieces]
              apply ih (Nat.lt_of_le_of_lt hc hus)
                (Nat.lt_of_le_of_lt hc' (Nat.lt_of_succ_lt_succ hn'))
            have hfail := MirrorsBy.failNext (g := bytePieces) .controlCharacter ⟨u :: us, p⟩
            rw [MirrorsBy, hcursor] at hfail ⊢
            rw [stringPieces_cons, stringPieces_cons, glyph_char, after_of_not_wide hu hb, hb]
            split_ifs with hquote hbackslash hcontrol
            · rw [List.reverse_reverse]
              rfl
            · exact hescape
            · exact hfail
            · apply absurd ⟨hquote, hbackslash, hcontrol⟩ hplain

/-- The bytes of a string decode to its characters, with the escapes in between. -/
theorem stringBody :
  Mirrors Reader.stringBody Reader.stringBody
  := by
  intro c
  have hpieces : MirrorsBy bytePieces c (Reader.stringPieces (c.rest.length + 1) [])
      (Reader.stringPieces (c.bytes.rest.length + 1) []) :=
    stringPieces (Nat.lt_succ_self _) (Nat.lt_succ_self _) []
  rw [Reader.stringBody, Reader.stringBody]
  apply MirrorsAt.get_bind
  apply MirrorsBy.bind hpieces
  intro pieces c _ _
  rw [decode_bytePieces]
  cases Source.decode pieces with
  | none => apply fail
  | some cs => apply pure

/-! ## Words and numbers -/

/-- A word of characters of one byte is the same in both texts. -/
theorem word {ws : List Char} (hws : ∀ w ∈ ws, ¬ Wide w) :
  Mirrors (Reader.word ws) (Reader.word ws)
  := by
  induction ws with
  | nil => apply pure
  | cons w ws ih =>
      obtain ⟨hw, hrest⟩ := List.forall_mem_cons.mp hws
      rw [Reader.word, Reader.word]
      apply peek_bind
      · intro x y hx hy
        simp [hx.ne hw, hy.ne hw]
      · rintro (_ | c)
        · apply (fail _).ahead
        · dsimp only
          split_ifs with hc
          · subst hc
            apply (MirrorsAhead.skip hw).bind fun _ => ih hrest
          · apply (failNext _).ahead

theorem scaled (negative : Bool) (significand : Nat) (exponent : Int) :
  Mirrors (Reader.scaled negative significand exponent)
    (Reader.scaled negative significand exponent)
  := by
  rw [Reader.scaled, Reader.scaled]
  cases scale 5 (.ofNat significand) exponent with
  | none => apply fail
  | some x => apply pure

/-- A number is written in characters of one byte up to its exponent. -/
theorem exponentPart {e : Char} (he : ¬ Wide e) (negative : Bool) (significand : Nat)
    (start : Int) :
  MirrorsAhead (some e) (Reader.exponentPart negative significand start)
    (Reader.exponentPart negative significand start)
  := by
  rw [Reader.exponentPart, Reader.exponentPart]
  apply (MirrorsAhead.skip he).bind fun _ => ?_
  extract_lets digits digits'
  have hdigits : ∀ down, Mirrors (digits down) (digits' down) := by
    intro down
    apply peek_bind
    · intro x y hx hy
      simp [hx.not_digit, hy.not_digit]
    · rintro (_ | c)
      · apply (fail _).ahead
      · dsimp only
        split
        next hc =>
          apply (MirrorsAhead.skip fun hwide => hwide.not_digit hc).bind fun _ => ?_
          apply exponentRun_bind fun e => scaled _ _ _
          split_ifs
          · apply fail
          · apply digitRun.bind fun _ => pure _
        next => apply (failNext _).ahead
  apply peek_bind
  · intro x y hx hy
    simp [hx.ne, hy.ne]
  · intro look
    split
    · apply (MirrorsAhead.skip (by decide)).bind fun _ => (pure _).bind hdigits
    · apply (MirrorsAhead.skip (by decide)).bind fun _ => (pure _).bind hdigits
    · apply ((pure _).bind hdigits).ahead

theorem fractionPart (negative : Bool) (significand : Nat) (start : Int) :
  MirrorsAhead (some '.') (Reader.fractionPart negative significand start)
    (Reader.fractionPart negative significand start)
  := by
  rw [Reader.fractionPart, Reader.fractionPart]
  apply (MirrorsAhead.skip (by decide)).bind fun _ => ?_
  apply digitRun.bind fun ds => ?_
  split_ifs
  · apply peek_bind
    · intro x y hx hy
      rfl
    · rintro (_ | c)
      · apply (fail _).ahead
      · apply (failNext _).ahead
  · apply peek_bind
    · intro x y hx hy
      simp [hx.ne, hy.ne]
    · intro look
      split
      · apply exponentPart (by decide)
      · apply exponentPart (by decide)
      · apply (scaled _ _ _).ahead

/-- A number is the same in both texts, and ends at the same place. -/
theorem numberBody (negative : Bool) :
  Mirrors (Reader.numberBody negative) (Reader.numberBody negative)
  := by
  rw [Reader.numberBody, Reader.numberBody]
  apply peek_bind
  · intro x y hx hy
    simp [hx.not_digit, hy.not_digit]
  · rintro (_ | c)
    · apply (fail _).ahead
    · dsimp only
      split_ifs with hdigit hzero
      · subst hzero
        apply (MirrorsAhead.skip (by decide)).bind fun _ => ?_
        apply peek_bind
        · intro x y hx hy
          simp [hx.ne, hy.ne, hx.not_digit, hy.not_digit]
        · intro look
          split
          · apply fractionPart
          · apply exponentPart (by decide)
          · apply exponentPart (by decide)
          · split_ifs
            · apply (failNext _).ahead
            · apply (pure _).ahead
          · apply (pure _).ahead
      · apply Mirrors.ahead
        apply digitRun.bind fun ds => ?_
        apply peek_bind
        · intro x y hx hy
          simp [hx.ne, hy.ne]
        · intro look
          split
          · apply fractionPart
          · apply exponentPart (by decide)
          · apply exponentPart (by decide)
          · split_ifs
            · apply (pure _).ahead
            · apply (scaled _ _ _).ahead
      · apply (failNext _).ahead

/-! ## Containers -/

/-- A comma and a bracket are one byte. -/
theorem toElement (first : Bool) :
  Mirrors (Reader.toElement first) (Reader.toElement first)
  := by
  rw [Reader.toElement, Reader.toElement]
  apply next_bind
  · intro x y hx hy
    simp [hx.ne, hy.ne]
  · intro look
    split
    · apply (fail _).ahead
    · apply (pure _).ahead
    · split_ifs with hfirst hcomma
      · apply (pure _).ahead
      · subst hcomma
        apply (MirrorsAhead.skip (by decide)).bind fun _ => ?_
        apply next_bind
        · intro x y hx hy
          simp [hx.ne, hy.ne]
        · intro look
          split
          · apply (fail _).ahead
          · apply (failNext _).ahead
          · apply (pure _).ahead
      · apply (failNext _).ahead

theorem closeArray :
  Mirrors Reader.closeArray Reader.closeArray
  := by
  rw [Reader.closeArray, Reader.closeArray]
  apply next_bind
  · intro x y hx hy
    simp [hx.ne, hy.ne]
  · intro look
    split
    · apply (fail _).ahead
    · apply MirrorsAhead.skip (by decide)
    · apply (MirrorsAhead.skip (by decide)).bind fun _ => ?_
      apply next_bind
      · intro x y hx hy
        simp [hx.ne, hy.ne]
      · intro look
        split
        · apply (failNext _).ahead
        · apply (failNext _).ahead
    · apply (failNext _).ahead

/-- A comma, a brace and a quote are one byte. -/
theorem toMember (first : Bool) :
  Mirrors (Reader.toMember first) (Reader.toMember first)
  := by
  have hkey (look : Option Char) :
      Mirrors (Reader.toMember.atKey look) (Reader.toMember.atKey look) := by
    rw [Reader.toMember.atKey.eq_def, Reader.toMember.atKey.eq_def]
    split
    · apply fail
    · apply pure
    · apply failNext
    · apply failNext
  have hblind : Blind Reader.toMember.atKey := by
    intro x y hx hy
    simp [Reader.toMember.atKey, hx.ne, hy.ne]
  rw [Reader.toMember, Reader.toMember]
  apply next_bind
  · intro x y hx hy
    simp [hx.ne, hy.ne, hblind x y hx hy]
  · intro look
    split
    · apply (fail _).ahead
    · apply (pure _).ahead
    · split_ifs with hfirst hcomma
      · apply (hkey _).ahead
      · subst hcomma
        apply (MirrorsAhead.skip (by decide)).bind fun _ => ?_
        apply next_bind hblind fun look => (hkey look).ahead
      · apply (failNext _).ahead

theorem closeObject :
  Mirrors Reader.closeObject Reader.closeObject
  := by
  rw [Reader.closeObject, Reader.closeObject]
  apply next_bind
  · intro x y hx hy
    simp [hx.ne, hy.ne]
  · intro look
    split
    · apply (fail _).ahead
    · apply MirrorsAhead.skip (by decide)
    · apply (failNext _).ahead
    · apply (failNext _).ahead

theorem memberName (first : Bool) :
  Mirrors (Reader.memberName first) (Reader.memberName first)
  := by
  apply within
  intro c
  apply MirrorsBy.bind (toMember first c)
  rintro (_ | _) c₁ hmore -
  · apply pure
  · obtain ⟨c₀, -, hnext⟩ := exists_next_of_toMember hmore
    have hhead : c₁.rest.head? = some '"' := by
      rw [← head?_of_next hnext]
      exact Option.map_id'.symm
    have hname : MirrorsAhead (some '"')
        (Reader.skip >>= fun _ => Reader.stringBody >>= fun name => Pure.pure (some name))
        (Reader.skip >>= fun _ => Reader.stringBody >>= fun name => Pure.pure (some name)) :=
      (MirrorsAhead.skip (by decide)).bind fun _ => stringBody.bind fun _ => pure _
    exact hname c₁ hhead

theorem colon :
  Mirrors Reader.colon Reader.colon
  := by
  rw [Reader.colon, Reader.colon]
  apply next_bind
  · intro x y hx hy
    simp [hx.ne, hy.ne]
  · intro look
    split
    · apply (fail _).ahead
    · apply MirrorsAhead.skip (by decide)
    · apply (failNext _).ahead

/-- There is more room in bytes, but the room of the characters is enough. -/
theorem room_bind {r : Nat → Reader Char β} {r' : Nat → Reader UInt8 β} {f : β → Reader Char γ}
    {f' : β → Reader UInt8 γ} (hr : ∀ fuel, Mirrors (r fuel) (r' fuel))
    (henough : ∀ {c fuel fuel'}, c.rest.length < fuel → c.rest.length < fuel' →
      r fuel c = r fuel' c)
    (hf : ∀ x, Mirrors (f x) (f' x)) :
  Mirrors (room >>= fun fuel => r fuel >>= f) (room >>= fun fuel => r' fuel >>= f')
  := by
  have hroom : Mirrors (room >>= r) (room >>= r') := by
    intro c
    have hle := length_le_length_utf8 c.rest
    have hfuel : r (c.rest.length + 1) c = r ((utf8 c.rest).length + 1) c :=
      henough (Nat.lt_succ_self _) (Nat.lt_succ_of_le hle)
    rw [MirrorsAt, MirrorsBy, bind_eq_ok (room_eq c), bind_eq_ok (room_eq c.bytes), hfuel]
    exact hr _ c
  exact hroom.bind hf

section

variable {item : Reader Char β} {item' : Reader UInt8 β} (hitem : Mirrors item item')

include hitem

/-- Elements are read alike if each element is; this is by induction on the fuel. -/
theorem elements (fuel index : Nat) (items : List β) :
  Mirrors (Reader.elements item fuel index items) (Reader.elements item' fuel index items)
  := by
  induction fuel generalizing index items with
  | zero => apply fail
  | succ fuel ih =>
      rw [Reader.elements, Reader.elements]
      apply (toElement _).bind
      rintro (_ | _)
      · apply pure
      · apply (hitem.within _).bind fun _ => ih _ _

/-- Members are read alike if each value is; this is by induction on the fuel. -/
theorem members (fuel : Nat) (first : Bool) (items : List (String × β)) :
  Mirrors (Reader.members item fuel first items) (Reader.members item' fuel first items)
  := by
  induction fuel generalizing first items with
  | zero => apply fail
  | succ fuel ih =>
      rw [Reader.members, Reader.members]
      apply (memberName _).bind
      rintro (_ | name)
      · apply pure
      · apply colon.bind fun _ => ?_
        apply (hitem.within _).bind fun _ => ih _ _

/-- There is more room for elements among the bytes, but no more elements. -/
theorem arrayBody (hshrinks : Shrinks item) :
  Mirrors (Reader.arrayBody item) (Reader.arrayBody item')
  := by
  rw [Reader.arrayBody, Reader.arrayBody]
  apply room_bind (fun fuel => elements hitem fuel 0 [])
  · intro c fuel fuel' hfuel hfuel'
    apply elements_eq_of_lt hshrinks hfuel hfuel'
  · intro xs
    apply closeArray.bind fun _ => pure _

/-- There is more room for members among the bytes, but no more members. -/
theorem objectBody (hshrinks : Shrinks item) :
  Mirrors (Reader.objectBody item) (Reader.objectBody item')
  := by
  rw [Reader.objectBody, Reader.objectBody]
  apply room_bind (fun fuel => members hitem fuel true [])
  · intro c fuel fuel' hfuel hfuel'
    apply members_eq_of_lt hshrinks hfuel hfuel'
  · intro xs
    apply closeObject.bind fun _ => pure _

end

end Mirrors

/-! ## Values -/

/-- No value starts outside ASCII. -/
theorem scalar_of_wide {c : Char} (h : Wide c) :
  (scalar c : Reader UInt8 Json) = failNext .expectedValue
  := by
  simp [scalar, h.ne, h.not_digit]

namespace Mirrors

/-- A scalar is told by its first character, which is one byte or starts none. -/
theorem scalar (c : Char) :
  MirrorsAhead (some c) (Reader.scalar c) (Reader.scalar c)
  := by
  rw [Reader.scalar, Reader.scalar]
  split_ifs with hn ht hf hminus hdigit hquote
  · subst hn
    apply (MirrorsAhead.skip (by decide)).bind fun _ => (word (by simp)).bind fun _ => pure _
  · subst ht
    apply (MirrorsAhead.skip (by decide)).bind fun _ => (word (by simp)).bind fun _ => pure _
  · subst hf
    apply (MirrorsAhead.skip (by decide)).bind fun _ => (word (by simp)).bind fun _ => pure _
  · subst hminus
    apply (MirrorsAhead.skip (by decide)).bind fun _ => (numberBody _).bind fun _ => pure _
  · apply ((numberBody _).bind fun _ => pure _).ahead
  · subst hquote
    apply (MirrorsAhead.skip (by decide)).bind fun _ => stringBody.bind fun _ => pure _
  · apply (failNext _).ahead

/-- Values are read of bytes as they are read of characters. -/
theorem value (depth : Nat) :
  Mirrors (Reader.value depth) (Reader.value depth)
  := by
  induction depth with
  | zero =>
      rw [Reader.value.eq_def, Reader.value.eq_def]
      apply next_bind
      · intro x y hx hy
        simp [hx.ne, hy.ne, scalar_of_wide hx, scalar_of_wide hy]
      · intro look
        split
        · apply (fail _).ahead
        · apply (failNext _).ahead
        · apply (failNext _).ahead
        · apply scalar
  | succ depth ih =>
      rw [Reader.value.eq_def, Reader.value.eq_def]
      apply next_bind
      · intro x y hx hy
        simp [hx.ne, hy.ne, scalar_of_wide hx, scalar_of_wide hy]
      · intro look
        split
        · apply (fail _).ahead
        · apply (MirrorsAhead.skip (by decide)).bind fun _ =>
            (arrayBody ih (Shrinks.value depth)).bind fun _ => pure _
        · apply (MirrorsAhead.skip (by decide)).bind fun _ =>
            (objectBody ih (Shrinks.value depth)).bind fun _ => pure _
        · apply scalar

end Mirrors

end Assay.Json.Reader

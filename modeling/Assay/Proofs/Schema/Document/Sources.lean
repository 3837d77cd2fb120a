import Assay.Proofs.Json.Mirroring
import Assay.Proofs.Schema.Document.Root

/-!
# Documents from bytes

A schema document is read from its bytes as from its characters, and with the same fault if it
cannot be read (`read_utf8`).
-/

namespace Assay

namespace Json.Reader

variable {β : Type}

/-! ## Faults -/

namespace Mirrors

/-- A value of the wrong type is read for the sake of the fault, if it is a scalar. -/
theorem failType (c : Char) (expected : String) :
  MirrorsAhead (some c) (Reader.failType c expected : Reader Char β)
    (Reader.failType c expected)
  := by
  rw [Reader.failType, Reader.failType]
  split_ifs
  · apply (fail _).ahead
  · apply (fail _).ahead
  · apply (scalar c).bind fun v => ?_
    split
    · apply fail
    · apply fail
    · apply fail
    · apply fail

/-- After a fault in an array the reader looks for the bracket that closes it. -/
theorem failInArray (cause : Cause) :
  Mirrors (Reader.failInArray cause : Reader Char β) (Reader.failInArray cause)
  := by
  rw [Reader.failInArray, Reader.failInArray]
  apply next_bind
  · intro x y hx hy
    simp [hx.ne, hy.ne]
  · intro look
    split
    · apply (MirrorsAhead.skip (by decide)).bind fun _ => fail _
    · apply (MirrorsAhead.skip (by decide)).bind fun _ => ?_
      apply next_bind
      · intro x y hx hy
        rfl
      · intro look
        apply (fail _).ahead
    · apply (fail _).ahead

/-- After a fault in an object the reader looks for the brace that closes it. -/
theorem failInObject (cause : Cause) :
  Mirrors (Reader.failInObject cause : Reader Char β) (Reader.failInObject cause)
  := by
  rw [Reader.failInObject, Reader.failInObject]
  apply next_bind
  · intro x y hx hy
    simp [hx.ne, hy.ne]
  · intro look
    split
    · apply (MirrorsAhead.skip (by decide)).bind fun _ => fail _
    · apply (fail _).ahead

/-- Readers that are told the first character may do the same for all characters of several bytes.
-/
theorem starting {r : Char → Reader Char β} {r' : Char → Reader UInt8 β}
    (hblind : ∀ x y, Wide x → Wide y → r' x = r' y)
    (h : ∀ c, MirrorsAhead (some c) (r c) (r' c)) :
  Mirrors (Reader.starting r) (Reader.starting r')
  := by
  apply next_bind fun x y hx hy => hblind x y hx hy
  rintro (_ | c)
  · apply (fail _).ahead
  · apply h

end Mirrors

/-- What does not start a value is not looked at further. -/
theorem failType_blind {x y : Char} (hx : Wide x) (hy : Wide y) (expected : String) :
  (failType x expected : Reader UInt8 β) = failType y expected
  := by
  simp [failType, hx.ne, hy.ne, scalar_of_wide hx, scalar_of_wide hy]

end Json.Reader

namespace Schema.Document

open Json (Cursor Fault Source utf8)
open Json.Reader

/-! ## The root -/

/-- The tag of the root is a string, and anything else is a fault at its first character. -/
theorem mirrors_rootTag :
  Mirrors rootTag rootTag
  := by
  rw [rootTag, rootTag]
  apply Mirrors.starting
  · intro x y hx hy
    simp [hx.ne, hy.ne, failType_blind hx hy]
  · intro c
    split_ifs with hquote
    · subst hquote
      apply (MirrorsAhead.skip (by decide)).bind fun _ => ?_
      apply Mirrors.stringBody.bind fun name => ?_
      split
      · apply Mirrors.pure
      · apply Mirrors.fail
    · apply Mirrors.failType

/-- The members of the root are read one by one, the tag among them; this is by induction on the
fuel. -/
theorem mirrors_rootMembers (depth fuel : Nat) (first : Bool) (tag : Option Nat)
    (members : List (String × Json)) :
  Mirrors (rootMembers depth fuel first tag members) (rootMembers depth fuel first tag members)
  := by
  induction fuel generalizing first tag members with
  | zero => apply Mirrors.fail
  | succ fuel ih =>
      rw [rootMembers.eq_def, rootMembers.eq_def]
      apply (Mirrors.memberName first).bind
      rintro (_ | name)
      · cases tag with
        | none => apply Mirrors.failInObject
        | some t => apply Mirrors.closeObject.bind fun _ => Mirrors.pure _
      · dsimp only
        split
        · cases tag with
          | none =>
              apply Mirrors.colon.bind fun _ => ?_
              apply (mirrors_rootTag.within _).bind fun t => ih _ _ _
          | some t => apply Mirrors.failInObject
        · apply Mirrors.colon.bind fun _ => ?_
          apply ((Mirrors.value depth).within _).bind fun v => ih _ _ _

/-- A tag takes something of the text. -/
theorem shrinks_rootTag {α : Type} [Source α] :
  Shrinks (rootTag : Json.Reader α Nat)
  := by
  intro c t c' h
  obtain ⟨v, hv, -⟩ := (@rootTag_eq_ok_iff _ _ 0 t c c').mp h
  apply Shrinks.value 0 c v c' hv

/-- More fuel than there are units is enough for the members of the root. -/
theorem rootMembers_eq_of_lt {α : Type} [Source α] {depth fuel fuel' : Nat} {c : Cursor α}
    (hfuel : c.rest.length < fuel) (hfuel' : c.rest.length < fuel') (first : Bool)
    (tag : Option Nat) (members : List (String × Json)) :
  rootMembers depth fuel first tag members c = rootMembers depth fuel' first tag members c
  := by
  induction fuel generalizing fuel' first tag members c with
  | zero => cases hfuel
  | succ n ih =>
      obtain ⟨n', rfl⟩ : ∃ n', fuel' = n' + 1 := Nat.exists_eq_add_one.mpr (by omega)
      rw [rootMembers.eq_def, rootMembers.eq_def]
      apply bind_congr_of_reached
      rintro (_ | name) c₁ hname
      · rfl
      · have hc₁ := length_lt_of_memberName hname
        dsimp only
        split
        · cases tag with
          | none =>
              apply bind_congr_of_reached
              intro _ c₂ hcolon
              have hc₂ := Shrinks.compositional.colon _ _ _ hcolon
              apply bind_congr_of_reached
              intro t c₃ ht
              have hc₃ := shrinks_rootTag _ _ _ (within_eq_ok_iff.mp ht)
              apply ih (by omega) (by omega)
          | some t => rfl
        · apply bind_congr_of_reached
          intro _ c₂ hcolon
          have hc₂ := Shrinks.compositional.colon _ _ _ hcolon
          apply bind_congr_of_reached
          intro v c₃ hv
          have hc₃ := Shrinks.value depth _ _ _ (within_eq_ok_iff.mp hv)
          apply ih (by omega) (by omega)

/-- The tag is the first element of the root, and the others are its fields. -/
theorem mirrors_rootElements (depth : Nat) :
  Mirrors (rootElements depth) (rootElements depth)
  := by
  rw [rootElements, rootElements]
  apply (Mirrors.toElement true).bind
  rintro (_ | _)
  · apply Mirrors.failInArray
  · apply (mirrors_rootTag.within _).bind fun tag => ?_
    apply Mirrors.room_bind fun fuel => Mirrors.elements (Mirrors.value depth) fuel 1 []
    · intro c fuel fuel' hfuel hfuel'
      apply elements_eq_of_lt (Shrinks.value depth) hfuel hfuel'
    · intro fields
      apply Mirrors.closeArray.bind fun _ => Mirrors.pure _

/-- The root is an object or an array, and what it is shows in its first character. -/
theorem mirrors_root :
  Mirrors root root
  := by
  rw [root, root]
  apply Mirrors.starting
  · intro x y hx hy
    simp [hx.ne, hy.ne, failType_blind hx hy]
  · intro c
    split_ifs with hbrace hbracket
    · subst hbrace
      apply (MirrorsAhead.skip (by decide)).bind fun _ => ?_
      apply Mirrors.room_bind fun fuel => mirrors_rootMembers _ fuel true none []
      · intro c fuel fuel' hfuel hfuel'
        apply rootMembers_eq_of_lt hfuel hfuel'
      · intro r
        apply Mirrors.pure
    · subst hbracket
      apply (MirrorsAhead.skip (by decide)).bind fun _ => ?_
      apply (mirrors_rootElements _).bind fun _ => Mirrors.pure _
    · apply Mirrors.failType

/-- A document is read of its bytes as of its characters. -/
theorem read_utf8 (us : List Char) :
  read (utf8 us) = read us
  := by
  have hroot : root.onText (utf8 us) = root.onText us := by
    have hmirrors := mirrors_root (.start us)
    rw [MirrorsAt] at hmirrors
    show (root (Cursor.bytes (.start us))).map Prod.fst = (root (.start us)).map Prod.fst
    rw [hmirrors]
    cases root (.start us) <;> rfl
  rw [read, read, hroot]

end Schema.Document

end Assay

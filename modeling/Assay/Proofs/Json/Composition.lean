import Assay.Proofs.Json.Reading

/-!
# Readers put together

The reader of JSON texts is put together from a few readers that look at the text
themselves.  A property of readers that these have, and that is kept when readers are put
together, is called compositional.  All readers of the parts of a text have it, up to those
whose fuel depends on the text.  Once the readers of strings and containers have it, the
reader of values does (`Compositional.value`).
-/

namespace Assay.Json.Reader

variable {α β γ : Type} [Source α]

/-- Tells the next unit. -/
def look : Reader α (Option α) :=
  fun c => .ok (c.rest.head?, c)

/-- Reads the digits of an exponent after the first. -/
def exponentRun (n : Nat) : Reader α (Option Nat) :=
  fun c => .ok (exponentDigits c.rest c.place n).swap

/-- The property holds of the readers that look at the text, and of what is put together from
readers that have it. -/
structure Compositional (P : ∀ {β : Type}, Reader α β → Prop) : Prop where
  pure {β : Type} (x : β) : P (Pure.pure x)
  bind {β γ : Type} {r : Reader α β} {f : β → Reader α γ} : P r → (∀ x, P (f x)) → P (r >>= f)
  within {β : Type} {r : Reader α β} : P r → ∀ step, P (Reader.within step r)
  fail {β : Type} (cause : Cause) : P (Reader.fail cause : Reader α β)
  failNext {β : Type} (cause : Cause) : P (Reader.failNext cause : Reader α β)
  look : P Reader.look
  skip : P Reader.skip
  next : P Reader.next
  digitRun : P Reader.digitRun
  exponentRun (n : Nat) : P (Reader.exponentRun n)
  hexEscape : P Reader.hexEscape

namespace Compositional

variable {P : ∀ {β : Type}, Reader α β → Prop} (hP : Compositional @P)

include hP

/-- Seeing the next character is looking at the next unit. -/
theorem peek :
  P Reader.peek
  := by
  show P (Reader.look >>= fun u => Pure.pure (u.map glyph))
  apply hP.bind hP.look fun _ => hP.pure _

/-! ## Words and numbers -/

/-- A word is read character by character. -/
theorem word (ws : List Char) :
  P (Reader.word ws : Reader α Unit)
  := by
  induction ws with
  | nil => apply hP.pure
  | cons w ws ih =>
      rw [Reader.word]
      apply hP.bind hP.peek
      rintro (_ | c)
      · apply hP.fail
      · dsimp only
        split_ifs
        · apply hP.bind hP.skip fun _ => ih
        · apply hP.failNext

/-- Scaling a number looks at nothing; the number may only be out of range. -/
theorem scaled (negative : Bool) (significand : Nat) (exponent : Int) :
  P (Reader.scaled negative significand exponent : Reader α Number)
  := by
  rw [Reader.scaled]
  split
  · apply hP.fail
  · apply hP.pure

/-- Reading the digits of an exponent, and going on with the exponent if it is not too great. -/
theorem exponentRun_bind {n : Nat} {f : Nat → Reader α β} {r : Reader α β} (hf : ∀ e, P (f e))
    (hr : P r) :
  P (do
    let c ← get
    set (exponentDigits c.rest c.place n).1
    match (exponentDigits c.rest c.place n).2 with
    | some e => f e
    | none => r)
  := by
  have hgoes : ∀ e : Option Nat, P (e.elim r f) := by
    rintro (_ | e)
    · exact hr
    · exact hf e
  convert hP.bind (hP.exponentRun n) hgoes using 1
  funext c
  show _ = (exponentDigits c.rest c.place n).2.elim r f (exponentDigits c.rest c.place n).1
  rw [get_bind]
  generalize (exponentDigits c.rest c.place n).2 = e
  cases e <;> rfl

/-- The first digit of an exponent is looked at, the others are taken in one run. -/
theorem exponentPart (negative : Bool) (significand : Nat) (start : Int) :
  P (Reader.exponentPart negative significand start : Reader α Number)
  := by
  rw [Reader.exponentPart]
  apply hP.bind hP.skip fun _ => ?_
  apply hP.bind hP.peek fun _ => ?_
  extract_lets digits
  have hdigits : ∀ down, P (digits down) := by
    intro down
    apply hP.bind hP.peek
    rintro (_ | c)
    · apply hP.fail
    · dsimp only
      split
      · apply hP.bind hP.skip fun _ => ?_
        apply hP.exponentRun_bind fun e => hP.scaled _ _ _
        split_ifs
        · apply hP.fail
        · apply hP.bind hP.digitRun fun _ => hP.pure _
      · apply hP.failNext
  split
  · apply hP.bind hP.skip fun _ => hP.bind (hP.pure _) hdigits
  · apply hP.bind hP.skip fun _ => hP.bind (hP.pure _) hdigits
  · apply hP.bind (hP.pure _) hdigits

/-- After the digits of a fraction there may be an exponent. -/
theorem fractionPart (negative : Bool) (significand : Nat) (start : Int) :
  P (Reader.fractionPart negative significand start : Reader α Number)
  := by
  rw [Reader.fractionPart]
  apply hP.bind hP.skip fun _ => ?_
  apply hP.bind hP.digitRun fun ds => ?_
  split_ifs
  · apply hP.bind hP.peek
    rintro (_ | c)
    · apply hP.fail
    · apply hP.failNext
  · apply hP.bind hP.peek fun _ => ?_
    split
    · apply hP.exponentPart
    · apply hP.exponentPart
    · apply hP.scaled

/-- A number is put together from its digits, its fraction and its exponent. -/
theorem numberBody (negative : Bool) :
  P (Reader.numberBody negative : Reader α Number)
  := by
  rw [Reader.numberBody]
  apply hP.bind hP.peek
  rintro (_ | c)
  · apply hP.fail
  · dsimp only
    split_ifs
    · apply hP.bind hP.skip fun _ => ?_
      apply hP.bind hP.peek fun _ => ?_
      split
      · apply hP.fractionPart
      · apply hP.exponentPart
      · apply hP.exponentPart
      · split_ifs
        · apply hP.failNext
        · apply hP.pure
      · apply hP.pure
    · apply hP.bind hP.digitRun fun ds => ?_
      apply hP.bind hP.peek fun _ => ?_
      split
      · apply hP.fractionPart
      · apply hP.exponentPart
      · apply hP.exponentPart
      · split_ifs
        · apply hP.pure
        · apply hP.scaled
    · apply hP.failNext

/-! ## Strings -/

/-- Either mark of a second surrogate is one character. -/
theorem surrogateMark (mark : Char) :
  P (Reader.surrogateMark mark : Reader α Unit)
  := by
  rw [Reader.surrogateMark]
  apply hP.bind hP.peek
  rintro (_ | c)
  · apply hP.fail
  · dsimp only
    split_ifs
    · apply hP.skip
    · apply hP.failNext

/-- A surrogate needs a second escape after the first, and other numbers do not. -/
theorem unicodeEscape :
  P (Reader.unicodeEscape : Reader α Char)
  := by
  rw [Reader.unicodeEscape]
  apply hP.bind hP.hexEscape fun n => ?_
  split_ifs
  · apply hP.fail
  · apply hP.pure
  · apply hP.bind (hP.surrogateMark _) fun _ => ?_
    apply hP.bind (hP.surrogateMark _) fun _ => ?_
    apply hP.bind hP.hexEscape fun m => ?_
    split_ifs
    · apply hP.fail
    · apply hP.pure

/-- What comes after a backslash is a single character, or a number in hexadecimal digits. -/
theorem escape :
  P (Reader.escape : Reader α Char)
  := by
  rw [Reader.escape]
  apply hP.bind hP.peek fun _ => ?_
  split
  · apply hP.fail
  · apply hP.bind hP.skip fun _ => hP.pure _
  · apply hP.bind hP.skip fun _ => hP.pure _
  · apply hP.bind hP.skip fun _ => hP.pure _
  · apply hP.bind hP.skip fun _ => hP.pure _
  · apply hP.bind hP.skip fun _ => hP.pure _
  · apply hP.bind hP.skip fun _ => hP.pure _
  · apply hP.bind hP.skip fun _ => hP.pure _
  · apply hP.bind hP.skip fun _ => hP.pure _
  · apply hP.bind hP.skip fun _ => hP.unicodeEscape
  · apply hP.failNext

omit hP in
/-- Pieces are read by looking at one unit. -/
theorem stringPieces_eq (fuel : Nat) (pieces : List (α ⊕ Char)) :
  stringPieces (fuel + 1) pieces = (do
    match ← Reader.look with
    | none => Reader.fail .endInString
    | some u =>
      if glyph u = '"' then do
        Reader.skip
        return pieces.reverse
      else if glyph u = '\\' then do
        Reader.skip
        let e ← Reader.escape
        stringPieces fuel (.inr e :: pieces)
      else if (glyph u).toNat < 0x20 then Reader.failNext .controlCharacter
      else do
        Reader.skip
        stringPieces fuel (.inl u :: pieces))
  := by
  funext ⟨us, place⟩
  cases us <;> rfl

/-- Pieces of strings are read one by one; this is by induction on the fuel. -/
theorem stringPieces (fuel : Nat) (pieces : List (α ⊕ Char)) :
  P (Reader.stringPieces fuel pieces)
  := by
  induction fuel generalizing pieces with
  | zero => apply hP.fail
  | succ fuel ih =>
      rw [stringPieces_eq]
      apply hP.bind hP.look
      rintro (_ | u)
      · apply hP.fail
      · dsimp only
        split_ifs
        · apply hP.bind hP.skip fun _ => hP.pure _
        · apply hP.bind hP.skip fun _ => ?_
          apply hP.bind hP.escape fun _ => ih _
        · apply hP.failNext
        · apply hP.bind hP.skip fun _ => ih _

/-! ## Containers -/

/-- What comes before an element is a comma, unless the element is the first. -/
theorem toElement (first : Bool) :
  P (Reader.toElement first : Reader α Bool)
  := by
  rw [Reader.toElement]
  apply hP.bind hP.next fun _ => ?_
  split
  · apply hP.fail
  · apply hP.pure
  · split_ifs
    · apply hP.pure
    · apply hP.bind hP.skip fun _ => ?_
      apply hP.bind hP.next fun _ => ?_
      split
      · apply hP.fail
      · apply hP.failNext
      · apply hP.pure
    · apply hP.failNext

/-- What closes an array is looked for behind white space. -/
theorem closeArray :
  P (Reader.closeArray : Reader α Unit)
  := by
  rw [Reader.closeArray]
  apply hP.bind hP.next fun _ => ?_
  split
  · apply hP.fail
  · apply hP.skip
  · apply hP.bind hP.skip fun _ => ?_
    apply hP.bind hP.next fun _ => ?_
    split
    · apply hP.failNext
    · apply hP.failNext
  · apply hP.failNext

/-- What comes before a member is a comma, unless the member is the first; then there is a quote. -/
theorem toMember (first : Bool) :
  P (Reader.toMember first : Reader α Bool)
  := by
  have hkey : ∀ look, P (toMember.atKey look : Reader α Bool) := by
    intro look
    rw [toMember.atKey.eq_def]
    split
    · apply hP.fail
    · apply hP.pure
    · apply hP.failNext
    · apply hP.failNext
  rw [Reader.toMember]
  apply hP.bind hP.next fun _ => ?_
  split
  · apply hP.fail
  · apply hP.pure
  · split_ifs
    · apply hkey
    · apply hP.bind hP.skip fun _ => hP.bind hP.next hkey
    · apply hP.failNext

theorem closeObject :
  P (Reader.closeObject : Reader α Unit)
  := by
  rw [Reader.closeObject]
  apply hP.bind hP.next fun _ => ?_
  split
  · apply hP.fail
  · apply hP.skip
  · apply hP.failNext
  · apply hP.failNext

theorem colon :
  P (Reader.colon : Reader α Unit)
  := by
  rw [Reader.colon]
  apply hP.bind hP.next fun _ => ?_
  split
  · apply hP.fail
  · apply hP.skip
  · apply hP.failNext

/-- Elements are read one by one, each after the comma before it. -/
theorem elements {item : Reader α β} (hitem : P item) (fuel index : Nat) (items : List β) :
  P (Reader.elements item fuel index items)
  := by
  induction fuel generalizing index items with
  | zero => apply hP.fail
  | succ fuel ih =>
      rw [Reader.elements]
      apply hP.bind (hP.toElement _)
      rintro (_ | _)
      · apply hP.pure
      · apply hP.bind (hP.within hitem _) fun _ => ih _ _

section

variable (hstring : P (Reader.stringBody : Reader α String))

include hstring

/-- The name of a member is a string. -/
theorem memberName (first : Bool) :
  P (Reader.memberName first : Reader α (Option String))
  := by
  apply hP.within
  apply hP.bind (hP.toMember first)
  rintro (_ | _)
  · apply hP.pure
  · apply hP.bind hP.skip fun _ => hP.bind hstring fun _ => hP.pure _

/-- Members are read one by one: a name, a colon and a value. -/
theorem members {item : Reader α β} (hitem : P item) (fuel : Nat) (first : Bool)
    (items : List (String × β)) :
  P (Reader.members item fuel first items)
  := by
  induction fuel generalizing first items with
  | zero => apply hP.fail
  | succ fuel ih =>
      rw [Reader.members]
      apply hP.bind (hP.memberName hstring _)
      rintro (_ | name)
      · apply hP.pure
      · apply hP.bind hP.colon fun _ => ?_
        apply hP.bind (hP.within hitem _) fun _ => ih _ _

/-! ## Values -/

/-- A value that is no container is told by its first character. -/
theorem scalar (c : Char) :
  P (Reader.scalar c : Reader α Json)
  := by
  rw [Reader.scalar]
  split_ifs
  · apply hP.bind hP.skip fun _ => hP.bind (hP.word _) fun _ => hP.pure _
  · apply hP.bind hP.skip fun _ => hP.bind (hP.word _) fun _ => hP.pure _
  · apply hP.bind hP.skip fun _ => hP.bind (hP.word _) fun _ => hP.pure _
  · apply hP.bind hP.skip fun _ => hP.bind (hP.numberBody _) fun _ => hP.pure _
  · apply hP.bind (hP.numberBody _) fun _ => hP.pure _
  · apply hP.bind hP.skip fun _ => hP.bind hstring fun _ => hP.pure _
  · apply hP.failNext

/-- Values have the property if strings do, and containers of values that do. -/
theorem value
    (harray : ∀ depth, P (Reader.value depth) → P (arrayBody (Reader.value depth)))
    (hobject : ∀ depth, P (Reader.value depth) → P (objectBody (Reader.value depth)))
    (depth : Nat) :
  P (Reader.value depth : Reader α Json)
  := by
  induction depth with
  | zero =>
      rw [Reader.value.eq_def]
      apply hP.bind hP.next fun _ => ?_
      split
      · apply hP.fail
      · apply hP.failNext
      · apply hP.failNext
      · apply hP.scalar hstring
  | succ depth ih =>
      rw [Reader.value.eq_def]
      apply hP.bind hP.next fun _ => ?_
      split
      · apply hP.fail
      · apply hP.bind hP.skip fun _ => hP.bind (harray depth ih) fun _ => hP.pure _
      · apply hP.bind hP.skip fun _ => hP.bind (hobject depth ih) fun _ => hP.pure _
      · apply hP.scalar hstring

end

end Compositional

end Assay.Json.Reader

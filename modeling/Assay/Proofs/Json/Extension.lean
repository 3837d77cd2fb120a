import Assay.Proofs.Json.Containers

/-!
# Reading longer texts

What a reader takes of a text it also takes when more follows, as long as that does not go
on with a number.  `Steady more r` says so of a reader: on the longer text it gives the same
result, and leaves `more` behind what it left.  There is one lemma for each reader, up to
values (`Steady.value`).  Hence the text of a document is taken as its value wherever it
stands (`takes_of_document`).
-/

namespace Assay.Json.Reader

variable {β γ : Type} {more : List Char}

/-- What the first reader takes of the units `us`, the second takes when `more` follows
them. -/
def ExtendsAt (more us : List Char) (r r' : Reader Char β) : Prop :=
  ∀ p x left p', r ⟨us, p⟩ = .ok (x, ⟨left, p'⟩) → ∀ q, ∃ used, us = used ++ left ∧
    r' ⟨us ++ more, q⟩ = .ok (x, ⟨left ++ more, endPlace used q⟩)

/-- What the first reader takes of any units, the second takes when `more` follows them. -/
def Extends (more : List Char) (r r' : Reader Char β) : Prop :=
  ∀ us, ExtendsAt more us r r'

/-- What a reader takes of any units, it takes when `more` follows them. -/
def Steady (more : List Char) (r : Reader Char β) : Prop :=
  Extends more r r

/-- What a reader takes of units, if there are any, it takes when `more` follows them. -/
def SteadyNext (more : List Char) (r : Reader Char β) : Prop :=
  ∀ u us, ExtendsAt more (u :: us) r r

/-! ## Steps -/

/-- A reader that takes nothing of the units has nothing to take of more of them. -/
theorem ExtendsAt.of_ne_ok {us : List Char} {r r' : Reader Char β}
    (h : ∀ p y, r ⟨us, p⟩ ≠ .ok y) :
  ExtendsAt more us r r'
  := by
  intro p x left p' hr
  cases h p _ hr

/-- The second step has to be followed only where the first one leads. -/
theorem ExtendsAt.bind_of_reached {us : List Char} {r r' : Reader Char β}
    {f f' : β → Reader Char γ} (hr : ExtendsAt more us r r')
    (hf : ∀ p x us' p', r ⟨us, p⟩ = .ok (x, ⟨us', p'⟩) → ExtendsAt more us' (f x) (f' x)) :
  ExtendsAt more us (r >>= f) (r' >>= f')
  := by
  intro p y left p' h q
  obtain ⟨x, ⟨us₁, p₁⟩, hx, hy⟩ := exists_of_bind h
  have hstep := hf p x us₁ p₁ hx
  obtain ⟨used₁, rfl, hx⟩ := hr p x us₁ p₁ hx q
  obtain ⟨used₂, rfl, hy⟩ := hstep p₁ y left p' hy (endPlace used₁ q)
  use used₁ ++ used₂, (List.append_assoc _ _ _).symm
  rw [bind_eq_ok hx, hy, endPlace_append]

/-- Steps that are followed are followed one after the other. -/
theorem ExtendsAt.bind {us : List Char} {r r' : Reader Char β} {f f' : β → Reader Char γ}
    (hr : ExtendsAt more us r r') (hf : ∀ x, Extends more (f x) (f' x)) :
  ExtendsAt more us (r >>= f) (r' >>= f')
  := hr.bind_of_reached fun _ x us' _ _ => hf x us'

theorem Extends.bind {r r' : Reader Char β} {f f' : β → Reader Char γ}
    (hr : Extends more r r') (hf : ∀ x, Extends more (f x) (f' x)) :
  Extends more (r >>= f) (r' >>= f')
  := by
  intro us
  apply (hr us).bind hf

/-- Telling the rest of the text, and then reading. -/
theorem Extends.get_bind {f f' : Cursor Char → Reader Char β}
    (hf : ∀ us p q, ExtendsAt more us (f ⟨us, p⟩) (f' ⟨us ++ more, q⟩)) :
  Extends more (get >>= f) (get >>= f')
  := by
  intro us p x left p' h q
  exact hf us p q p x left p' h q

/-- The longer text has more room. -/
theorem Extends.room_bind {f f' : Nat → Reader Char β}
    (hf : ∀ n n', n ≤ n' → Extends more (f n) (f' n')) :
  Extends more (room >>= f) (room >>= f')
  := by
  intro us p x left p' h q
  have hle : us.length + 1 ≤ (us ++ more).length + 1 := by
    rw [List.length_append]
    omega
  rw [bind_eq_ok (room_eq _)] at h
  rw [bind_eq_ok (room_eq _)]
  exact hf _ _ hle us p x left p' h q

theorem SteadyNext.bind {r : Reader Char β} {f : β → Reader Char γ} (hr : SteadyNext more r)
    (hf : ∀ x, Steady more (f x)) :
  SteadyNext more (r >>= f)
  := by
  intro u us
  apply (hr u us).bind hf

theorem SteadyNext.skip :
  SteadyNext more Reader.skip
  := by
  rintro u us p ⟨⟩ left p' h q
  cases h
  use [u]
  exact ⟨rfl, rfl⟩

namespace Steady

/-- What is taken of any units is taken of some. -/
theorem steadyNext {r : Reader Char β} (h : Steady more r) :
  SteadyNext more r
  := by
  intro u us
  apply h

theorem bind {r : Reader Char β} {f : β → Reader Char γ} (hr : Steady more r)
    (hf : ∀ x, Steady more (f x)) :
  Steady more (r >>= f)
  := Extends.bind hr hf

theorem pure (x : β) :
  Steady more (Pure.pure x : Reader Char β)
  := by
  intro us p y left p' h q
  cases h
  use []
  exact ⟨rfl, rfl⟩

theorem fail (cause : Cause) :
  Steady more (Reader.fail cause : Reader Char β)
  := by
  intro us
  apply ExtendsAt.of_ne_ok fun _ _ => fail_ne_ok _ _ _

theorem failNext (cause : Cause) :
  Steady more (Reader.failNext cause : Reader Char β)
  := by
  intro us
  apply ExtendsAt.of_ne_ok fun _ _ => failNext_ne_ok _ _ _

theorem within {r : Reader Char β} (hr : Steady more r) (step : Step) :
  Steady more (Reader.within step r)
  := by
  intro us p x left p' h q
  obtain ⟨used, hused, h⟩ := hr us p x left p' (within_eq_ok_iff.mp h) q
  use used, hused, within_eq_ok_iff.mpr h

/-- At the end of the shorter text, the first unit of the other is looked at. -/
theorem peek_bind_end {f : Option Char → Reader Char β} (hsome : ∀ u, SteadyNext more (f (some u)))
    (hnone : ExtendsAt more [] (f none) (f (more.head?.map glyph))) :
  Steady more (peek >>= f)
  := by
  intro us
  cases us with
  | nil => exact hnone
  | cons u us => exact hsome u u us

/-- What fails at the end of a text finds its unit in both texts. -/
theorem peek_bind {f : Option Char → Reader Char β} (hsome : ∀ u, SteadyNext more (f (some u)))
    (hnone : ∀ c y, f none c ≠ .ok y) :
  Steady more (peek >>= f)
  := peek_bind_end hsome (.of_ne_ok fun _ _ => hnone _ _)

/-- Setting the cursor to a later one, and then reading. -/
theorem get_set_bind {g : Cursor Char → Cursor Char} {f : Cursor Char → Reader Char β}
    (hg : ∀ us p q, ∃ used, us = used ++ (g ⟨us, p⟩).rest ∧
      g ⟨us ++ more, q⟩ = ⟨(g ⟨us, p⟩).rest ++ more, endPlace used q⟩)
    (hf : ∀ us p q, Extends more (f ⟨us, p⟩) (f ⟨us ++ more, q⟩)) :
  Steady more (get >>= fun c => set (g c) >>= fun _ => f c)
  := by
  intro us p x left p' h q
  obtain ⟨used₁, hus, hcursor⟩ := hg us p q
  have h : f ⟨us, p⟩ ⟨(g ⟨us, p⟩).rest, (g ⟨us, p⟩).place⟩ = .ok (x, ⟨left, p'⟩) := h
  obtain ⟨used₂, hleft, h⟩ := hf us p q _ _ x left p' h (endPlace used₁ q)
  use used₁ ++ used₂
  constructor
  · rw [List.append_assoc, ← hleft]
    exact hus
  · show f ⟨us ++ more, q⟩ (g ⟨us ++ more, q⟩) = _
    rw [hcursor, h, endPlace_append]

/-- White space is stepped over in both texts. -/
theorem next_bind {f : Option Char → Reader Char β} (hsome : ∀ u, SteadyNext more (f (some u)))
    (hnone : ∀ c y, f none c ≠ .ok y) :
  Steady more (Reader.next >>= f)
  := by
  intro us p x left p' h q
  obtain hus | ⟨ss, u, vs, rfl, hss, hu⟩ := spaces_or_exists us
  · have hend := next_append hus [] p
    rw [List.append_nil] at hend
    rw [bind_eq_bind hend] at h
    cases hnone _ _ h
  · rw [bind_eq_ok (next_append_cons hss hu vs p)] at h
    obtain ⟨used, hused, h⟩ := hsome u u vs _ x left p' h (endPlace ss q)
    use ss ++ used
    constructor
    · rw [List.append_assoc, hused]
    · rw [List.append_assoc, List.cons_append, endPlace_append,
        bind_eq_ok (next_append_cons hss hu (vs ++ more) q)]
      exact h

/-! ## Words and numbers -/

theorem word (ws : List Char) :
  Steady more (Reader.word ws : Reader Char Unit)
  := by
  induction ws with
  | nil => apply pure
  | cons w ws ih =>
      rw [Reader.word]
      apply peek_bind
      · intro u
        dsimp only
        split_ifs
        · apply SteadyNext.skip.bind fun _ => ih
        · apply (failNext _).steadyNext
      · apply fail_ne_ok

section Number

variable (hmore : Delimited more)

include hmore

/-- The same digits are taken when something follows that is no digit. -/
theorem takeDigits_append_more (us : List Char) (p q : Place) :
  us = (takeDigits us p).1 ++ (takeDigits us p).2.rest ∧
    takeDigits (us ++ more) q = ((takeDigits us p).1,
      ⟨(takeDigits us p).2.rest ++ more, endPlace (takeDigits us p).1 q⟩)
  := by
  induction us generalizing p q with
  | nil => exact ⟨rfl, takeDigits_append (List.forall_mem_nil _) hmore q⟩
  | cons u us ih =>
      rw [List.cons_append, takeDigits, takeDigits]
      split_ifs
      · obtain ⟨hus, hdigits⟩ := ih (p.after (glyph u) (Source.width u))
          (q.after (glyph u) (Source.width u))
        rw [hdigits]
        exact ⟨congrArg (u :: ·) hus, rfl⟩
      · exact ⟨rfl, rfl⟩

/-- A run of digits ends where it did, since what follows does not start with a digit. -/
theorem digitRun :
  Steady more (Reader.digitRun : Reader Char (List Char))
  := by
  apply get_set_bind
  · intro us p q
    obtain ⟨hus, hdigits⟩ := takeDigits_append_more hmore us p q
    use (takeDigits us p).1, hus, congrArg Prod.snd hdigits
  · intro us p q
    obtain ⟨-, hdigits⟩ := takeDigits_append_more hmore us p q
    rw [hdigits]
    apply pure

/-- What does not go on with a number is for a number like the end of the text. -/
theorem peek_bind_delimited {f : Option Char → Reader Char β}
    (hsome : ∀ u, SteadyNext more (f (some u))) (hnone : Steady more (f none))
    (hsame : ∀ u, u.isDigit = false ∧ u ≠ '.' ∧ u ≠ 'e' ∧ u ≠ 'E' → f (some u) = f none) :
  Steady more (peek >>= f)
  := by
  apply peek_bind_end hsome
  have hlook : f (more.head?.map glyph) = f none := by
    rw [Delimited] at hmore
    cases hlook : more.head?.map glyph with
    | none => rfl
    | some u => apply hsame u (hmore u hlook)
  rw [hlook]
  apply hnone

omit hmore in
theorem scaled (negative : Bool) (significand : Nat) (exponent : Int) :
  Steady more (Reader.scaled negative significand exponent : Reader Char Number)
  := by
  rw [Reader.scaled]
  split
  · apply fail
  · apply pure

/-- The same digits of an exponent are taken when something follows that is no digit. -/
theorem exponentDigits_append_more (us : List Char) (p q : Place) (n : Nat) :
  ∃ used, us = used ++ (exponentDigits us p n).1.rest ∧
    exponentDigits (us ++ more) q n
      = (⟨(exponentDigits us p n).1.rest ++ more, endPlace used q⟩, (exponentDigits us p n).2)
  := by
  induction us generalizing p q n with
  | nil =>
      use [], rfl
      cases more with
      | nil => rfl
      | cons u more =>
          have hu : ¬ (glyph u).isDigit = true := by
            rw [(hmore (glyph u) rfl).1]
            decide
          show exponentDigits (u :: more) q n = (⟨u :: more, q⟩, some n)
          rw [exponentDigits, if_neg hu]
  | cons u us ih =>
      rw [List.cons_append, exponentDigits, exponentDigits]
      split_ifs
      · dsimp only
        split_ifs
        · obtain ⟨used, hus, hdigits⟩ := ih (p.after (glyph u) (Source.width u))
            (q.after (glyph u) (Source.width u)) (10 * n + Decimal.digitValue (glyph u))
          use u :: used, congrArg (u :: ·) hus, hdigits
        · use [u], rfl
          rfl
      · use [], rfl
        rfl

/-- The exponent of a number is the same when something follows that does not go on with a number.
-/
theorem exponentPart (negative : Bool) (significand : Nat) (start : Int) :
  SteadyNext more (Reader.exponentPart negative significand start : Reader Char Number)
  := by
  rw [Reader.exponentPart]
  apply SteadyNext.skip.bind fun _ => ?_
  apply peek_bind_end
  · intro u
    extract_lets digits
    have hdigits : ∀ down, Steady more (digits down) := by
      intro down
      apply peek_bind
      · intro c
        dsimp only
        split
        · apply SteadyNext.skip.bind fun _ => ?_
          apply get_set_bind
          · intro us p q
            obtain ⟨used, hus, hrun⟩ := exponentDigits_append_more hmore us p q _
            use used, hus, congrArg Prod.fst hrun
          · intro us p q
            obtain ⟨used, -, hrun⟩ := exponentDigits_append_more hmore us p q _
            rw [hrun]
            generalize (exponentDigits us p _).2 = exponent
            show Steady more _
            split
            · apply scaled
            · split
              · apply fail
              · apply (digitRun hmore).bind fun _ => pure _
        · apply (failNext _).steadyNext
      · apply fail_ne_ok
    split
    · apply SteadyNext.skip.bind fun _ => (pure _).bind hdigits
    · apply SteadyNext.skip.bind fun _ => (pure _).bind hdigits
    · apply ((pure _).bind hdigits).steadyNext
  -- Without a sign and digits there is no exponent, whatever would follow.
  · apply ExtendsAt.of_ne_ok
    intro p y h
    cases h

/-- So is its fraction. -/
theorem fractionPart (negative : Bool) (significand : Nat) (start : Int) :
  SteadyNext more (Reader.fractionPart negative significand start : Reader Char Number)
  := by
  rw [Reader.fractionPart]
  apply SteadyNext.skip.bind fun _ => ?_
  apply (digitRun hmore).bind fun ds => ?_
  split_ifs
  · apply peek_bind
    · intro u
      apply (failNext _).steadyNext
    · apply fail_ne_ok
  · apply peek_bind_delimited hmore
    · intro u
      split
      · apply exponentPart hmore
      · apply exponentPart hmore
      · apply (scaled _ _ _).steadyNext
    · apply scaled
    · intro u hu
      split <;> simp_all

/-- A number is the same when something follows that does not go on with a number. -/
theorem numberBody (negative : Bool) :
  Steady more (Reader.numberBody negative : Reader Char Number)
  := by
  rw [Reader.numberBody]
  apply peek_bind
  · intro c
    dsimp only
    split_ifs
    · apply SteadyNext.skip.bind fun _ => ?_
      apply peek_bind_delimited hmore
      · intro u
        split
        · apply fractionPart hmore
        · apply exponentPart hmore
        · apply exponentPart hmore
        · split_ifs
          · apply (failNext _).steadyNext
          · apply (pure _).steadyNext
        · apply (pure _).steadyNext
      · apply pure
      · intro u hu
        split <;> simp_all
    · apply Steady.steadyNext
      apply (digitRun hmore).bind fun ds => ?_
      apply peek_bind_delimited hmore
      · intro u
        split
        · apply fractionPart hmore
        · apply exponentPart hmore
        · apply exponentPart hmore
        · split_ifs
          · apply (pure _).steadyNext
          · apply (scaled _ _ _).steadyNext
      · dsimp only
        split_ifs
        · apply pure
        · apply scaled
      · intro u hu
        split <;> simp_all
    · apply (failNext _).steadyNext
  · apply fail_ne_ok

end Number

/-! ## Strings -/

/-- Four digits are taken wherever they stand. -/
theorem hexEscape :
  Steady more (Reader.hexEscape : Reader Char Nat)
  := by
  intro us p n left p' h q
  rw [Reader.hexEscape, get_bind] at h
  rcases us with _ | ⟨a, _ | ⟨b, _ | ⟨d, _ | ⟨e, rest⟩⟩⟩⟩
  · cases failBytes_ne_ok _ _ _ h
  · cases failBytes_ne_ok _ _ _ h
  · cases failBytes_ne_ok _ _ _ h
  · cases failBytes_ne_ok _ _ _ h
  · dsimp only at h
    generalize ha : Decimal.hexValue? (glyph a) = w, hb : Decimal.hexValue? (glyph b) = x,
      hd : Decimal.hexValue? (glyph d) = y, he : Decimal.hexValue? (glyph e) = z at h
    split at h
    · cases h
      use [a, b, d, e], rfl
      rw [Reader.hexEscape, get_bind]
      simp only [List.cons_append, ha, hb, hd, he]
      have hplace : endPlace [a, b, d, e] q = ⟨q.line, q.column + 4⟩ := by
        simp only [endPlace, List.foldl_cons, List.foldl_nil, @after_of_hexValue? a _ ha,
          @after_of_hexValue? b _ hb, @after_of_hexValue? d _ hd, @after_of_hexValue? e _ he]
      rw [hplace]
      rfl
    · cases failBytes_ne_ok _ _ _ h

theorem surrogateMark (mark : Char) :
  Steady more (Reader.surrogateMark mark : Reader Char Unit)
  := by
  rw [Reader.surrogateMark]
  apply peek_bind
  · intro c
    dsimp only
    split_ifs
    · apply SteadyNext.skip
    · apply (failNext _).steadyNext
  · apply fail_ne_ok

theorem unicodeEscape :
  Steady more (Reader.unicodeEscape : Reader Char Char)
  := by
  rw [Reader.unicodeEscape]
  apply hexEscape.bind fun n => ?_
  split_ifs
  · apply fail
  · apply pure
  · apply (surrogateMark _).bind fun _ => ?_
    apply (surrogateMark _).bind fun _ => ?_
    apply hexEscape.bind fun m => ?_
    split_ifs
    · apply fail
    · apply pure

theorem escape :
  Steady more (Reader.escape : Reader Char Char)
  := by
  rw [Reader.escape]
  apply peek_bind
  · intro c
    split
    · apply (fail _).steadyNext
    · apply SteadyNext.skip.bind fun _ => pure _
    · apply SteadyNext.skip.bind fun _ => pure _
    · apply SteadyNext.skip.bind fun _ => pure _
    · apply SteadyNext.skip.bind fun _ => pure _
    · apply SteadyNext.skip.bind fun _ => pure _
    · apply SteadyNext.skip.bind fun _ => pure _
    · apply SteadyNext.skip.bind fun _ => pure _
    · apply SteadyNext.skip.bind fun _ => pure _
    · apply SteadyNext.skip.bind fun _ => unicodeEscape
    · apply (failNext _).steadyNext
  · apply fail_ne_ok

/-- A longer text has more fuel. -/
theorem stringPieces {fuel fuel' : Nat} (hfuel : fuel ≤ fuel') (pieces : List (Char ⊕ Char)) :
  Extends more (Reader.stringPieces fuel pieces) (Reader.stringPieces fuel' pieces)
  := by
  -- The fuel is the length of the text, so the longer text has more of it.
  induction fuel generalizing fuel' pieces with
  | zero =>
      intro us
      apply ExtendsAt.of_ne_ok fun _ _ => fail_ne_ok _ _ _
  | succ fuel ih =>
      obtain ⟨fuel', rfl⟩ : ∃ n, fuel' = n + 1 := Nat.exists_eq_add_one.mpr (by omega)
      have ih := ih (Nat.le_of_succ_le_succ hfuel)
      rw [Reader.stringPieces, Reader.stringPieces]
      apply Extends.get_bind
      intro us p q
      cases us with
      | nil => apply ExtendsAt.of_ne_ok fun _ _ => fail_ne_ok _ _ _
      | cons u us =>
          dsimp only [List.cons_append]
          split_ifs
          · apply (SteadyNext.skip u us).bind fun _ => pure _
          · apply (SteadyNext.skip u us).bind fun _ => Extends.bind escape fun _ => ih _
          · apply failNext
          · apply (SteadyNext.skip u us).bind fun _ => ih _

/-- A string ends in its closing quote, wherever it stands. -/
theorem stringBody :
  Steady more (Reader.stringBody : Reader Char String)
  := by
  rw [Reader.stringBody]
  apply Extends.get_bind
  intro us p q
  have hfuel : us.length + 1 ≤ (us ++ more).length + 1 := by
    rw [List.length_append]
    omega
  apply (stringPieces hfuel [] us).bind fun pieces => ?_
  split
  · apply pure
  · apply fail

/-! ## Containers -/

/-- A comma or a bracket in front of an element is seen before what follows. -/
theorem toElement (first : Bool) :
  Steady more (Reader.toElement first : Reader Char Bool)
  := by
  rw [Reader.toElement]
  apply next_bind
  · intro c
    split
    · apply (fail _).steadyNext
    · apply (pure _).steadyNext
    · split_ifs
      · apply (pure _).steadyNext
      · apply SteadyNext.skip.bind fun _ => ?_
        apply next_bind
        · intro c
          split
          · apply (fail _).steadyNext
          · apply (failNext _).steadyNext
          · apply (pure _).steadyNext
        · apply fail_ne_ok
      · apply (failNext _).steadyNext
  · apply fail_ne_ok

theorem closeArray :
  Steady more (Reader.closeArray : Reader Char Unit)
  := by
  rw [Reader.closeArray]
  apply next_bind
  · intro c
    split
    · apply (fail _).steadyNext
    · apply SteadyNext.skip
    · apply SteadyNext.skip.bind fun _ => ?_
      apply next_bind
      · intro c
        split
        · apply (failNext _).steadyNext
        · apply (failNext _).steadyNext
      · apply failNext_ne_ok
    · apply (failNext _).steadyNext
  · apply fail_ne_ok

/-- A comma or a brace in front of a member is seen before what follows. -/
theorem toMember (first : Bool) :
  Steady more (Reader.toMember first : Reader Char Bool)
  := by
  have hkey : ∀ look, Steady more (toMember.atKey look : Reader Char Bool) := by
    intro look
    rw [toMember.atKey.eq_def]
    split
    · apply fail
    · apply pure
    · apply failNext
    · apply failNext
  rw [Reader.toMember]
  apply next_bind
  · intro c
    split
    · apply (fail _).steadyNext
    · apply (pure _).steadyNext
    · split_ifs
      · apply (hkey _).steadyNext
      · apply SteadyNext.skip.bind fun _ => ?_
        apply next_bind
        · intro c
          apply (hkey _).steadyNext
        · apply fail_ne_ok
      · apply (failNext _).steadyNext
  · apply fail_ne_ok

theorem closeObject :
  Steady more (Reader.closeObject : Reader Char Unit)
  := by
  rw [Reader.closeObject]
  apply next_bind
  · intro c
    split
    · apply (fail _).steadyNext
    · apply SteadyNext.skip
    · apply (failNext _).steadyNext
    · apply (failNext _).steadyNext
  · apply fail_ne_ok

/-- If there is a member, its name starts with the next unit. -/
theorem exists_cons_of_toMember {first : Bool} {us us' : List Char} {p p' : Place}
    (h : Reader.toMember first ⟨us, p⟩ = .ok (true, ⟨us', p'⟩)) :
  ∃ u vs, us' = u :: vs
  := by
  have hkey : ∀ {c c₁ : Cursor Char} {look : Option Char}, Reader.next c = .ok (look, c₁) →
      toMember.atKey look c₁ = .ok (true, ⟨us', p'⟩) → ∃ u vs, us' = u :: vs := by
    rintro c ⟨us₁, p₁⟩ look hnext h
    obtain ⟨hlook, hc₁⟩ := Prod.mk.inj (Except.ok.inj hnext)
    rw [hc₁] at hlook
    cases us₁ with
    | nil =>
        subst hlook
        cases h
    | cons u vs =>
        rw [toMember.atKey.eq_def] at h
        split at h
        · cases h
        · cases h
          use u, vs
        · cases h
        · cases h
  rw [Reader.toMember] at h
  obtain ⟨look, c₁, hnext, h⟩ := exists_of_bind h
  split at h
  · cases h
  · cases h
  · split_ifs at h
    · apply hkey hnext h
    · obtain ⟨⟨⟩, c₂, -, h⟩ := exists_of_bind h
      obtain ⟨look, c₃, hnext, h⟩ := exists_of_bind h
      apply hkey hnext h
    · cases failNext_ne_ok _ _ _ h

theorem memberName (first : Bool) :
  Steady more (Reader.memberName first : Reader Char (Option String))
  := by
  apply within
  intro us
  -- The mark of the name is stepped over unseen, but only where there is one.
  apply (toMember first us).bind_of_reached
  rintro p (_ | _) us' p' hmember
  · apply pure
  · obtain ⟨u, vs, rfl⟩ := exists_cons_of_toMember hmember
    apply (SteadyNext.skip u vs).bind fun _ => stringBody.bind fun _ => pure _

theorem colon :
  Steady more (Reader.colon : Reader Char Unit)
  := by
  rw [Reader.colon]
  apply next_bind
  · intro c
    split
    · apply (fail _).steadyNext
    · apply SteadyNext.skip
    · apply (failNext _).steadyNext
  · apply fail_ne_ok

/-- A longer text has more fuel. -/
theorem elements {item : Reader Char β} (hitem : Steady more item) {fuel fuel' : Nat}
    (hfuel : fuel ≤ fuel') (index : Nat) (items : List β) :
  Extends more (Reader.elements item fuel index items) (Reader.elements item fuel' index items)
  := by
  induction fuel generalizing fuel' index items with
  | zero =>
      intro us
      apply ExtendsAt.of_ne_ok fun _ _ => fail_ne_ok _ _ _
  | succ fuel ih =>
      obtain ⟨fuel', rfl⟩ : ∃ n, fuel' = n + 1 := Nat.exists_eq_add_one.mpr (by omega)
      rw [Reader.elements, Reader.elements]
      apply Extends.bind (toElement _)
      rintro (_ | _)
      · apply pure
      · apply Extends.bind (within hitem _) fun _ => ih (Nat.le_of_succ_le_succ hfuel) _ _

/-- A longer text has more fuel. -/
theorem members {item : Reader Char β} (hitem : Steady more item) {fuel fuel' : Nat}
    (hfuel : fuel ≤ fuel') (first : Bool) (items : List (String × β)) :
  Extends more (Reader.members item fuel first items) (Reader.members item fuel' first items)
  := by
  induction fuel generalizing fuel' first items with
  | zero =>
      intro us
      apply ExtendsAt.of_ne_ok fun _ _ => fail_ne_ok _ _ _
  | succ fuel ih =>
      obtain ⟨fuel', rfl⟩ : ∃ n, fuel' = n + 1 := Nat.exists_eq_add_one.mpr (by omega)
      rw [Reader.members, Reader.members]
      apply Extends.bind (memberName _)
      rintro (_ | name)
      · apply pure
      · apply Extends.bind colon fun _ => ?_
        apply Extends.bind (within hitem _) fun _ => ih (Nat.le_of_succ_le_succ hfuel) _ _

/-- An array is read alike with more room for elements than it has units. -/
theorem arrayBody {item : Reader Char β} (hitem : Steady more item) :
  Steady more (Reader.arrayBody item)
  := by
  apply Extends.room_bind
  intro n n' hle
  apply Extends.bind (elements hitem hle _ _) fun _ => closeArray.bind fun _ => pure _

/-- An object is read alike with more room for members than it has units. -/
theorem objectBody {item : Reader Char β} (hitem : Steady more item) :
  Steady more (Reader.objectBody item)
  := by
  apply Extends.room_bind
  intro n n' hle
  apply Extends.bind (members hitem hle _ _) fun _ => closeObject.bind fun _ => pure _

/-! ## Values -/

/-- A scalar is told by its first character, and only a number could go on. -/
theorem scalar (hmore : Delimited more) (c : Char) :
  SteadyNext more (Reader.scalar c : Reader Char Json)
  := by
  rw [Reader.scalar]
  split_ifs
  · apply SteadyNext.skip.bind fun _ => (word _).bind fun _ => pure _
  · apply SteadyNext.skip.bind fun _ => (word _).bind fun _ => pure _
  · apply SteadyNext.skip.bind fun _ => (word _).bind fun _ => pure _
  · apply SteadyNext.skip.bind fun _ => (numberBody hmore _).bind fun _ => pure _
  · apply ((numberBody hmore _).bind fun _ => pure _).steadyNext
  · apply SteadyNext.skip.bind fun _ => stringBody.bind fun _ => pure _
  · apply (failNext _).steadyNext

/-- A value is taken alike when something follows that does not go on with a number. -/
theorem value (hmore : Delimited more) (depth : Nat) :
  Steady more (Reader.value depth : Reader Char Json)
  := by
  induction depth with
  | zero =>
      rw [Reader.value.eq_def]
      apply next_bind
      · intro c
        split
        · apply (fail _).steadyNext
        · apply (failNext _).steadyNext
        · apply (failNext _).steadyNext
        · apply scalar hmore
      · apply fail_ne_ok
  | succ depth ih =>
      rw [Reader.value.eq_def]
      apply next_bind
      · intro c
        split
        · apply (fail _).steadyNext
        · apply SteadyNext.skip.bind fun _ => (arrayBody ih).bind fun _ => pure _
        · apply SteadyNext.skip.bind fun _ => (objectBody ih).bind fun _ => pure _
        · apply scalar hmore
      · apply fail_ne_ok

end Steady

/-! ## Documents -/

/-- The text of a document is taken as its value, by any reader that has room for the value. -/
theorem takes_of_document {text : List Char} {v : Json} (h : document.onText text = .ok v)
    {depth : Nat} (hlevels : v.levels ≤ depth) :
  Takes (value depth) text v
  := by
  obtain ⟨⟨left, p⟩, c, hv, hnext⟩ := exists_next_of_document h
  have hleft : Spaces left := by
    obtain hleft | ⟨ss, u, us, rfl, hss, hu⟩ := spaces_or_exists left
    · exact hleft
    · rw [next_append_cons hss hu us p] at hnext
      cases hnext
  intro rest place hrest
  obtain ⟨used, hused, hv⟩ :=
    Steady.value hrest depth text _ _ _ _ (value_of_levels_le hv hlevels) place
  use used, left, hused, hleft, hv

end Assay.Json.Reader

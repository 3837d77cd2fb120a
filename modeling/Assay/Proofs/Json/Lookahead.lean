import Assay.Proofs.Json.Progress

/-!
# Looking ahead

A reader looks at no more than one unit beyond what it takes.  `LooksAhead r` says so: in front
of another text that starts with the same unit the reader takes the same units, for the same
result.  What ends in a bracket or a brace is `SelfDelimiting`: the reader takes it in front of
any text.  So are the values that are containers (`exists_of_value_array`,
`exists_of_value_object`).
-/

namespace Assay.Json.Reader

variable {α β γ : Type} [Source α]

/-- What a reader takes depends on the unit after it at most. -/
def LooksAhead (r : Reader α β) : Prop :=
  ∀ us p x rest p', r ⟨us, p⟩ = .ok (x, ⟨rest, p'⟩) → ∃ used, us = used ++ rest ∧
    ∀ rest', rest'.head? = rest.head? → ∀ q, ∃ q', r ⟨used ++ rest', q⟩ = .ok (x, ⟨rest', q'⟩)

/-- What a reader takes is something, and does not depend on what is after it. -/
def SelfDelimiting (r : Reader α β) : Prop :=
  ∀ us p x rest p', r ⟨us, p⟩ = .ok (x, ⟨rest, p'⟩) → ∃ used, used ≠ [] ∧ us = used ++ rest ∧
    ∀ rest' q, ∃ q', r ⟨used ++ rest', q⟩ = .ok (x, ⟨rest', q'⟩)

omit [Source α] in
/-- The first unit of a text does not change when what follows is replaced by what starts alike. -/
theorem head?_append_congr {used us vs : List α} (h : us.head? = vs.head?) :
  (used ++ us).head? = (used ++ vs).head?
  := by
  rw [List.head?_append, List.head?_append, h]

/-! ## Room -/

/-- A string is read with room for as many pieces as there are units. -/
theorem stringBody_eq :
  (stringBody : Reader α String) = (do
    let pieces ← room >>= fun fuel => stringPieces fuel []
    match Source.decode pieces with
    | some cs => return .ofList cs
    | none => fail .invalidCodePoint)
  := rfl

/-- An array is read with room for as many elements as there are units. -/
theorem arrayBody_eq (item : Reader α β) :
  arrayBody item = (do
    let xs ← room >>= fun fuel => elements item fuel 0 []
    closeArray
    return xs)
  := rfl

/-- An object is read with room for as many members as there are units. -/
theorem objectBody_eq (item : Reader α β) :
  objectBody item = (do
    let xs ← room >>= fun fuel => members item fuel true []
    closeObject
    return xs)
  := rfl

namespace LooksAhead

/-! ## Steps -/

omit [Source α] in
/-- A reader that never takes anything looks at nothing. -/
theorem of_ne_ok {r : Reader α β} (h : ∀ c p, r c ≠ .ok p) :
  LooksAhead r
  := by
  intro us p x rest p' hr
  cases h _ _ hr

omit [Source α] in
theorem pure (x : β) :
  LooksAhead (Pure.pure x : Reader α β)
  := by
  intro us p y rest p' h
  cases h
  use [], rfl
  intro rest' _ q
  use q
  rfl

omit [Source α] in
theorem bind {r : Reader α β} {f : β → Reader α γ} (hr : LooksAhead r)
    (hf : ∀ x, LooksAhead (f x)) :
  LooksAhead (r >>= f)
  := by
  intro us p y rest p' h
  obtain ⟨x, ⟨us₁, p₁⟩, hx, hy⟩ := exists_of_bind h
  obtain ⟨used₁, rfl, hr⟩ := hr us p x us₁ p₁ hx
  obtain ⟨used₂, rfl, hf⟩ := hf x us₁ p₁ y rest p' hy
  use used₁ ++ used₂, (List.append_assoc _ _ _).symm
  intro rest' hrest q
  obtain ⟨q₁, hx⟩ := hr (used₂ ++ rest') (head?_append_congr hrest) q
  obtain ⟨q₂, hy⟩ := hf rest' hrest q₁
  use q₂
  rw [List.append_assoc, bind_eq_ok hx, hy]

omit [Source α] in
theorem within {r : Reader α β} (hr : LooksAhead r) (step : Step) :
  LooksAhead (Reader.within step r)
  := by
  intro us p x rest p' h
  obtain ⟨used, hused, h⟩ := hr us p x rest p' (within_eq_ok_iff.mp h)
  use used, hused
  intro rest' hrest q
  obtain ⟨q', h⟩ := h rest' hrest q
  use q', within_eq_ok_iff.mpr h

omit [Source α] in
/-- Looking at the next unit takes nothing. -/
theorem look :
  LooksAhead (Reader.look : Reader α (Option α))
  := by
  intro us p x rest p' h
  cases h
  use [], rfl
  intro rest' hrest q
  use q
  rw [List.nil_append, Reader.look, hrest]

/-- Skipping takes one unit, or none at the end of the text. -/
theorem skip :
  LooksAhead (Reader.skip : Reader α Unit)
  := by
  intro us p x rest p' h
  cases us with
  | nil =>
      cases h
      use [], rfl
      intro rest' hrest q
      obtain rfl := List.head?_eq_none_iff.mp hrest
      use q
      rfl
  | cons u us =>
      cases h
      use [u], rfl
      intro rest' _ q
      use q.after (glyph u) (Source.width u)
      rfl

/-- White space is skipped up to the same unit. -/
theorem exists_skipSpace (us : List α) (p : Place) :
  ∃ used, us = used ++ (skipSpace us p).rest ∧
    ∀ rest', rest'.head? = (skipSpace us p).rest.head? → ∀ q, ∃ q',
      skipSpace (used ++ rest') q = ⟨rest', q'⟩
  := by
  induction us generalizing p with
  | nil =>
      use [], rfl
      intro rest' hrest q
      obtain rfl := List.head?_eq_none_iff.mp hrest
      use q
      rfl
  | cons u us ih =>
      rw [skipSpace]
      split_ifs with hu
      · obtain ⟨used, hused, h⟩ := ih (p.after (glyph u) (Source.width u))
        use u :: used, congrArg (u :: ·) hused
        intro rest' hrest q
        rw [List.cons_append, skipSpace, if_pos hu]
        apply h rest' hrest
      · use [], rfl
        intro rest' hrest q
        obtain ⟨vs, rfl⟩ := List.head?_eq_some_iff.mp hrest
        use q
        rw [List.nil_append, skipSpace, if_neg hu]

/-- White space is taken up to the unit that is looked at. -/
theorem next :
  LooksAhead (Reader.next : Reader α (Option Char))
  := by
  intro us p x rest p' h
  have hnext : ∀ us p, Reader.next (⟨us, p⟩ : Cursor α)
      = .ok ((skipSpace us p).rest.head?.map glyph, skipSpace us p) := fun _ _ => rfl
  obtain ⟨used, hused, hskip⟩ := exists_skipSpace us p
  rw [hnext] at h
  obtain ⟨rfl, hcursor⟩ := Prod.mk.inj (Except.ok.inj h)
  rw [hcursor] at hused hskip ⊢
  use used, hused
  intro rest' hrest q
  obtain ⟨q', hskip⟩ := hskip rest' hrest q
  use q'
  rw [hnext, hskip, hrest]

/-! ## Words and numbers -/

/-- Digits are taken up to a unit that is none. -/
theorem exists_takeDigits (us : List α) (p : Place) :
  ∃ used, us = used ++ (takeDigits us p).2.rest ∧
    ∀ rest', rest'.head? = (takeDigits us p).2.rest.head? → ∀ q, ∃ q',
      takeDigits (used ++ rest') q = ((takeDigits us p).1, ⟨rest', q'⟩)
  := by
  induction us generalizing p with
  | nil =>
      use [], rfl
      intro rest' hrest q
      obtain rfl := List.head?_eq_none_iff.mp hrest
      use q
      rfl
  | cons u us ih =>
      rw [takeDigits]
      split_ifs with hu
      · obtain ⟨used, hused, h⟩ := ih (p.after (glyph u) (Source.width u))
        use u :: used, congrArg (u :: ·) hused
        intro rest' hrest q
        obtain ⟨q', h⟩ := h rest' hrest (q.after (glyph u) (Source.width u))
        use q'
        rw [List.cons_append, takeDigits, if_pos hu, h]
      · use [], rfl
        intro rest' hrest q
        obtain ⟨vs, rfl⟩ := List.head?_eq_some_iff.mp hrest
        use q
        rw [List.nil_append, takeDigits, if_neg hu]

/-- A run of digits ends in front of a unit that is no digit. -/
theorem digitRun :
  LooksAhead (Reader.digitRun : Reader α (List Char))
  := by
  intro us p x rest p' h
  obtain ⟨used, hused, hdigits⟩ := exists_takeDigits us p
  obtain ⟨rfl, hcursor⟩ := Prod.mk.inj (Except.ok.inj h)
  rw [hcursor] at hused hdigits
  use used, hused
  intro rest' hrest q
  obtain ⟨q', hdigits⟩ := hdigits rest' hrest q
  use q', congrArg Except.ok hdigits

/-- Digits of an exponent are taken up to a unit that is none, or to one that makes it too great. -/
theorem exists_exponentDigits (us : List α) (p : Place) (n : Nat) :
  ∃ used, us = used ++ (exponentDigits us p n).1.rest ∧
    ∀ rest', rest'.head? = (exponentDigits us p n).1.rest.head? → ∀ q, ∃ q',
      exponentDigits (used ++ rest') q n = (⟨rest', q'⟩, (exponentDigits us p n).2)
  := by
  induction us generalizing p n with
  | nil =>
      use [], rfl
      intro rest' hrest q
      obtain rfl := List.head?_eq_none_iff.mp hrest
      use q
      rfl
  | cons u us ih =>
      rw [exponentDigits]
      split_ifs with hu
      · dsimp only
        split_ifs with hn
        · obtain ⟨used, hused, h⟩ := ih (p.after (glyph u) (Source.width u))
            (10 * n + Decimal.digitValue (glyph u))
          use u :: used, congrArg (u :: ·) hused
          intro rest' hrest q
          obtain ⟨q', h⟩ := h rest' hrest (q.after (glyph u) (Source.width u))
          use q'
          rw [List.cons_append, exponentDigits, if_pos hu]
          dsimp only
          rw [if_pos hn, h]
        · use [u], rfl
          intro rest' _ q
          use q.after (glyph u) (Source.width u)
          rw [List.singleton_append, exponentDigits, if_pos hu]
          dsimp only
          rw [if_neg hn]
      · use [], rfl
        intro rest' hrest q
        obtain ⟨vs, rfl⟩ := List.head?_eq_some_iff.mp hrest
        use q
        rw [List.nil_append, exponentDigits, if_neg hu]

/-- The digits of an exponent end in front of a unit that is looked at, if they end at all. -/
theorem exponentRun (n : Nat) :
  LooksAhead (Reader.exponentRun n : Reader α (Option Nat))
  := by
  intro us p x rest p' h
  obtain ⟨used, hused, hdigits⟩ := exists_exponentDigits us p n
  obtain ⟨rfl, hcursor⟩ := Prod.mk.inj (Except.ok.inj h)
  rw [hcursor] at hused hdigits
  use used, hused
  intro rest' hrest q
  obtain ⟨q', hdigits⟩ := hdigits rest' hrest q
  use q'
  rw [Reader.exponentRun, hdigits]
  rfl

/-! ## Strings -/

/-- Four digits are taken, and no more is looked at. -/
theorem hexEscape :
  LooksAhead (Reader.hexEscape : Reader α Nat)
  := by
  intro us p n rest p' h
  rw [Reader.hexEscape, get_bind] at h
  rcases us with _ | ⟨a, _ | ⟨b, _ | ⟨d, _ | ⟨e, us⟩⟩⟩⟩
  · cases failBytes_ne_ok _ _ _ h
  · cases failBytes_ne_ok _ _ _ h
  · cases failBytes_ne_ok _ _ _ h
  · cases failBytes_ne_ok _ _ _ h
  · dsimp only at h
    generalize ha : Decimal.hexValue? (glyph a) = w, hb : Decimal.hexValue? (glyph b) = x,
      hd : Decimal.hexValue? (glyph d) = y, he : Decimal.hexValue? (glyph e) = z at h
    split at h
    · cases h
      use [a, b, d, e], rfl
      intro rest' _ q
      use ⟨q.line, q.column + 4⟩
      rw [Reader.hexEscape, get_bind]
      simp only [List.cons_append, List.nil_append, ha, hb, hd, he]
      rfl
    · cases failBytes_ne_ok _ _ _ h

/-- Readers that are put together from readers that look ahead by one unit do so as well. -/
theorem compositional :
  Compositional (@LooksAhead α)
  where
  pure := pure
  bind := bind
  within := within
  fail cause := of_ne_ok (fail_ne_ok cause)
  failNext cause := of_ne_ok (failNext_ne_ok cause)
  look := look
  skip := skip
  next := next
  digitRun := digitRun
  exponentRun := exponentRun
  hexEscape := hexEscape

omit [Source α] in
/-- The room of the text is enough for a reader that never needs more fuel than that. -/
theorem room_bind {r : Nat → Reader α β} (hr : ∀ fuel, LooksAhead (r fuel))
    (hroom : ∀ {fuel c p}, r fuel c = .ok p → r (c.rest.length + 1) c = .ok p) :
  LooksAhead (room >>= r)
  := by
  intro us p x rest p' h
  obtain ⟨used, hused, hr⟩ := hr _ us p x rest p' h
  use used, hused
  intro rest' hrest q
  obtain ⟨q', h⟩ := hr rest' hrest q
  use q', hroom h

/-- A string ends in a quote, and nothing after that is looked at. -/
theorem stringBody :
  LooksAhead (Reader.stringBody : Reader α String)
  := by
  have hpieces : LooksAhead (room >>= fun fuel => stringPieces fuel [] : Reader α _) := by
    apply room_bind fun fuel => compositional.stringPieces fuel []
    intro fuel c p h
    apply stringPieces_of_lt h (Nat.lt_succ_self _)
  rw [stringBody_eq]
  apply bind hpieces fun pieces => ?_
  split
  · apply pure
  · apply of_ne_ok (fail_ne_ok _)

/-- Elements are read alike whatever the room, if there is enough of it. -/
theorem elements {item : Reader α β} (hitem : LooksAhead item) (hshrinks : Shrinks item) :
  LooksAhead (room >>= fun fuel => Reader.elements item fuel 0 [])
  := room_bind (fun fuel => compositional.elements hitem fuel 0 []) (elements_room hshrinks)

/-- Members are read alike whatever the room, if there is enough of it. -/
theorem members {item : Reader α β} (hitem : LooksAhead item) (hshrinks : Shrinks item) :
  LooksAhead (room >>= fun fuel => Reader.members item fuel true [])
  := by
  apply room_bind fun fuel => compositional.members stringBody hitem fuel true []
  intro fuel c p h
  apply members_of_lt hshrinks h (Nat.lt_succ_self _)

end LooksAhead

/-! ## Containers -/

namespace SelfDelimiting

omit [Source α] in
/-- What does not depend on what is after it depends on the next unit no more. -/
theorem looksAhead {r : Reader α β} (hr : SelfDelimiting r) :
  LooksAhead r
  := by
  intro us p x rest p' h
  obtain ⟨used, -, hused, h⟩ := hr us p x rest p' h
  use used, hused
  intro rest' _
  apply h rest'

omit [Source α] in
/-- What is made of the result does not matter to what is taken. -/
theorem bind_pure {r : Reader α β} (hr : SelfDelimiting r) (f : β → γ) :
  SelfDelimiting (r >>= fun x => Pure.pure (f x))
  := by
  intro us p y rest p' h
  obtain ⟨x, c, hx, ⟨⟩⟩ := exists_of_bind h
  obtain ⟨used, hne, hused, hr⟩ := hr us p x rest p' hx
  use used, hne, hused
  intro rest' q
  obtain ⟨q', hx⟩ := hr rest' q
  use q'
  rw [bind_eq_ok hx]
  rfl

omit [Source α] in
/-- What is looked at after the first part belongs to the second. -/
theorem bind {r : Reader α β} {f : β → Reader α γ} (hr : LooksAhead r)
    (hf : ∀ x, SelfDelimiting (f x)) :
  SelfDelimiting (r >>= f)
  := by
  intro us p y rest p' h
  obtain ⟨x, ⟨us₁, p₁⟩, hx, hy⟩ := exists_of_bind h
  obtain ⟨used₁, rfl, hr⟩ := hr us p x us₁ p₁ hx
  obtain ⟨used₂, hne, rfl, hf⟩ := hf x us₁ p₁ y rest p' hy
  use used₁ ++ used₂, List.append_ne_nil_of_right_ne_nil used₁ hne, (List.append_assoc _ _ _).symm
  intro rest' q
  have hhead : (used₂ ++ rest').head? = (used₂ ++ rest).head? := by
    rw [List.head?_append_of_ne_nil _ hne, List.head?_append_of_ne_nil _ hne]
  obtain ⟨q₁, hx⟩ := hr (used₂ ++ rest') hhead q
  obtain ⟨q₂, hy⟩ := hf rest' q₁
  use q₂
  rw [List.append_assoc, bind_eq_ok hx, hy]

/-- A bracket or a brace that is seen and taken is all that is looked at. -/
theorem next_bind {f : Option Char → Reader α Unit} (ch : Char) (hf : f (some ch) = Reader.skip)
    (hne : ∀ look, look ≠ some ch → ∀ c p, f look c ≠ .ok p) :
  SelfDelimiting (next >>= f)
  := by
  intro us p x rest p' h
  obtain ⟨look, ⟨us₁, p₁⟩, hnext, h⟩ := exists_of_bind h
  by_cases hlook : look = some ch
  · subst hlook
    rw [hf] at h
    cases us₁ with
    | nil => cases length_lt_of_skip hnext rfl
    | cons u us₁ =>
        cases h
        obtain ⟨used, rfl, hread⟩ := LooksAhead.next us p _ _ _ hnext
        use used ++ [u], by simp, by simp
        intro rest' q
        obtain ⟨q', hnext⟩ := hread (u :: rest') rfl q
        use q'.after (glyph u) (Source.width u)
        rw [List.append_assoc, List.singleton_append, bind_eq_ok hnext, hf]
        rfl
  · cases hne look hlook _ _ h

/-- An array is closed by a bracket. -/
theorem closeArray :
  SelfDelimiting (Reader.closeArray : Reader α Unit)
  := by
  rw [Reader.closeArray]
  apply next_bind ']' rfl
  intro look hlook c p h
  split at h
  · cases h
  · cases hlook rfl
  · obtain ⟨⟨⟩, c₁, -, h⟩ := exists_of_bind h
    obtain ⟨look', c₂, -, h⟩ := exists_of_bind h
    split at h
    · cases failNext_ne_ok _ _ _ h
    · cases failNext_ne_ok _ _ _ h
  · cases failNext_ne_ok _ _ _ h

/-- An object is closed by a brace. -/
theorem closeObject :
  SelfDelimiting (Reader.closeObject : Reader α Unit)
  := by
  rw [Reader.closeObject]
  apply next_bind '\x7d' rfl
  intro look hlook c p h
  split at h
  · cases h
  · cases hlook rfl
  · cases failNext_ne_ok _ _ _ h
  · cases failNext_ne_ok _ _ _ h

/-- An array ends in the bracket that closes it, whatever its elements look at. -/
theorem arrayBody {item : Reader α β} (hitem : LooksAhead item) (hshrinks : Shrinks item) :
  SelfDelimiting (Reader.arrayBody item)
  := by
  rw [arrayBody_eq]
  apply bind (.elements hitem hshrinks) fun xs => closeArray.bind_pure fun _ => xs

/-- An object ends in the brace that closes it, whatever its members look at. -/
theorem objectBody {item : Reader α β} (hitem : LooksAhead item) (hshrinks : Shrinks item) :
  SelfDelimiting (Reader.objectBody item)
  := by
  rw [objectBody_eq]
  apply bind (.members hitem hshrinks) fun xs => closeObject.bind_pure fun _ => xs

end SelfDelimiting

/-! ## Values -/

/-- A value depends on the unit after it at most: a number goes on as long as there are digits. -/
theorem LooksAhead.value (depth : Nat) :
  LooksAhead (Reader.value depth : Reader α Json)
  := by
  apply compositional.value stringBody
  · intro depth h
    apply (SelfDelimiting.arrayBody h (Shrinks.value depth)).looksAhead
  · intro depth h
    apply (SelfDelimiting.objectBody h (Shrinks.value depth)).looksAhead

/-- What is opened and delimits itself is read in front of any text. -/
theorem SelfDelimiting.exists_of_opened {r : Reader α β} (hr : SelfDelimiting r) {ch : Char}
    {us rest : List α} {p p' : Place} {x : β} {c₁ c₂ : Cursor α}
    (hnext : next ⟨us, p⟩ = .ok (some ch, c₁)) (hskip : skip c₁ = .ok ((), c₂))
    (h : r c₂ = .ok (x, ⟨rest, p'⟩)) :
  ∃ used, us = used ++ rest ∧ ∀ rest' q, ∃ c₁ c₂ q', next ⟨used ++ rest', q⟩ = .ok (some ch, c₁) ∧
    skip c₁ = .ok ((), c₂) ∧ r c₂ = .ok (x, ⟨rest', q'⟩)
  := by
  have hopened : SelfDelimiting (do
      let look ← next
      skip
      return (look, ← r)) :=
    bind .next fun look => bind .skip fun _ => hr.bind_pure (Prod.mk look)
  have hread : (do
      let look ← next
      skip
      return (look, ← r)) ⟨us, p⟩ = .ok ((some ch, x), ⟨rest, p'⟩) := by
    rw [bind_eq_ok hnext, bind_eq_ok hskip, bind_eq_ok h]
    rfl
  obtain ⟨used, -, hused, hopened⟩ := hopened _ _ _ _ _ hread
  use used, hused
  intro rest' q
  obtain ⟨q', hread⟩ := hopened rest' q
  obtain ⟨look, c₁, hnext, hread⟩ := exists_of_bind hread
  obtain ⟨⟨⟩, c₂, hskip, hread⟩ := exists_of_bind hread
  obtain ⟨y, c₃, h, ⟨⟩⟩ := exists_of_bind hread
  use c₁, c₂, q', hnext, hskip, h

/-- An array is read in front of any text. -/
theorem exists_of_value_array {depth : Nat} {items : List Json} {us rest : List α} {p p' : Place}
    (h : value depth ⟨us, p⟩ = .ok (.array items, ⟨rest, p'⟩)) :
  ∃ used, us = used ++ rest ∧
    ∀ rest' q, ∃ q', value depth ⟨used ++ rest', q⟩ = .ok (.array items, ⟨rest', q'⟩)
  := by
  obtain ⟨d, c₁, c₂, hd, hnext, hskip, hbody⟩ := value_array_iff.mp h
  have hdelimited := SelfDelimiting.arrayBody (LooksAhead.value d) (Shrinks.value (α := α) d)
  obtain ⟨used, hused, h⟩ := hdelimited.exists_of_opened hnext hskip hbody
  use used, hused
  intro rest' q
  obtain ⟨c₁, c₂, q', hnext, hskip, hbody⟩ := h rest' q
  use q', value_array_iff.mpr ⟨d, c₁, c₂, hd, hnext, hskip, hbody⟩

/-- An object is read in front of any text. -/
theorem exists_of_value_object {depth : Nat} {ms : List (String × Json)} {us rest : List α}
    {p p' : Place} (h : value depth ⟨us, p⟩ = .ok (.object ms, ⟨rest, p'⟩)) :
  ∃ used, us = used ++ rest ∧
    ∀ rest' q, ∃ q', value depth ⟨used ++ rest', q⟩ = .ok (.object ms, ⟨rest', q'⟩)
  := by
  obtain ⟨d, c₁, c₂, hd, hnext, hskip, hbody⟩ := value_object_iff.mp h
  have hdelimited := SelfDelimiting.objectBody (LooksAhead.value d) (Shrinks.value (α := α) d)
  obtain ⟨used, hused, h⟩ := hdelimited.exists_of_opened hnext hskip hbody
  use used, hused
  intro rest' q
  obtain ⟨c₁, c₂, q', hnext, hskip, hbody⟩ := h rest' q
  use q', value_object_iff.mpr ⟨d, c₁, c₂, hd, hnext, hskip, hbody⟩

/-! ## Documents -/

/-- Nothing is left of a text after its white space if there is nothing else in it. -/
theorem rest_skipSpace_eq_nil_iff (us : List α) (p : Place) :
  (skipSpace us p).rest = [] ↔ ∀ u ∈ us, isSpace (glyph u) = true
  := by
  induction us generalizing p with
  | nil => simp [skipSpace]
  | cons u us ih =>
      rw [skipSpace, List.forall_mem_cons]
      split_ifs with hu
      · rw [and_iff_right hu]
        apply ih
      · simp [hu]

/-- Nothing is seen in front of white space that nothing follows. -/
theorem exists_next_none_iff {us : List α} {p : Place} :
  (∃ c, next ⟨us, p⟩ = .ok (none, c)) ↔ ∀ u ∈ us, isSpace (glyph u) = true
  := by
  rw [← rest_skipSpace_eq_nil_iff us p]
  constructor
  · rintro ⟨c, h⟩
    obtain ⟨hhead, -⟩ := Prod.mk.inj (Except.ok.inj h)
    apply List.head?_eq_none_iff.mp (Option.map_eq_none_iff.mp hhead)
  · intro h
    use skipSpace us p
    show Except.ok ((skipSpace us p).rest.head?.map glyph, skipSpace us p) = _
    rw [h]
    rfl

/-- A text that starts with a value is a document if white space is all that follows. -/
theorem exists_document_iff {text rest : List α} {j : Json} {p : Place}
    (h : value maxDepth (.start text) = .ok (j, ⟨rest, p⟩)) :
  (∃ j, document.onText text = .ok j) ↔ ∀ u ∈ rest, isSpace (glyph u) = true
  := by
  rw [← @exists_next_none_iff _ _ rest p]
  constructor
  · rintro ⟨j', hdocument⟩
    obtain ⟨c, c', hvalue, hnext⟩ := exists_next_of_document hdocument
    cases h.symm.trans hvalue
    use c', hnext
  · rintro ⟨c, hnext⟩
    use j, onText_eq_ok_iff.mpr ⟨c, ?_⟩
    rw [document, bind_eq_ok h, bind_eq_ok hnext]
    rfl

end Assay.Json.Reader

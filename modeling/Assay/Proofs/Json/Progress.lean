import Assay.Proofs.Json.Composition
import Assay.Proofs.Json.Success

/-!
# Progress of readers

No reader puts units back: what is left after reading is no longer than what was there
before (`Shrinks.value`).  Hence pieces, elements and members that can be read at all can be
read with as much fuel as there are units left (`stringPieces_of_lt`, `elements_of_lt`,
`members_of_lt`), and fuel decides nothing (`elements_eq_of_lt`, `members_eq_of_lt`).
-/

namespace Assay.Json.Reader

variable {α β γ : Type} [Source α]

/-- A reader that succeeds leaves no more units than it found. -/
def Shrinks (r : Reader α β) : Prop :=
  ∀ c x c', r c = .ok (x, c') → c'.rest.length ≤ c.rest.length

namespace Shrinks

/-! ## Steps -/

omit [Source α] in
theorem pure (x : β) :
  Shrinks (Pure.pure x : Reader α β)
  := by
  rintro c _ _ ⟨⟩
  apply Nat.le_refl

omit [Source α] in
/-- Two steps leave no more than the first of them. -/
theorem bind {r : Reader α β} {f : β → Reader α γ} (hr : Shrinks r) (hf : ∀ x, Shrinks (f x)) :
  Shrinks (r >>= f)
  := by
  intro c y c'' h
  obtain ⟨x, c', hx, hy⟩ := exists_of_bind h
  apply Nat.le_trans (hf x _ _ _ hy) (hr _ _ _ hx)

omit [Source α] in
theorem get :
  Shrinks (MonadState.get : Reader α (Cursor α))
  := by
  rintro c _ _ ⟨⟩
  apply Nat.le_refl

omit [Source α] in
theorem fail (cause : Cause) :
  Shrinks (Reader.fail cause : Reader α β)
  := by
  intro c x c' h
  cases fail_ne_ok _ _ _ h

theorem skip :
  Shrinks (Reader.skip : Reader α Unit)
  := by
  rintro ⟨us, place⟩ _ _ ⟨⟩
  cases us with
  | nil => apply Nat.le_refl
  | cons u us => apply Nat.le_succ

/-- Skipping white space leaves no more than there was. -/
theorem length_skipSpace_le (us : List α) (place : Place) :
  (skipSpace us place).rest.length ≤ us.length
  := by
  induction us generalizing place with
  | nil => apply Nat.le_refl
  | cons u us ih =>
      rw [skipSpace]
      split_ifs
      · apply Nat.le_trans (ih _) (Nat.le_succ _)
      · apply Nat.le_refl

theorem next :
  Shrinks (Reader.next : Reader α (Option Char))
  := by
  rintro ⟨us, place⟩ _ _ ⟨⟩
  apply length_skipSpace_le

theorem length_takeDigits_le (us : List α) (place : Place) :
  (takeDigits us place).2.rest.length ≤ us.length
  := by
  induction us generalizing place with
  | nil => apply Nat.le_refl
  | cons u us ih =>
      rw [takeDigits]
      split_ifs
      · apply Nat.le_trans (ih _) (Nat.le_succ _)
      · apply Nat.le_refl

theorem length_exponentDigits_le (us : List α) (place : Place) (n : Nat) :
  (exponentDigits us place n).1.rest.length ≤ us.length
  := by
  induction us generalizing place n with
  | nil => apply Nat.le_refl
  | cons u us ih =>
      rw [exponentDigits]
      split_ifs
      · dsimp only
        split_ifs
        · apply Nat.le_trans (ih _ _) (Nat.le_succ _)
        · apply Nat.le_succ
      · apply Nat.le_refl

theorem hexEscape :
  Shrinks (Reader.hexEscape : Reader α Nat)
  := by
  rintro ⟨us, place⟩ n c' h
  rw [Reader.hexEscape, get_bind] at h
  rcases us with _ | ⟨a, _ | ⟨b, _ | ⟨d, _ | ⟨e, rest⟩⟩⟩⟩
  · cases failBytes_ne_ok _ _ _ h
  · cases failBytes_ne_ok _ _ _ h
  · cases failBytes_ne_ok _ _ _ h
  · cases failBytes_ne_ok _ _ _ h
  · dsimp only at h
    generalize Decimal.hexValue? (glyph a) = w, Decimal.hexValue? (glyph b) = x,
      Decimal.hexValue? (glyph d) = y, Decimal.hexValue? (glyph e) = z at h
    split at h
    · cases h
      simp only [List.length_cons]
      omega
    · cases failBytes_ne_ok _ _ _ h

/-- No reader that is put together from these leaves more than there was. -/
theorem compositional :
  Compositional (@Shrinks α)
  where
  pure := pure
  bind := bind
  within hr step c x c' h := hr c x c' (within_eq_ok_iff.mp h)
  fail := fail
  failNext cause c x c' h := by cases failNext_ne_ok _ _ _ h
  look := by
    rintro c _ _ ⟨⟩
    apply Nat.le_refl
  skip := skip
  next := next
  digitRun := by
    rintro c _ _ ⟨⟩
    apply length_takeDigits_le
  exponentRun n := by
    rintro c _ _ ⟨⟩
    apply length_exponentDigits_le
  hexEscape := hexEscape

/-! ## Values -/

theorem stringBody :
  Shrinks (Reader.stringBody : Reader α String)
  := by
  rw [Reader.stringBody]
  apply bind get fun c => ?_
  apply bind (compositional.stringPieces _ _) fun pieces => ?_
  split
  · apply pure
  · apply fail

theorem toElement (first : Bool) :
  Shrinks (Reader.toElement first : Reader α Bool)
  := compositional.toElement first

theorem arrayBody {item : Reader α β} (hitem : Shrinks item) :
  Shrinks (Reader.arrayBody item)
  := by
  apply bind (bind get fun _ => pure _) fun _ => ?_
  apply bind (compositional.elements hitem _ _ _) fun _ => ?_
  apply bind compositional.closeArray fun _ => pure _

theorem objectBody {item : Reader α β} (hitem : Shrinks item) :
  Shrinks (Reader.objectBody item)
  := by
  apply bind (bind get fun _ => pure _) fun _ => ?_
  apply bind (compositional.members stringBody hitem _ _ _) fun _ => ?_
  apply bind compositional.closeObject fun _ => pure _

/-- A value takes at least its first character. -/
theorem value (depth : Nat) :
  Shrinks (Reader.value depth : Reader α Json)
  := compositional.value stringBody (fun _ => arrayBody) (fun _ => objectBody) depth

end Shrinks

/-! ## Fuel -/

/-- What is seen is the next unit. -/
theorem head?_of_next {look : Option Char} {c c' : Cursor α} (h : next c = .ok (look, c')) :
  c'.rest.head?.map glyph = look
  := by
  obtain ⟨-, c₁, -, hpeek⟩ := exists_of_bind h
  obtain ⟨hhead, rfl⟩ := Prod.mk.inj (Except.ok.inj hpeek)
  exact hhead

/-- Stepping over a unit that was seen leaves one unit less. -/
theorem length_lt_of_skip {ch : Char} {c c₁ c₂ : Cursor α} (hnext : next c = .ok (some ch, c₁))
    (hskip : skip c₁ = .ok ((), c₂)) :
  c₂.rest.length < c₁.rest.length
  := by
  have hhead := head?_of_next hnext
  obtain ⟨us, place⟩ := c₁
  cases hskip
  cases us with
  | nil => cases hhead
  | cons u us => apply Nat.lt_succ_self

/-- A step to an element that is not the first steps over a comma. -/
theorem length_lt_of_toElement {c c' : Cursor α} (h : toElement false c = .ok (true, c')) :
  c'.rest.length < c.rest.length
  := by
  rw [toElement] at h
  obtain ⟨look, c₁, hnext, h⟩ := exists_of_bind h
  have hc₁ := Shrinks.next _ _ _ hnext
  split at h
  next => cases h
  next => cases h
  next ch _ =>
    rw [if_neg (by decide)] at h
    split_ifs at h
    · obtain ⟨⟨⟩, c₂, hskip, h⟩ := exists_of_bind h
      obtain ⟨look, c₃, hnext', h⟩ := exists_of_bind h
      have hc₃ := Shrinks.next _ _ _ hnext'
      have hc₂ := length_lt_of_skip hnext hskip
      split at h
      next => cases h
      next => cases failNext_ne_ok _ _ _ h
      next =>
        cases h
        omega
    · cases failNext_ne_ok _ _ _ h

/-- At least its marks are read of a string. -/
theorem length_lt_of_value_string {depth : Nat} {s : String} {c c' : Cursor α}
    (h : value depth c = .ok (.string s, c')) :
  c'.rest.length < c.rest.length
  := by
  obtain ⟨c₁, c₂, hnext, hskip, hbody⟩ := value_string_iff.mp h
  have hc₁ := Shrinks.next _ _ _ hnext
  have hc₂ := length_lt_of_skip hnext hskip
  have hc' := Shrinks.stringBody _ _ _ hbody
  omega

/-- Pieces of a string that can be read can be read with as much fuel as there are units, and
one more. -/
theorem stringPieces_of_lt {fuel fuel' : Nat} {pieces result : List (α ⊕ Char)}
    {c c' : Cursor α} (h : stringPieces fuel pieces c = .ok (result, c'))
    (hfuel : c.rest.length < fuel') :
  stringPieces fuel' pieces c = .ok (result, c')
  := by
  induction fuel generalizing fuel' pieces c with
  | zero => cases fail_ne_ok _ _ _ h
  | succ n ih =>
      obtain ⟨n', rfl⟩ : ∃ n', fuel' = n' + 1 := Nat.exists_eq_add_one.mpr (by omega)
      obtain ⟨us, place⟩ := c
      cases us with
      | nil => cases h
      | cons u us =>
          have hskip : skip ⟨u :: us, place⟩
              = .ok ((), ⟨us, place.after (glyph u) (Source.width u)⟩) := rfl
          have hus : us.length < n' := Nat.lt_of_succ_lt_succ hfuel
          rw [stringPieces, get_bind] at h ⊢
          dsimp only at h ⊢
          split_ifs at h ⊢
          · exact h
          · rw [bind_eq_ok hskip] at h ⊢
            obtain ⟨e, c₁, hescape, h⟩ := exists_of_bind h
            have hc₁ := Shrinks.compositional.escape _ _ _ hescape
            rw [bind_eq_ok hescape]
            apply ih h (Nat.lt_of_le_of_lt hc₁ hus)
          · exact h
          · rw [bind_eq_ok hskip] at h ⊢
            apply ih h hus

/-- Elements that can be read after the first can be read with as much fuel as units are
taken, and one more. -/
theorem elements_of_lt_add {item : Reader α β} (hitem : Shrinks item) {fuel fuel' index : Nat}
    {xs : List β} {c c' : Cursor α} (h : elements item fuel (index + 1) [] c = .ok (xs, c'))
    (hfuel : c.rest.length < fuel' + c'.rest.length) :
  elements item fuel' (index + 1) [] c = .ok (xs, c')
  := by
  induction fuel generalizing fuel' index xs c with
  | zero => cases fail_ne_ok _ _ _ h
  | succ n ih =>
      have hc' := Shrinks.compositional.elements hitem _ _ _ _ _ _ h
      obtain ⟨n', rfl⟩ : ∃ n', fuel' = n' + 1 := Nat.exists_eq_add_one.mpr (by omega)
      apply elements_eq_ok_iff.mpr
      obtain hend | ⟨c₁, x, c₂, rest, hmore, hx, hrest, hxs⟩ := elements_eq_ok_iff.mp h
      · exact .inl hend
      · have hc₁ := length_lt_of_toElement hmore
        have hc₂ := hitem _ _ _ hx
        exact .inr ⟨c₁, x, c₂, rest, hmore, hx, ih hrest (by omega), hxs⟩

/-- Elements that can be read after the first can be read with as much fuel as there are
units, and one more. -/
theorem elements_of_lt {item : Reader α β} (hitem : Shrinks item) {fuel fuel' index : Nat}
    {xs : List β} {c c' : Cursor α} (h : elements item fuel (index + 1) [] c = .ok (xs, c'))
    (hfuel : c.rest.length < fuel') :
  elements item fuel' (index + 1) [] c = .ok (xs, c')
  := elements_of_lt_add hitem h (Nat.lt_add_right _ hfuel)

/-- The end of an array is seen and left. -/
theorem length_pos_of_toElement {first : Bool} {c c' : Cursor α}
    (h : toElement first c = .ok (false, c')) :
  0 < c'.rest.length
  := by
  rw [toElement] at h
  obtain ⟨look, c₁, hnext, h⟩ := exists_of_bind h
  split at h
  · cases h
  · cases h
    apply Nat.lt_of_le_of_lt (Nat.zero_le _) (length_lt_of_skip hnext rfl)
  · split_ifs at h
    · cases h
    · obtain ⟨⟨⟩, c₂, -, h⟩ := exists_of_bind h
      obtain ⟨look, c₃, -, h⟩ := exists_of_bind h
      split at h
      · cases h
      · cases failNext_ne_ok _ _ _ h
      · cases h
    · cases failNext_ne_ok _ _ _ h

/-- After elements there is at least the bracket that closes them. -/
theorem length_pos_of_elements {item : Reader α β} {fuel index : Nat} {xs : List β}
    {c c' : Cursor α} (h : elements item fuel index [] c = .ok (xs, c')) :
  0 < c'.rest.length
  := by
  induction fuel generalizing index xs c with
  | zero => cases fail_ne_ok _ _ _ h
  | succ n ih =>
      obtain ⟨hend, -⟩ | ⟨c₁, x, c₂, rest, -, -, hrest, -⟩ := elements_eq_ok_iff.mp h
      · apply length_pos_of_toElement hend
      · apply ih hrest

/-- Elements that can be read can be read with as much fuel as there are units, and one
more. -/
theorem elements_room {item : Reader α β} (hitem : Shrinks item) {fuel : Nat} {xs : List β}
    {c c' : Cursor α} (h : elements item fuel 0 [] c = .ok (xs, c')) :
  elements item (c.rest.length + 1) 0 [] c = .ok (xs, c')
  := by
  -- The first element has no comma, but the end of the array is left.
  have hleft := length_pos_of_elements h
  cases fuel with
  | zero => cases fail_ne_ok _ _ _ h
  | succ n =>
      apply elements_eq_ok_iff.mpr
      obtain hend | ⟨c₁, x, c₂, rest, hmore, hx, hrest, hxs⟩ := elements_eq_ok_iff.mp h
      · exact .inl hend
      · have hc₁ := Shrinks.toElement _ _ _ _ hmore
        have hc₂ := hitem _ _ _ hx
        exact .inr ⟨c₁, x, c₂, rest, hmore, hx, elements_of_lt_add hitem hrest (by omega), hxs⟩

/-- If there is a member, a quotation mark is seen. -/
theorem exists_next_of_toMember {first : Bool} {c c' : Cursor α}
    (h : toMember first c = .ok (true, c')) :
  ∃ c₀, c₀.rest.length ≤ c.rest.length ∧ next c₀ = .ok (some '"', c')
  := by
  have hkey : ∀ {look : Option Char} {c₁ : Cursor α}, toMember.atKey look c₁ = .ok (true, c') →
      look = some '"' ∧ c₁ = c' := by
    intro look c₁ h
    rw [toMember.atKey.eq_def] at h
    split at h
    · cases h
    · cases h
      exact ⟨rfl, rfl⟩
    · cases failNext_ne_ok _ _ _ h
    · cases failNext_ne_ok _ _ _ h
  rw [toMember] at h
  obtain ⟨look, c₁, hnext, h⟩ := exists_of_bind h
  have hc₁ := Shrinks.next _ _ _ hnext
  split at h
  · cases h
  · cases h
  · split_ifs at h
    · obtain ⟨hlook, rfl⟩ := hkey h
      use c, Nat.le_refl _
      rw [hnext, hlook]
    · obtain ⟨⟨⟩, c₂, hskip, h⟩ := exists_of_bind h
      have hc₂ := Shrinks.skip _ _ _ hskip
      obtain ⟨look, c₃, hnext', h⟩ := exists_of_bind h
      obtain ⟨rfl, rfl⟩ := hkey h
      use c₂, Nat.le_trans hc₂ hc₁, hnext'
    · cases failNext_ne_ok _ _ _ h

/-- At least the marks of a name are read. -/
theorem length_lt_of_memberName {first : Bool} {name : String} {c c' : Cursor α}
    (h : memberName first c = .ok (some name, c')) :
  c'.rest.length < c.rest.length
  := by
  obtain ⟨more, c₁, hmore, h⟩ := exists_of_bind (within_eq_ok_iff.mp h)
  cases more with
  | false => cases h
  | true =>
      obtain ⟨⟨⟩, c₂, hskip, h⟩ := exists_of_bind h
      obtain ⟨name, c₃, hbody, ⟨⟩⟩ := exists_of_bind h
      obtain ⟨c₀, hc₀, hnext⟩ := exists_next_of_toMember hmore
      have hc₁ := Shrinks.next _ _ _ hnext
      have hc₂ := length_lt_of_skip hnext hskip
      have hc' := Shrinks.stringBody _ _ _ hbody
      omega

/-- Members that can be read can be read with as much fuel as there are units, and one
more. -/
theorem members_of_lt {item : Reader α β} (hitem : Shrinks item) {fuel fuel' : Nat}
    {first : Bool} {ms : List (String × β)} {c c' : Cursor α}
    (h : members item fuel first [] c = .ok (ms, c')) (hfuel : c.rest.length < fuel') :
  members item fuel' first [] c = .ok (ms, c')
  := by
  induction fuel generalizing fuel' first ms c with
  | zero => cases fail_ne_ok _ _ _ h
  | succ n ih =>
      obtain ⟨n', rfl⟩ : ∃ n', fuel' = n' + 1 := Nat.exists_eq_add_one.mpr (by omega)
      apply members_eq_ok_iff.mpr
      obtain hend | ⟨name, c₁, c₂, x, c₃, rest, hname, hcolon, hx, hrest, hms⟩ :=
        members_eq_ok_iff.mp h
      · exact .inl hend
      · have hc₁ := length_lt_of_memberName hname
        have hc₂ := Shrinks.compositional.colon _ _ _ hcolon
        have hc₃ := hitem _ _ _ hx
        exact .inr ⟨name, c₁, c₂, x, c₃, rest, hname, hcolon, hx, ih hrest (by omega), hms⟩

/-- As much fuel as there are units is enough for the elements after the first, also to fail. -/
theorem elements_eq_of_le {item : Reader α β} (hitem : Shrinks item) {fuel fuel' : Nat}
    {c : Cursor α} (hfuel : c.rest.length ≤ fuel) (hfuel' : c.rest.length ≤ fuel') (index : Nat)
    (items : List β) :
  elements item fuel (index + 1) items c = elements item fuel' (index + 1) items c
  := by
  induction fuel generalizing fuel' index items c with
  | zero =>
      obtain ⟨us, p⟩ := c
      obtain rfl := List.eq_nil_of_length_eq_zero (Nat.le_zero.mp hfuel)
      cases fuel' <;> rfl
  | succ n ih =>
      cases fuel' with
      | zero =>
          obtain ⟨us, p⟩ := c
          obtain rfl := List.eq_nil_of_length_eq_zero (Nat.le_zero.mp hfuel')
          rfl
      | succ n' =>
          rw [elements, elements]
          apply bind_congr_of_reached
          rintro (_ | _) c₁ hmore
          · rfl
          · have hc₁ := length_lt_of_toElement hmore
            apply bind_congr_of_reached
            intro x c₂ hx
            have hc₂ := hitem _ _ _ (within_eq_ok_iff.mp hx)
            apply ih (by omega) (by omega)

/-- More fuel than there are units is enough for elements. -/
theorem elements_eq_of_lt {item : Reader α β} (hitem : Shrinks item) {fuel fuel' : Nat}
    {c : Cursor α} (hfuel : c.rest.length < fuel) (hfuel' : c.rest.length < fuel') (index : Nat)
    (items : List β) :
  elements item fuel index items c = elements item fuel' index items c
  := by
  obtain ⟨n, rfl⟩ : ∃ n, fuel = n + 1 := Nat.exists_eq_add_one.mpr (by omega)
  obtain ⟨n', rfl⟩ : ∃ n', fuel' = n' + 1 := Nat.exists_eq_add_one.mpr (by omega)
  rw [elements, elements]
  apply bind_congr_of_reached
  rintro (_ | _) c₁ hmore
  · rfl
  · have hc₁ := Shrinks.toElement _ _ _ _ hmore
    apply bind_congr_of_reached
    intro x c₂ hx
    have hc₂ := hitem _ _ _ (within_eq_ok_iff.mp hx)
    apply elements_eq_of_le hitem (by omega) (by omega)

/-- More fuel than there are units is enough for members. -/
theorem members_eq_of_lt {item : Reader α β} (hitem : Shrinks item) {fuel fuel' : Nat}
    {c : Cursor α} (hfuel : c.rest.length < fuel) (hfuel' : c.rest.length < fuel') (first : Bool)
    (items : List (String × β)) :
  members item fuel first items c = members item fuel' first items c
  := by
  induction fuel generalizing fuel' first items c with
  | zero => cases hfuel
  | succ n ih =>
      obtain ⟨n', rfl⟩ : ∃ n', fuel' = n' + 1 := Nat.exists_eq_add_one.mpr (by omega)
      rw [members, members]
      apply bind_congr_of_reached
      rintro (_ | name) c₁ hname
      · rfl
      · have hc₁ := length_lt_of_memberName hname
        apply bind_congr_of_reached
        intro _ c₂ hcolon
        have hc₂ := Shrinks.compositional.colon _ _ _ hcolon
        apply bind_congr_of_reached
        intro x c₃ hx
        have hc₃ := hitem _ _ _ (within_eq_ok_iff.mp hx)
        apply ih (by omega) (by omega)

end Assay.Json.Reader

import Assay.Json.Reader
import Assay.Proofs.Except
import Assay.Proofs.Json.Induction

/-!
# Readings that succeed

What is known of the parts of a reading that succeeds.  A reading in two steps succeeds
when both do (`exists_of_bind`), lists of elements and members are read item by item
(`elements_eq_ok_iff`, `members_eq_ok_iff`), and a value is an array, an object or what `scalar`
reads (`value_cases`).  A value that was read with room for `depth` containers has no more
levels than that (`levels_le_of_value`).
-/

namespace Assay.Json.Reader

variable {α β γ : Type} [Source α]

/-! ## Steps -/

omit [Source α] in
/-- If a reading in two steps succeeds, both steps do. -/
theorem exists_of_bind {r : Reader α β} {f : β → Reader α γ} {c c'' : Cursor α} {y : γ}
    (h : (r >>= f) c = .ok (y, c'')) :
  ∃ x c', r c = .ok (x, c') ∧ f x c' = .ok (y, c'')
  := by
  change (r c >>= fun p => f p.1 p.2) = _ at h
  cases hr : r c with
  | error fault =>
      rw [hr] at h
      cases h
  | ok p =>
      rw [hr] at h
      use p.1, p.2, rfl, h

omit [Source α] in
theorem bind_eq_ok {r : Reader α β} {c c' : Cursor α} {x : β} (h : r c = .ok (x, c'))
    (f : β → Reader α γ) :
  (r >>= f) c = f x c'
  := by
  change (r c >>= fun p => f p.1 p.2) = _
  rw [h]
  rfl

omit [Source α] in
theorem bind_eq_error {r : Reader α β} {c : Cursor α} {fault : Fault} (h : r c = .error fault)
    (f : β → Reader α γ) :
  (r >>= f) c = .error fault
  := by
  change (r c >>= fun p => f p.1 p.2) = _
  rw [h]
  rfl

omit [Source α] in
/-- What is done in the second step matters only where the first one leads. -/
theorem bind_congr_of_reached {r : Reader α β} {f g : β → Reader α γ} {c : Cursor α}
    (h : ∀ x c', r c = .ok (x, c') → f x c' = g x c') :
  (r >>= f) c = (r >>= g) c
  := by
  cases hr : r c with
  | error fault => rw [bind_eq_error hr, bind_eq_error hr]
  | ok p =>
      obtain ⟨x, c'⟩ := p
      rw [bind_eq_ok hr, bind_eq_ok hr, h x c' hr]

omit [Source α] in
theorem within_eq_ok_iff {step : Step} {r : Reader α β} {c : Cursor α} {p : β × Cursor α} :
  within step r c = .ok p ↔ r c = .ok p
  := by
  rw [within]
  cases r c <;> simp

omit [Source α] in
theorem fail_ne_ok (cause : Cause) (c : Cursor α) (p : β × Cursor α) :
  (fail cause : Reader α β) c ≠ .ok p
  := by
  intro h
  cases h

theorem failNext_ne_ok (cause : Cause) (c : Cursor α) (p : β × Cursor α) :
  (failNext cause : Reader α β) c ≠ .ok p
  := by
  obtain ⟨us, place⟩ := c
  intro h
  cases us <;> cases h

theorem failBytes_ne_ok (c c' : Cursor α) (p : β × Cursor α) :
  (hexEscape.failBytes c : Reader α β) c' ≠ .ok p
  := by
  intro h
  rw [hexEscape.failBytes] at h
  generalize placeAfter 4 c.rest c.place = place at h
  cases place <;> cases h

omit [Source α] in
theorem onText_eq_ok_iff {r : Reader α β} {text : List α} {x : β} :
  r.onText text = .ok x ↔ ∃ c, r (.start text) = .ok (x, c)
  := by
  change (r (.start text)).map Prod.fst = .ok x ↔ _
  rw [map_eq_ok_iff]
  constructor
  · rintro ⟨⟨y, c⟩, h, rfl⟩
    use c, h
  · rintro ⟨c, h⟩
    use (x, c), h

/-! ## Lists -/

/-- The elements that were read before only stand in front of the others. -/
theorem elements_eq_map {item : Reader α β} {fuel index : Nat} {items : List β}
    {c : Cursor α} :
  elements item fuel index items c
    = (elements item fuel index [] c).map (Prod.map (items.reverse ++ ·) id)
  := by
  induction fuel generalizing index items c with
  | zero => rfl
  | succ n ih =>
      rw [elements, elements]
      cases hmore : toElement (index == 0) c with
      | error fault => rw [bind_eq_error hmore, bind_eq_error hmore, Except.map]
      | ok p =>
          obtain ⟨more, c₁⟩ := p
          rw [bind_eq_ok hmore, bind_eq_ok hmore]
          cases more with
          | false =>
              apply congrArg (fun xs => Except.ok (xs, c₁))
              symm
              apply List.append_nil
          | true =>
              cases hx : within (.index index) item c₁ with
              | error fault =>
                  rw [if_pos rfl, bind_eq_error hx, if_pos rfl, bind_eq_error hx, Except.map]
              | ok p =>
                  obtain ⟨x, c₂⟩ := p
                  rw [if_pos rfl, bind_eq_ok hx, if_pos rfl, bind_eq_ok hx, ih, @ih _ [x]]
                  cases elements item n (index + 1) [] c₂ with
                  | error fault => rfl
                  | ok p =>
                      obtain ⟨ys, c₃⟩ := p
                      simp [Except.map]

/-- The members that were read before only stand in front of the others. -/
theorem members_eq_map {item : Reader α β} {fuel : Nat} {first : Bool}
    {items : List (String × β)} {c : Cursor α} :
  members item fuel first items c
    = (members item fuel first [] c).map (Prod.map (items.reverse ++ ·) id)
  := by
  induction fuel generalizing first items c with
  | zero => rfl
  | succ n ih =>
      rw [members, members]
      cases hname : memberName first c with
      | error fault => rw [bind_eq_error hname, bind_eq_error hname, Except.map]
      | ok p =>
          obtain ⟨name, c₁⟩ := p
          rw [bind_eq_ok hname, bind_eq_ok hname]
          cases name with
          | none =>
              apply congrArg (fun xs => Except.ok (xs, c₁))
              symm
              apply List.append_nil
          | some name =>
              dsimp only
              cases hcolon : colon c₁ with
              | error fault => rw [bind_eq_error hcolon, bind_eq_error hcolon, Except.map]
              | ok p =>
                  obtain ⟨⟨⟩, c₂⟩ := p
                  rw [bind_eq_ok hcolon, bind_eq_ok hcolon]
                  cases hx : within (.key name) item c₂ with
                  | error fault => rw [bind_eq_error hx, bind_eq_error hx, Except.map]
                  | ok p =>
                      obtain ⟨x, c₃⟩ := p
                      rw [bind_eq_ok hx, bind_eq_ok hx, ih, @ih _ [(name, x)]]
                      cases members item n false [] c₃ with
                      | error fault => rfl
                      | ok p =>
                          obtain ⟨ys, c₄⟩ := p
                          simp [Except.map]

/-- The elements end, or one more is read and then the others. -/
theorem elements_eq_ok_iff {item : Reader α β} {fuel index : Nat} {xs : List β}
    {c c' : Cursor α} :
  elements item (fuel + 1) index [] c = .ok (xs, c') ↔
    (toElement (index == 0) c = .ok (false, c') ∧ xs = []) ∨
      ∃ c₁ x c₂ rest, toElement (index == 0) c = .ok (true, c₁) ∧ item c₁ = .ok (x, c₂) ∧
        elements item fuel (index + 1) [] c₂ = .ok (rest, c') ∧ xs = x :: rest
  := by
  rw [elements]
  constructor
  · intro h
    obtain ⟨more, c₁, hmore, h⟩ := exists_of_bind h
    cases more with
    | false =>
        cases h
        exact .inl ⟨hmore, rfl⟩
    | true =>
        obtain ⟨x, c₂, hx, h⟩ := exists_of_bind h
        rw [elements_eq_map] at h
        obtain ⟨⟨rest, c₃⟩, hrest, ⟨⟩⟩ := map_eq_ok_iff.mp h
        exact .inr ⟨c₁, x, c₂, rest, hmore, within_eq_ok_iff.mp hx, hrest, rfl⟩
  · rintro (⟨hmore, rfl⟩ | ⟨c₁, x, c₂, rest, hmore, hx, hrest, rfl⟩)
    · rw [bind_eq_ok hmore]
      rfl
    · rw [bind_eq_ok hmore]
      apply Eq.trans (bind_eq_ok (within_eq_ok_iff.mpr hx) _)
      rw [elements_eq_map, hrest]
      rfl

/-- The members end, or one more is read and then the others. -/
theorem members_eq_ok_iff {item : Reader α β} {fuel : Nat} {first : Bool}
    {ms : List (String × β)} {c c' : Cursor α} :
  members item (fuel + 1) first [] c = .ok (ms, c') ↔
    (memberName first c = .ok (none, c') ∧ ms = []) ∨
      ∃ name c₁ c₂ x c₃ rest, memberName first c = .ok (some name, c₁) ∧
        colon c₁ = .ok ((), c₂) ∧ item c₂ = .ok (x, c₃) ∧
        members item fuel false [] c₃ = .ok (rest, c') ∧ ms = (name, x) :: rest
  := by
  rw [members]
  constructor
  · intro h
    obtain ⟨found, c₁, hfound, h⟩ := exists_of_bind h
    cases found with
    | none =>
        cases h
        exact .inl ⟨hfound, rfl⟩
    | some name =>
        obtain ⟨⟨⟩, c₂, hcolon, h⟩ := exists_of_bind h
        obtain ⟨x, c₃, hx, h⟩ := exists_of_bind h
        rw [members_eq_map] at h
        obtain ⟨⟨rest, c₄⟩, hrest, ⟨⟩⟩ := map_eq_ok_iff.mp h
        exact .inr ⟨name, c₁, c₂, x, c₃, rest, hfound, hcolon, within_eq_ok_iff.mp hx, hrest, rfl⟩
  · rintro (⟨hfound, rfl⟩ | ⟨name, c₁, c₂, x, c₃, rest, hfound, hcolon, hx, hrest, rfl⟩)
    · rw [bind_eq_ok hfound]
      rfl
    · rw [bind_eq_ok hfound]
      apply Eq.trans (bind_eq_ok hcolon _)
      rw [bind_eq_ok (within_eq_ok_iff.mpr hx), members_eq_map, hrest]
      rfl

/-- What holds of all that is read as an element holds of the elements. -/
theorem forall_of_elements {item : Reader α β} {P : β → Prop}
    (hitem : ∀ c x c', item c = .ok (x, c') → P x) {fuel index : Nat} {xs : List β}
    {c c' : Cursor α} (h : elements item fuel index [] c = .ok (xs, c')) :
  ∀ x ∈ xs, P x
  := by
  induction fuel generalizing index xs c with
  | zero => cases fail_ne_ok _ _ _ h
  | succ n ih =>
      obtain ⟨-, rfl⟩ | ⟨c₁, x, c₂, rest, -, hx, hrest, rfl⟩ := elements_eq_ok_iff.mp h
      · simp
      · apply List.forall_mem_cons.mpr ⟨hitem _ _ _ hx, ih hrest⟩

/-- What holds of all that is read as the value of a member holds of the members. -/
theorem forall_of_members {item : Reader α β} {P : β → Prop}
    (hitem : ∀ c x c', item c = .ok (x, c') → P x) {fuel : Nat} {first : Bool}
    {ms : List (String × β)} {c c' : Cursor α}
    (h : members item fuel first [] c = .ok (ms, c')) :
  ∀ m ∈ ms, P m.2
  := by
  induction fuel generalizing first ms c with
  | zero => cases fail_ne_ok _ _ _ h
  | succ n ih =>
      obtain ⟨-, rfl⟩ | ⟨name, c₁, c₂, x, c₃, rest, -, -, hx, hrest, rfl⟩ :=
        members_eq_ok_iff.mp h
      · simp
      · intro m hm
        obtain rfl | hm := List.mem_cons.mp hm
        · apply hitem _ _ _ hx
        · apply ih hrest m hm

omit [Source α] in
theorem room_eq (c : Cursor α) :
  (room : Reader α Nat) c = .ok (c.rest.length + 1, c)
  := rfl

/-- An array is its elements and a closing bracket. -/
theorem arrayBody_eq_ok_iff {item : Reader α β} {xs : List β} {c c' : Cursor α} :
  arrayBody item c = .ok (xs, c') ↔
    ∃ c₁, elements item (c.rest.length + 1) 0 [] c = .ok (xs, c₁) ∧
      closeArray c₁ = .ok ((), c')
  := by
  rw [arrayBody, bind_eq_ok (room_eq c)]
  constructor
  · intro h
    obtain ⟨ys, c₁, hys, h⟩ := exists_of_bind h
    obtain ⟨⟨⟩, c₂, hclose, h⟩ := exists_of_bind h
    cases h
    use c₁, hys, hclose
  · rintro ⟨c₁, hxs, hclose⟩
    rw [bind_eq_ok hxs, bind_eq_ok hclose]
    rfl

/-- An object is its members and a closing brace. -/
theorem objectBody_eq_ok_iff {item : Reader α β} {xs : List (String × β)} {c c' : Cursor α} :
  objectBody item c = .ok (xs, c') ↔
    ∃ c₁, members item (c.rest.length + 1) true [] c = .ok (xs, c₁) ∧
      closeObject c₁ = .ok ((), c')
  := by
  rw [objectBody, bind_eq_ok (room_eq c)]
  constructor
  · intro h
    obtain ⟨ys, c₁, hys, h⟩ := exists_of_bind h
    obtain ⟨⟨⟩, c₂, hclose, h⟩ := exists_of_bind h
    cases h
    use c₁, hys, hclose
  · rintro ⟨c₁, hxs, hclose⟩
    rw [bind_eq_ok hxs, bind_eq_ok hclose]
    rfl

/-! ## Values -/

/-- A value is an array or an object, for which there has to be room, or what `scalar`
reads. -/
theorem value_cases {depth : Nat} {v : Json} {c c' : Cursor α}
    (h : value depth c = .ok (v, c')) :
  (∃ d c₁ c₂ items, depth = d + 1 ∧ next c = .ok (some '[', c₁) ∧ skip c₁ = .ok ((), c₂) ∧
      arrayBody (value d) c₂ = .ok (items, c') ∧ v = .array items) ∨
    (∃ d c₁ c₂ members, depth = d + 1 ∧ next c = .ok (some '\x7b', c₁) ∧
      skip c₁ = .ok ((), c₂) ∧ objectBody (value d) c₂ = .ok (members, c') ∧
      v = .object members) ∨
    ∃ ch c₁, next c = .ok (some ch, c₁) ∧ scalar ch c₁ = .ok (v, c')
  := by
  rw [value.eq_def] at h
  obtain ⟨looks, c₁, hnext, h⟩ := exists_of_bind h
  split at h
  next => cases fail_ne_ok _ _ _ h
  next =>
    cases depth with
    | zero => cases failNext_ne_ok _ _ _ h
    | succ d =>
        obtain ⟨⟨⟩, c₂, hskip, h⟩ := exists_of_bind h
        obtain ⟨items, c₃, hitems, h⟩ := exists_of_bind h
        cases h
        exact .inl ⟨d, c₁, c₂, items, rfl, hnext, hskip, hitems, rfl⟩
  next =>
    cases depth with
    | zero => cases failNext_ne_ok _ _ _ h
    | succ d =>
        obtain ⟨⟨⟩, c₂, hskip, h⟩ := exists_of_bind h
        obtain ⟨members, c₃, hmembers, h⟩ := exists_of_bind h
        cases h
        exact .inr (.inl ⟨d, c₁, c₂, members, rfl, hnext, hskip, hmembers, rfl⟩)
  next ch _ _ => exact .inr (.inr ⟨ch, c₁, hnext, h⟩)

/-- What `scalar` reads has no parts, and it reads a string only after a quotation mark. -/
theorem scalar_cases {ch : Char} {v : Json} {c c' : Cursor α} (h : scalar ch c = .ok (v, c')) :
  v.levels = 0 ∧
    ∀ s, v = .string s → ch = '"' ∧
      ∃ c₁, skip c = .ok ((), c₁) ∧ stringBody c₁ = .ok (s, c')
  := by
  rw [scalar] at h
  split_ifs at h with hn ht hf hminus hdigit hquote
  · obtain ⟨-, c₁, -, h⟩ := exists_of_bind h
    obtain ⟨-, c₂, -, h⟩ := exists_of_bind h
    cases h
    simp [levels]
  · obtain ⟨-, c₁, -, h⟩ := exists_of_bind h
    obtain ⟨-, c₂, -, h⟩ := exists_of_bind h
    cases h
    simp [levels]
  · obtain ⟨-, c₁, -, h⟩ := exists_of_bind h
    obtain ⟨-, c₂, -, h⟩ := exists_of_bind h
    cases h
    simp [levels]
  · obtain ⟨-, c₁, -, h⟩ := exists_of_bind h
    obtain ⟨n, c₂, -, h⟩ := exists_of_bind h
    cases h
    simp [levels]
  · obtain ⟨n, c₁, -, h⟩ := exists_of_bind h
    cases h
    simp [levels]
  · obtain ⟨⟨⟩, c₁, hskip, h⟩ := exists_of_bind h
    obtain ⟨s, c₂, hbody, h⟩ := exists_of_bind h
    cases h
    use rfl
    rintro t ⟨⟩
    use hquote, c₁, hskip, hbody
  · cases failNext_ne_ok _ _ _ h

/-- A string starts with a quotation mark. -/
theorem value_string_iff {depth : Nat} {s : String} {c c' : Cursor α} :
  value depth c = .ok (.string s, c') ↔
    ∃ c₁ c₂, next c = .ok (some '"', c₁) ∧ skip c₁ = .ok ((), c₂) ∧
      stringBody c₂ = .ok (s, c')
  := by
  constructor
  · intro h
    obtain ⟨_, _, _, _, -, -, -, -, ⟨⟩⟩ | ⟨_, _, _, _, -, -, -, -, ⟨⟩⟩ | ⟨ch, c₁, hnext, h⟩ :=
      value_cases h
    obtain ⟨rfl, c₂, hskip, hbody⟩ := (scalar_cases h).2 s rfl
    use c₁, c₂, hnext, hskip, hbody
  · rintro ⟨c₁, c₂, hnext, hskip, hbody⟩
    rw [value.eq_def, bind_eq_ok hnext]
    apply Eq.trans (bind_eq_ok hskip _)
    rw [bind_eq_ok hbody]
    rfl

/-- An array starts with an opening bracket. -/
theorem value_array_iff {depth : Nat} {items : List Json} {c c' : Cursor α} :
  value depth c = .ok (.array items, c') ↔
    ∃ d c₁ c₂, depth = d + 1 ∧ next c = .ok (some '[', c₁) ∧ skip c₁ = .ok ((), c₂) ∧
      arrayBody (value d) c₂ = .ok (items, c')
  := by
  constructor
  · intro h
    obtain ⟨d, c₁, c₂, items, hd, hnext, hskip, hbody, ⟨⟩⟩ | ⟨_, _, _, _, -, -, -, -, ⟨⟩⟩ |
      ⟨ch, c₁, -, h⟩ := value_cases h
    · use d, c₁, c₂, hd, hnext, hskip, hbody
    · cases (scalar_cases h).1
  · rintro ⟨d, c₁, c₂, rfl, hnext, hskip, hbody⟩
    rw [value.eq_def, bind_eq_ok hnext]
    apply Eq.trans (bind_eq_ok hskip _)
    rw [bind_eq_ok hbody]
    rfl

/-- An object starts with an opening brace. -/
theorem value_object_iff {depth : Nat} {ms : List (String × Json)} {c c' : Cursor α} :
  value depth c = .ok (.object ms, c') ↔
    ∃ d c₁ c₂, depth = d + 1 ∧ next c = .ok (some '\x7b', c₁) ∧ skip c₁ = .ok ((), c₂) ∧
      objectBody (value d) c₂ = .ok (ms, c')
  := by
  constructor
  · intro h
    obtain ⟨_, _, _, _, -, -, -, -, ⟨⟩⟩ | ⟨d, c₁, c₂, ms, hd, hnext, hskip, hbody, ⟨⟩⟩ |
      ⟨ch, c₁, -, h⟩ := value_cases h
    · use d, c₁, c₂, hd, hnext, hskip, hbody
    · cases (scalar_cases h).1
  · rintro ⟨d, c₁, c₂, rfl, hnext, hskip, hbody⟩
    rw [value.eq_def, bind_eq_ok hnext]
    apply Eq.trans (bind_eq_ok hskip _)
    rw [bind_eq_ok hbody]
    rfl

/-- A value that was read has no more levels than there was room for. -/
theorem levels_le_of_value {depth : Nat} {v : Json} {c c' : Cursor α}
    (h : value depth c = .ok (v, c')) :
  v.levels ≤ depth
  := by
  induction depth generalizing v c c' with
  | zero =>
      obtain ⟨d, _, _, _, hd, -⟩ | ⟨d, _, _, _, hd, -⟩ | ⟨ch, c₁, -, h⟩ := value_cases h
      · cases hd
      · cases hd
      · apply Nat.le_of_eq (scalar_cases h).1
  | succ n ih =>
      obtain ⟨d, c₁, c₂, items, hd, -, -, h, rfl⟩ | ⟨d, c₁, c₂, members, hd, -, -, h, rfl⟩ |
        ⟨ch, c₁, -, h⟩ := value_cases h
      · cases hd
        obtain ⟨c₃, helements, -⟩ := arrayBody_eq_ok_iff.mp h
        apply levels_array_le_iff.mpr
        apply forall_of_elements (fun c x c' hx => ih hx) helements
      · cases hd
        obtain ⟨c₃, hmembers, -⟩ := objectBody_eq_ok_iff.mp h
        apply levels_object_le_iff.mpr
        apply forall_of_members (fun c x c' hx => ih hx) hmembers
      · rw [(scalar_cases h).1]
        apply Nat.zero_le

/-- Elements that can all be read by another reader are read by it. -/
theorem elements_of_forall {item item' : Reader α β} {fuel index : Nat} {xs : List β}
    {c c' : Cursor α} (h : elements item fuel index [] c = .ok (xs, c'))
    (hitem : ∀ x ∈ xs, ∀ c c', item c = .ok (x, c') → item' c = .ok (x, c')) :
  elements item' fuel index [] c = .ok (xs, c')
  := by
  induction fuel generalizing index xs c with
  | zero => cases fail_ne_ok _ _ _ h
  | succ n ih =>
      apply elements_eq_ok_iff.mpr
      obtain hend | ⟨c₁, x, c₂, rest, hmore, hx, hrest, rfl⟩ := elements_eq_ok_iff.mp h
      · exact .inl hend
      · obtain ⟨hitemx, hitem⟩ := List.forall_mem_cons.mp hitem
        exact .inr ⟨c₁, x, c₂, rest, hmore, hitemx _ _ hx, ih hrest hitem, rfl⟩

/-- Members whose values can all be read by another reader are read by it. -/
theorem members_of_forall {item item' : Reader α β} {fuel : Nat} {first : Bool}
    {ms : List (String × β)} {c c' : Cursor α} (h : members item fuel first [] c = .ok (ms, c'))
    (hitem : ∀ m ∈ ms, ∀ c c', item c = .ok (m.2, c') → item' c = .ok (m.2, c')) :
  members item' fuel first [] c = .ok (ms, c')
  := by
  induction fuel generalizing first ms c with
  | zero => cases fail_ne_ok _ _ _ h
  | succ n ih =>
      apply members_eq_ok_iff.mpr
      obtain hend | ⟨name, c₁, c₂, x, c₃, rest, hname, hcolon, hx, hrest, rfl⟩ :=
        members_eq_ok_iff.mp h
      · exact .inl hend
      · obtain ⟨hitemx, hitem⟩ := List.forall_mem_cons.mp hitem
        exact .inr ⟨name, c₁, c₂, x, c₃, rest, hname, hcolon, hitemx _ _ hx, ih hrest hitem, rfl⟩

/-- What `scalar` reads is a value, whatever the room. -/
theorem value_of_scalar {ch : Char} {v : Json} {c c₁ c' : Cursor α}
    (hnext : next c = .ok (some ch, c₁)) (h : scalar ch c₁ = .ok (v, c')) (depth : Nat) :
  value depth c = .ok (v, c')
  := by
  have hbracket : ch ≠ '[' := by
    rintro rfl
    cases failNext_ne_ok _ _ _ h
  have hbrace : ch ≠ '\x7b' := by
    rintro rfl
    cases failNext_ne_ok _ _ _ h
  rw [value.eq_def, bind_eq_ok hnext, ← h]
  refine congrFun (?_ : _ = (scalar ch : Reader α Json)) c₁
  split <;> simp_all

/-- A value is read whenever there is room for its levels. -/
theorem value_of_levels_le {depth depth' : Nat} {v : Json} {c c' : Cursor α}
    (h : value depth c = .ok (v, c')) (hlevels : v.levels ≤ depth') :
  value depth' c = .ok (v, c')
  := by
  induction v using Json.induction generalizing depth depth' c c' with
  | null | boolean | number | string =>
      obtain ⟨_, _, _, _, -, -, -, -, ⟨⟩⟩ | ⟨_, _, _, _, -, -, -, -, ⟨⟩⟩ | ⟨ch, c₁, hnext, h⟩ :=
        value_cases h
      apply value_of_scalar hnext h
  | array items ih =>
      obtain ⟨d', rfl, hparts⟩ := exists_of_levels_array_le hlevels
      obtain ⟨d, c₁, c₂, -, hnext, hskip, hbody⟩ := value_array_iff.mp h
      obtain ⟨c₃, hitems, hclose⟩ := arrayBody_eq_ok_iff.mp hbody
      have hitems := elements_of_forall hitems fun v hv _ _ h => ih v hv h (hparts v hv)
      exact value_array_iff.mpr ⟨d', c₁, c₂, rfl, hnext, hskip,
        arrayBody_eq_ok_iff.mpr ⟨c₃, hitems, hclose⟩⟩
  | object members ih =>
      obtain ⟨d', rfl, hparts⟩ := exists_of_levels_object_le hlevels
      obtain ⟨d, c₁, c₂, -, hnext, hskip, hbody⟩ := value_object_iff.mp h
      obtain ⟨c₃, hmembers, hclose⟩ := objectBody_eq_ok_iff.mp hbody
      have hmembers := members_of_forall hmembers fun m hm _ _ h => ih m hm h (hparts m hm)
      exact value_object_iff.mpr ⟨d', c₁, c₂, rfl, hnext, hskip,
        objectBody_eq_ok_iff.mpr ⟨c₃, hmembers, hclose⟩⟩

/-- A document is its value and nothing more. -/
theorem exists_next_of_document {text : List α} {v : Json}
    (h : document.onText text = .ok v) :
  ∃ c c', value maxDepth (.start text) = .ok (v, c) ∧ next c = .ok (none, c')
  := by
  obtain ⟨c, h⟩ := onText_eq_ok_iff.mp h
  obtain ⟨w, c₁, hvalue, h⟩ := exists_of_bind h
  obtain ⟨look, c₂, hnext, h⟩ := exists_of_bind h
  cases look with
  | none =>
      cases h
      use c₁, c, hvalue, hnext
  | some => cases failNext_ne_ok _ _ _ h

/-- A document starts with its value. -/
theorem exists_value_of_document {text : List α} {v : Json}
    (h : document.onText text = .ok v) :
  ∃ c, value maxDepth (.start text) = .ok (v, c)
  := by
  obtain ⟨c, -, hvalue, -⟩ := exists_next_of_document h
  use c, hvalue

end Assay.Json.Reader

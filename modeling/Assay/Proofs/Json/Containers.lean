import Assay.Proofs.Json.Integer

/-!
# Reading containers

The text of an array is made of the texts of its elements, with commas between them, and that
of an object of the texts of its members; white space may stand around each of them.
`Takes r us x` says that a reader takes a text for `x` up to white space at its end.  When
the texts of the parts are taken for the parts, the text of the container is read as the
container (`Reads.value_array`, `Reads.value_object`).  The parts after the first are read by
induction, up to the closing bracket or brace.
-/

namespace Assay.Json.Reader

variable {β γ : Type}

/-- Two runs of a reader that agree go on alike. -/
theorem bind_eq_bind {r : Reader Char β} {c c' : Cursor Char} (h : r c = r c')
    (f : β → Reader Char γ) :
  (r >>= f) c = (r >>= f) c'
  := by
  show (r c >>= fun p => f p.1 p.2) = _
  rw [h]
  rfl

/-! ## White space -/

/-- There is only white space. -/
def Spaces (us : List Char) : Prop := ∀ u ∈ us, isSpace u = true

theorem spaces_nil :
  Spaces []
  := List.forall_mem_nil _

theorem isSpace_iff {c : Char} :
  isSpace c = true ↔ c = ' ' ∨ c = '\n' ∨ c = '\t' ∨ c = '\r'
  := by
  simp [isSpace, or_assoc]

theorem delimited_append {us vs : List Char} (hus : Spaces us) (hvs : Delimited vs) :
  Delimited (us ++ vs)
  := by
  cases us with
  | nil => exact hvs
  | cons u us =>
      apply delimited_cons
      obtain rfl | rfl | rfl | rfl := isSpace_iff.mp (hus u List.mem_cons_self) <;> decide

/-- A text is white space, or has a first character that is none. -/
theorem spaces_or_exists (us : List Char) :
  Spaces us ∨ ∃ ss u vs, us = ss ++ u :: vs ∧ Spaces ss ∧ isSpace u = false
  := by
  induction us with
  | nil => exact .inl spaces_nil
  | cons u us ih =>
      cases hu : isSpace u with
      | false => exact .inr ⟨[], u, us, rfl, spaces_nil, hu⟩
      | true =>
          obtain h | ⟨ss, v, vs, rfl, hss, hv⟩ := ih
          · exact .inl (List.forall_mem_cons.mpr ⟨hu, h⟩)
          · exact .inr ⟨u :: ss, v, vs, rfl, List.forall_mem_cons.mpr ⟨hu, hss⟩, hv⟩

theorem skipSpace_append {ss : List Char} (h : Spaces ss) (us : List Char) (place : Place) :
  skipSpace (ss ++ us) place = skipSpace us (endPlace ss place)
  := by
  induction ss generalizing place with
  | nil => rfl
  | cons s ss ih =>
      obtain ⟨hs, h⟩ := List.forall_mem_cons.mp h
      rw [List.cons_append, skipSpace, if_pos (show isSpace (glyph s) = true from hs), ih h]
      rfl

/-- White space is stepped over. -/
theorem next_append {ss : List Char} (h : Spaces ss) (us : List Char) (place : Place) :
  next ⟨ss ++ us, place⟩ = next ⟨us, endPlace ss place⟩
  := by
  have hskip := skipSpace_append h us place
  show Except.ok ((skipSpace (ss ++ us) place).rest.head?.map glyph, skipSpace (ss ++ us) place) = _
  rw [hskip]
  rfl

/-- White space is stepped over up to the first character that is none. -/
theorem next_append_cons {ss : List Char} (h : Spaces ss) {u : Char} (hu : isSpace u = false)
    (us : List Char) (place : Place) :
  next ⟨ss ++ u :: us, place⟩ = .ok (some u, ⟨u :: us, endPlace ss place⟩)
  := by
  rw [next_append h]
  apply next_eq (u := u) hu

theorem skipSpace_skipSpace (us : List Char) (place : Place) :
  skipSpace (skipSpace us place).rest (skipSpace us place).place = skipSpace us place
  := by
  induction us generalizing place with
  | nil => rfl
  | cons u us ih =>
      rw [skipSpace]
      split_ifs with hu
      · apply ih
      · apply if_neg hu

/-- Where white space was stepped over there is none. -/
theorem next_of_next {c c' : Cursor Char} {look : Option Char} (h : next c = .ok (look, c')) :
  next c' = .ok (look, c')
  := by
  obtain ⟨rfl, rfl⟩ := Prod.mk.inj (Except.ok.inj h)
  have hskip := skipSpace_skipSpace c.rest c.place
  show Except.ok ((skipSpace (skipSpace _ _).rest (skipSpace _ _).place).rest.head?.map glyph,
    skipSpace (skipSpace _ _).rest (skipSpace _ _).place) = _
  rw [hskip]

/-- White space in front of a value says nothing. -/
theorem value_append {ss : List Char} (h : Spaces ss) (depth : Nat) (us : List Char)
    (place : Place) :
  value depth ⟨ss ++ us, place⟩ = value depth ⟨us, endPlace ss place⟩
  := by
  rw [value.eq_def]
  apply bind_eq_bind (next_append h us place)

/-- A value starts with a character that does not end an array. -/
theorem exists_next_of_value {depth : Nat} {v : Json} {c c' : Cursor Char}
    (h : value depth c = .ok (v, c')) :
  ∃ u c₁, next c = .ok (some u, c₁) ∧ u ≠ ']' ∧ value depth c₁ = .ok (v, c')
  := by
  have hstay : ∀ {look : Option Char} {c₁ : Cursor Char}, next c = .ok (look, c₁) →
      value depth c₁ = .ok (v, c') := by
    intro look c₁ hnext
    rw [value.eq_def, bind_eq_ok hnext] at h
    rw [value.eq_def, bind_eq_ok (next_of_next hnext)]
    exact h
  obtain ⟨d, c₁, c₂, items, -, hnext, -⟩ | ⟨d, c₁, c₂, members, -, hnext, -⟩ |
    ⟨ch, c₁, hnext, hscalar⟩ := value_cases h
  · use '[', c₁, hnext, by decide, hstay hnext
  · use '\x7b', c₁, hnext, by decide, hstay hnext
  · use ch, c₁, hnext, ?_, hstay hnext
    rintro rfl
    cases failNext_ne_ok _ _ _ hscalar

/-! ## Texts of parts -/

/-- In front of a text that does not go on with a number, the reader takes the units for the
result, up to white space at their end. -/
def Takes (r : Reader Char β) (us : List Char) (x : β) : Prop :=
  ∀ rest place, Delimited rest → ∃ used left, us = used ++ left ∧ Spaces left ∧
    r ⟨us ++ rest, place⟩ = .ok (x, ⟨left ++ rest, endPlace used place⟩)

theorem ReadsDelimited.takes {r : Reader Char β} {us : List Char} {x : β}
    (h : ReadsDelimited r us x) :
  Takes r us x
  := by
  intro rest place hrest
  use us, [], (List.append_nil us).symm, spaces_nil, h rest place hrest

/-- White space may stand in front of the text of a value. -/
theorem Takes.append {depth : Nat} {ss us : List Char} {v : Json} (hss : Spaces ss)
    (h : Takes (value depth) us v) :
  Takes (value depth) (ss ++ us) v
  := by
  intro rest place hrest
  obtain ⟨used, left, rfl, hleft, hv⟩ := h rest (endPlace ss place) hrest
  use ss ++ used, left, (List.append_assoc _ _ _).symm, hleft
  rw [List.append_assoc, value_append hss, hv, endPlace_append]

/-- A text that is taken as a value is a document. -/
theorem document_of_takes {us : List Char} {v : Json} (h : Takes (value maxDepth) us v) :
  document.onText us = .ok v
  := by
  obtain ⟨used, left, -, hleft, hv⟩ := h [] ⟨1, 0⟩ delimited_nil
  rw [List.append_nil] at hv
  apply onText_eq_ok_iff.mpr
  use ⟨[], endPlace left (endPlace used ⟨1, 0⟩)⟩
  apply Eq.trans (bind_eq_ok hv _)
  apply Eq.trans (bind_eq_bind (next_append hleft [] _) _)
  rfl

/-- The text of a member is its quoted name, a colon and a text of its value.  White space may
stand in front of it. -/
def TakesMember (depth : Nat) (us : List Char) (m : String × Json) : Prop :=
  ∃ ss vs, us = ss ++ (quoteChars m.1.toList ++ ':' :: vs) ∧ Spaces ss ∧
    Takes (value depth) vs m.2

/-- The texts after the first, each after a comma. -/
def following (texts : List (List Char)) : List Char :=
  texts.flatMap fun us => ',' :: us

/-- The texts, with commas between them. -/
def commas : List (List Char) → List Char
  | [] => []
  | us :: texts => us ++ following texts

theorem following_cons (us : List Char) (texts : List (List Char)) :
  following (us :: texts) = ',' :: (us ++ following texts)
  := by
  rw [following, List.flatMap_cons, List.cons_append, following]

theorem length_le_length_following (texts : List (List Char)) :
  texts.length ≤ (following texts).length
  := by
  induction texts with
  | nil => apply Nat.le_refl
  | cons us texts ih =>
      rw [following_cons, List.length_cons, List.length_cons, List.length_append]
      omega

/-- The end of a part does not go on with a number. -/
theorem delimited_following {u : Char} (h : u.isDigit = false ∧ u ≠ '.' ∧ u ≠ 'e' ∧ u ≠ 'E')
    (texts : List (List Char)) {closing : List Char} (hclosing : Spaces closing)
    (rest : List Char) :
  Delimited (following texts ++ (closing ++ u :: rest))
  := by
  cases texts with
  | nil => apply delimited_append hclosing (delimited_cons h rest)
  | cons us texts => apply delimited_cons (by decide)

/-! ## Elements -/

/-- In front of a value the reader finds a first element. -/
theorem exists_toElement_first {depth : Nat} {v : Json} {c c' : Cursor Char}
    (h : value depth c = .ok (v, c')) :
  ∃ c₁, toElement true c = .ok (true, c₁) ∧ value depth c₁ = .ok (v, c')
  := by
  obtain ⟨u, c₁, hnext, hu, hv⟩ := exists_next_of_value h
  use c₁, ?_, hv
  rw [toElement, bind_eq_ok hnext]
  refine congrFun (?_ : _ = (pure true : Reader Char Bool)) c₁
  split <;> simp_all

/-- In front of a comma and a value the reader finds another element. -/
theorem exists_toElement_following {depth : Nat} {v : Json} {ss us : List Char} {place : Place}
    {c' : Cursor Char} (hss : Spaces ss)
    (h : value depth ⟨us, endPlace (ss ++ [',']) place⟩ = .ok (v, c')) :
  ∃ c₁, toElement false ⟨ss ++ ',' :: us, place⟩ = .ok (true, c₁) ∧
    value depth c₁ = .ok (v, c')
  := by
  obtain ⟨u, c₁, hnext, hu, hv⟩ := exists_next_of_value h
  use c₁, ?_, hv
  rw [endPlace_append] at hnext
  rw [toElement, bind_eq_ok (next_append_cons hss (by decide) us place)]
  apply Eq.trans ((Reads.skip ',').run_bind _ us _)
  rw [bind_eq_ok hnext]
  refine congrFun (?_ : _ = (pure true : Reader Char Bool)) c₁
  split <;> simp_all

/-- In front of a closing bracket the reader finds the end of the elements. -/
theorem toElement_end {ss : List Char} (hss : Spaces ss) (first : Bool) (rest : List Char)
    (place : Place) :
  toElement first ⟨ss ++ ']' :: rest, place⟩ = .ok (false, ⟨']' :: rest, endPlace ss place⟩)
  := by
  rw [toElement, bind_eq_ok (next_append_cons hss (by decide) rest place)]
  rfl

/-- The elements after one that was read are read up to the end of the array.  What is left
of the text of that one is `left`. -/
theorem elements_following {depth : Nat} {texts : List (List Char)} {items : List Json}
    (hitems : List.Forall₂ (Takes (value depth)) texts items) {closing left : List Char}
    (hclosing : Spaces closing) (hleft : Spaces left) {fuel : Nat} (hfuel : texts.length < fuel)
    (index : Nat) (rest : List Char) (place : Place) :
  elements (value depth) fuel (index + 1) []
      ⟨left ++ (following texts ++ (closing ++ ']' :: rest)), place⟩
    = .ok (items, ⟨']' :: rest, endPlace (left ++ (following texts ++ closing)) place⟩)
  := by
  obtain ⟨fuel, rfl⟩ : ∃ n, fuel = n + 1 := Nat.exists_eq_add_one.mpr (by omega)
  -- What is left of one text stands in front of the next comma, so `left` varies.
  induction hitems generalizing left fuel index place with
  | nil =>
      have hspaces : Spaces (left ++ closing) := List.forall_mem_append.mpr ⟨hleft, hclosing⟩
      have hend := toElement_end hspaces false rest place
      rw [List.append_assoc] at hend
      exact elements_eq_ok_iff.mpr (.inl ⟨hend, rfl⟩)
  | @cons us v texts items hv _ ih =>
      obtain ⟨fuel, rfl⟩ : ∃ n, fuel = n + 1 :=
        Nat.exists_eq_add_one.mpr (by rw [List.length_cons] at hfuel; omega)
      obtain ⟨used, left', rfl, hleft', hv⟩ := hv (following texts ++ (closing ++ ']' :: rest))
        (endPlace (left ++ [',']) place) (delimited_following (by decide) texts hclosing rest)
      obtain ⟨c₁, hmore, hv⟩ := exists_toElement_following hleft hv
      have hrest := ih hleft' (index + 1) (endPlace used (endPlace (left ++ [',']) place)) fuel
        (Nat.lt_of_succ_lt_succ hfuel)
      rw [following_cons, List.cons_append, List.append_assoc (used ++ left')]
      refine elements_eq_ok_iff.mpr (.inr ⟨c₁, v, _, items, hmore, hv, ?_, rfl⟩)
      rw [hrest, ← endPlace_append, ← endPlace_append]
      simp only [List.append_assoc, List.cons_append, List.nil_append]

/-- An array is read after its opening bracket. -/
theorem Reads.arrayBody {depth : Nat} {texts : List (List Char)} {items : List Json}
    (hitems : List.Forall₂ (Takes (value depth)) texts items) {closing : List Char}
    (hclosing : Spaces closing) :
  Reads (arrayBody (value depth)) (commas texts ++ closing ++ [']']) items
  := by
  intro rest place
  have hclose : ∀ place : Place, closeArray ⟨']' :: rest, place⟩
      = .ok ((), ⟨rest, endPlace [']'] place⟩) := fun _ => rfl
  rw [endPlace_append]
  refine arrayBody_eq_ok_iff.mpr ⟨_, ?_, hclose _⟩
  rw [List.append_assoc, List.append_assoc, List.singleton_append]
  cases hitems with
  | nil => exact elements_eq_ok_iff.mpr (.inl ⟨toElement_end hclosing true rest place, rfl⟩)
  | @cons us v texts items hv hitems =>
      rw [commas, List.append_assoc us, List.append_assoc us, endPlace_append]
      obtain ⟨used, left, rfl, hleft, hv⟩ := hv (following texts ++ (closing ++ ']' :: rest)) place
        (delimited_following (by decide) texts hclosing rest)
      obtain ⟨c₁, hmore, hv⟩ := exists_toElement_first hv
      have hroom : texts.length
          < (used ++ left ++ (following texts ++ (closing ++ ']' :: rest))).length := by
        have hlength := length_le_length_following texts
        simp only [List.length_append, List.length_cons]
        omega
      have hrest := elements_following hitems hclosing hleft hroom 0 rest (endPlace used place)
      rw [endPlace_append used, ← endPlace_append left]
      exact elements_eq_ok_iff.mpr (.inr ⟨c₁, v, _, items, hmore, hv, hrest, rfl⟩)

/-! ## Members -/

theorem Reads.within {r : Reader Char β} {us : List Char} {x : β} (h : Reads r us x)
    (step : Step) :
  Reads (Reader.within step r) us x
  := by
  intro rest place
  apply within_eq_ok_iff.mpr (h rest place)

/-- A quoted string is read as a name. -/
theorem Reads.name (name : String) :
  Reads (do Reader.skip; return some (← Reader.stringBody)) (quoteChars name.toList) (some name)
  := by
  apply Reads.skip_bind
  have hread := (Reads.stringBody name.toList).bind_pure some
  rw [String.ofList_toList] at hread
  exact hread

/-- The name of the first member is read from its quoted form. -/
theorem Reads.memberName_first {ss : List Char} (hss : Spaces ss) (name : String) :
  Reads (memberName true) (ss ++ quoteChars name.toList) (some name)
  := by
  apply Reads.within
  intro rest place
  have hmember : ∀ us, toMember true ⟨ss ++ '"' :: us, place⟩
      = .ok (true, ⟨'"' :: us, endPlace ss place⟩) := by
    intro us
    rw [toMember, bind_eq_ok (next_append_cons hss (by decide) us place)]
    rfl
  rw [List.append_assoc, endPlace_append]
  rw [quoteChars, List.cons_append, List.cons_append, bind_eq_ok (hmember _)]
  apply Reads.name name rest (endPlace ss place)

/-- The name of every other member is read from a comma and its quoted form. -/
theorem Reads.memberName_following {left ss : List Char} (hleft : Spaces left)
    (hss : Spaces ss) (name : String) :
  Reads (memberName false) (left ++ ',' :: (ss ++ quoteChars name.toList)) (some name)
  := by
  apply Reads.within
  intro rest place
  have hmember : ∀ us, toMember false ⟨left ++ ',' :: (ss ++ '"' :: us), place⟩
      = .ok (true, ⟨'"' :: us, endPlace (left ++ ',' :: ss) place⟩) := by
    intro us
    rw [toMember, bind_eq_ok (next_append_cons hleft (by decide) _ place)]
    apply Eq.trans ((Reads.skip ',').run_bind _ (ss ++ '"' :: us) _)
    rw [bind_eq_ok (next_append_cons hss (by decide) us _), endPlace_append]
    rfl
  rw [← List.cons_append, ← List.append_assoc, endPlace_append]
  rw [List.append_assoc, List.append_assoc, List.cons_append, quoteChars, List.cons_append,
    List.cons_append, bind_eq_ok (hmember _)]
  apply Reads.name name rest (endPlace (left ++ ',' :: ss) place)

/-- In front of a closing brace there is no name. -/
theorem memberName_end {ss : List Char} (hss : Spaces ss) (first : Bool) (rest : List Char)
    (place : Place) :
  memberName first ⟨ss ++ '\x7d' :: rest, place⟩
    = .ok (none, ⟨'\x7d' :: rest, endPlace ss place⟩)
  := by
  apply within_eq_ok_iff.mpr
  have hmember : toMember first ⟨ss ++ '\x7d' :: rest, place⟩
      = .ok (false, ⟨'\x7d' :: rest, endPlace ss place⟩) := by
    rw [toMember, bind_eq_ok (next_append_cons hss (by decide) rest place)]
    rfl
  rw [bind_eq_ok hmember]
  rfl

theorem Reads.colon :
  Reads (Reader.colon : Reader Char Unit) [':'] ()
  := by
  apply Reads.next_bind rfl
  apply Reads.skip

/-- A member is read in front of the others. -/
theorem members_cons {depth : Nat} {first : Bool} {us vs rest : List Char} {m : String × Json}
    (hname : Reads (memberName first) us (some m.1)) (hv : Takes (value depth) vs m.2)
    (hrest : Delimited rest) {fuel : Nat} {ms : List (String × Json)} {place : Place}
    {c : Cursor Char}
    (hms : ∀ used left, vs = used ++ left → Spaces left →
      members (value depth) fuel false []
        ⟨left ++ rest, endPlace (us ++ ':' :: used) place⟩ = .ok (ms, c)) :
  members (value depth) (fuel + 1) first [] ⟨us ++ ':' :: (vs ++ rest), place⟩
    = .ok (m :: ms, c)
  := by
  obtain ⟨used, left, hvs, hleft, hv⟩ := hv rest (endPlace [':'] (endPlace us place)) hrest
  have hms := hms used left hvs hleft
  rw [endPlace_append] at hms
  exact members_eq_ok_iff.mpr (.inr ⟨m.1, _, _, m.2, _, ms, hname _ _, Reads.colon _ _, hv, hms,
    rfl⟩)

/-- The members after one that was read are read up to the end of the object.  What is left
of the text of that one is `left`. -/
theorem members_following {depth : Nat} {texts : List (List Char)} {ms : List (String × Json)}
    (hmembers : List.Forall₂ (TakesMember depth) texts ms) {closing left : List Char}
    (hclosing : Spaces closing) (hleft : Spaces left) {fuel : Nat} (hfuel : texts.length < fuel)
    (rest : List Char) (place : Place) :
  members (value depth) fuel false []
      ⟨left ++ (following texts ++ (closing ++ '\x7d' :: rest)), place⟩
    = .ok (ms, ⟨'\x7d' :: rest, endPlace (left ++ (following texts ++ closing)) place⟩)
  := by
  obtain ⟨fuel, rfl⟩ : ∃ n, fuel = n + 1 := Nat.exists_eq_add_one.mpr (by omega)
  induction hmembers generalizing left fuel place with
  | nil =>
      have hspaces : Spaces (left ++ closing) := List.forall_mem_append.mpr ⟨hleft, hclosing⟩
      have hend := memberName_end hspaces false rest place
      rw [List.append_assoc] at hend
      exact members_eq_ok_iff.mpr (.inl ⟨hend, rfl⟩)
  | @cons us m texts ms hm _ ih =>
      obtain ⟨fuel, rfl⟩ : ∃ n, fuel = n + 1 :=
        Nat.exists_eq_add_one.mpr (by rw [List.length_cons] at hfuel; omega)
      obtain ⟨ss, vs, rfl, hss, hv⟩ := hm
      have htext : left ++ (following ((ss ++ (quoteChars m.1.toList ++ ':' :: vs)) :: texts)
            ++ (closing ++ '\x7d' :: rest))
          = left ++ ',' :: (ss ++ quoteChars m.1.toList)
            ++ ':' :: (vs ++ (following texts ++ (closing ++ '\x7d' :: rest))) := by
        simp only [following_cons, List.append_assoc, List.cons_append]
      rw [htext]
      apply members_cons (Reads.memberName_following hleft hss m.1) hv
        (delimited_following (by decide) texts hclosing rest)
      rintro used left' rfl hleft'
      rw [ih hleft' _ _ (Nat.lt_of_succ_lt_succ hfuel), ← endPlace_append]
      simp only [following_cons, List.append_assoc, List.cons_append]

/-- An object is read after its opening brace. -/
theorem Reads.objectBody {depth : Nat} {texts : List (List Char)} {ms : List (String × Json)}
    (hmembers : List.Forall₂ (TakesMember depth) texts ms) {closing : List Char}
    (hclosing : Spaces closing) :
  Reads (objectBody (value depth)) (commas texts ++ closing ++ ['\x7d']) ms
  := by
  intro rest place
  have hclose : ∀ place : Place, closeObject ⟨'\x7d' :: rest, place⟩
      = .ok ((), ⟨rest, endPlace ['\x7d'] place⟩) := fun _ => rfl
  rw [endPlace_append]
  refine objectBody_eq_ok_iff.mpr ⟨_, ?_, hclose _⟩
  rw [List.append_assoc, List.append_assoc, List.singleton_append]
  cases hmembers with
  | nil => exact members_eq_ok_iff.mpr (.inl ⟨memberName_end hclosing true rest place, rfl⟩)
  | @cons us m texts ms hm hmembers =>
      obtain ⟨ss, vs, rfl, hss, hv⟩ := hm
      have htext : commas ((ss ++ (quoteChars m.1.toList ++ ':' :: vs)) :: texts)
            ++ (closing ++ '\x7d' :: rest)
          = ss ++ quoteChars m.1.toList
            ++ ':' :: (vs ++ (following texts ++ (closing ++ '\x7d' :: rest))) := by
        simp only [commas, List.append_assoc, List.cons_append]
      rw [htext]
      apply members_cons (Reads.memberName_first hss m.1) hv
        (delimited_following (by decide) texts hclosing rest)
      rintro used left rfl hleft
      have hroom : texts.length < (ss ++ quoteChars m.1.toList
          ++ ':' :: (used ++ left ++ (following texts ++ (closing ++ '\x7d' :: rest)))).length := by
        have hlength := length_le_length_following texts
        simp only [List.length_append, List.length_cons]
        omega
      apply Eq.trans (members_following hmembers hclosing hleft hroom rest _)
      rw [← endPlace_append]
      simp only [commas, List.append_assoc, List.cons_append]

/-! ## Values -/

/-- An array is read from the texts of its elements. -/
theorem Reads.value_array {depth : Nat} {texts : List (List Char)} {items : List Json}
    (hitems : List.Forall₂ (Takes (value depth)) texts items) {closing : List Char}
    (hclosing : Spaces closing) :
  Reads (value (depth + 1)) ('[' :: (commas texts ++ closing ++ [']'])) (.array items)
  := by
  rw [value.eq_def]
  apply Reads.next_bind rfl
  apply Reads.skip_bind
  apply Reads.bind_pure
  apply Reads.arrayBody hitems hclosing

/-- An object is read from the texts of its members. -/
theorem Reads.value_object {depth : Nat} {texts : List (List Char)} {ms : List (String × Json)}
    (hmembers : List.Forall₂ (TakesMember depth) texts ms) {closing : List Char}
    (hclosing : Spaces closing) :
  Reads (value (depth + 1)) ('\x7b' :: (commas texts ++ closing ++ ['\x7d'])) (.object ms)
  := by
  rw [value.eq_def]
  apply Reads.next_bind rfl
  apply Reads.skip_bind
  apply Reads.bind_pure
  apply Reads.objectBody hmembers hclosing

end Assay.Json.Reader

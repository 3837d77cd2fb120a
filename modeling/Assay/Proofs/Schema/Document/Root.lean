import Assay.Proofs.Json.Progress
import Assay.Proofs.Schema.Document.Spelling
import Assay.Schema.Text

/-!
# Reading the root

The root of a document is read apart from what is in it: its tag is looked at while the
text is read, and has to be a name there.  Apart from this the text of a document is read
as a value, and the schema is what that value stands for (`read_eq_ok_iff`).  A fault that is
only found in the value is told without a place in the text (`read_eq_error`).
-/

namespace Assay.Schema.Document

open Json (Cause Cursor Source)
open Json.Reader

variable {α β : Type} [Source α]

/-! ## Faults -/

theorem failType_ne_ok {c : Char} {expected : String} {cursor : Cursor α} {p : β × Cursor α} :
  (failType c expected : Json.Reader α β) cursor ≠ .ok p
  := by
  rw [failType]
  split_ifs
  · apply fail_ne_ok
  · apply fail_ne_ok
  · intro h
    obtain ⟨v, c₁, -, h⟩ := exists_of_bind h
    split at h
    all_goals cases fail_ne_ok _ _ _ h

theorem failInArray_ne_ok {cause : Cause} {c : Cursor α} {p : β × Cursor α} :
  (failInArray cause : Json.Reader α β) c ≠ .ok p
  := by
  intro h
  rw [failInArray] at h
  obtain ⟨look, c₁, -, h⟩ := exists_of_bind h
  split at h
  · obtain ⟨⟨⟩, c₂, -, h⟩ := exists_of_bind h
    cases fail_ne_ok _ _ _ h
  · obtain ⟨⟨⟩, c₂, -, h⟩ := exists_of_bind h
    obtain ⟨look', c₃, -, h⟩ := exists_of_bind h
    cases fail_ne_ok _ _ _ h
  · cases fail_ne_ok _ _ _ h

theorem failInObject_ne_ok {cause : Cause} {c : Cursor α} {p : β × Cursor α} :
  (failInObject cause : Json.Reader α β) c ≠ .ok p
  := by
  intro h
  rw [failInObject] at h
  obtain ⟨look, c₁, -, h⟩ := exists_of_bind h
  split at h
  · obtain ⟨⟨⟩, c₂, -, h⟩ := exists_of_bind h
    cases fail_ne_ok _ _ _ h
  · cases fail_ne_ok _ _ _ h

/-! ## The tag -/

/-- The position of the tag of a root, which has to be a name. -/
def nodeNamed : Json → Except Cause Nat
  | .string name => tagNamed nodeChoice name
  | v => .error (wrongType v "variant identifier")

theorem nodeNamed_eq_ok_iff {v : Json} {t : Nat} :
  nodeNamed v = .ok t ↔ ∃ name, v = .string name ∧ tagNamed nodeChoice name = .ok t
  := by
  cases v with
  | string name => simp [nodeNamed]
  | null | boolean | number | array | object => simp [nodeNamed]

/-- The tag of a root is read as a value. -/
theorem rootTag_eq_ok_iff {depth : Nat} {t : Nat} {c c' : Cursor α} :
  rootTag c = .ok (t, c') ↔ ∃ v, value depth c = .ok (v, c') ∧ nodeNamed v = .ok t
  := by
  rw [rootTag, starting]
  constructor
  · intro h
    obtain ⟨look, c₁, hnext, h⟩ := exists_of_bind h
    split at h
    · cases fail_ne_ok _ _ _ h
    · split_ifs at h with hquote
      · subst hquote
        obtain ⟨⟨⟩, c₂, hskip, h⟩ := exists_of_bind h
        obtain ⟨name, c₃, hbody, h⟩ := exists_of_bind h
        cases hname : tagNamed nodeChoice name with
        | error cause =>
            rw [hname] at h
            cases fail_ne_ok _ _ _ h
        | ok tag =>
            rw [hname] at h
            cases h
            use .string name, value_string_iff.mpr ⟨c₁, c₂, hnext, hskip, hbody⟩, hname
      · cases failType_ne_ok h
  · rintro ⟨v, hv, hnamed⟩
    obtain ⟨name, rfl, hname⟩ := nodeNamed_eq_ok_iff.mp hnamed
    obtain ⟨c₁, c₂, hnext, hskip, hbody⟩ := value_string_iff.mp hv
    rw [bind_eq_ok hnext]
    apply Eq.trans (bind_eq_ok hskip _)
    rw [bind_eq_ok hbody, hname]
    rfl

/-! ## Members -/

/-- The members of the root end after the tag, or one more is read: the tag, if there was
none before, or another member. -/
theorem rootMembers_succ_eq_ok_iff {depth fuel : Nat} {first : Bool} {tag : Option Nat} {t : Nat}
    {others xs : List (String × Json)} {c c' : Cursor α} :
  rootMembers depth (fuel + 1) first tag others c = .ok ((t, xs), c') ↔
    (∃ c₁, memberName first c = .ok (none, c₁) ∧ closeObject c₁ = .ok ((), c') ∧
      tag = some t ∧ xs = others.reverse) ∨
    ∃ name c₁ c₂ v c₃, memberName first c = .ok (some name, c₁) ∧ colon c₁ = .ok ((), c₂) ∧
      value depth c₂ = .ok (v, c₃) ∧
      ((name = "type" ∧ tag = none ∧ ∃ t', nodeNamed v = .ok t' ∧
          rootMembers depth fuel false (some t') others c₃ = .ok ((t, xs), c')) ∨
        (name ≠ "type" ∧
          rootMembers depth fuel false tag ((name, v) :: others) c₃ = .ok ((t, xs), c')))
  := by
  rw [rootMembers.eq_def]
  constructor
  · intro h
    obtain ⟨found, c₁, hfound, h⟩ := exists_of_bind h
    cases found with
    | none =>
        cases tag with
        | none => cases failInObject_ne_ok h
        | some tag =>
            obtain ⟨⟨⟩, c₂, hclose, h⟩ := exists_of_bind h
            cases h
            exact .inl ⟨c₁, hfound, hclose, rfl, rfl⟩
    | some name =>
        dsimp only at h
        split_ifs at h with htype
        · cases tag with
          | some tag => cases failInObject_ne_ok h
          | none =>
              obtain ⟨⟨⟩, c₂, hcolon, h⟩ := exists_of_bind h
              obtain ⟨t', c₃, htag, h⟩ := exists_of_bind h
              obtain ⟨v, hv, hnamed⟩ :=
                (@rootTag_eq_ok_iff _ _ depth _ _ _).mp (within_eq_ok_iff.mp htag)
              exact .inr ⟨name, c₁, c₂, v, c₃, hfound, hcolon, hv, .inl ⟨htype, rfl, t', hnamed, h⟩⟩
        · obtain ⟨⟨⟩, c₂, hcolon, h⟩ := exists_of_bind h
          obtain ⟨v, c₃, hv, h⟩ := exists_of_bind h
          exact .inr ⟨name, c₁, c₂, v, c₃, hfound, hcolon, within_eq_ok_iff.mp hv, .inr ⟨htype, h⟩⟩
  · rintro (⟨c₁, hfound, hclose, rfl, rfl⟩ | ⟨name, c₁, c₂, v, c₃, hfound, hcolon, hv,
      ⟨rfl, rfl, t', hnamed, h⟩ | ⟨htype, h⟩⟩)
    · dsimp only
      rw [bind_eq_ok hfound]
      apply Eq.trans (bind_eq_ok hclose _)
      rfl
    · dsimp only
      rw [bind_eq_ok hfound]
      apply Eq.trans (bind_eq_ok hcolon _)
      rw [bind_eq_ok (within_eq_ok_iff.mpr (rootTag_eq_ok_iff.mpr ⟨v, hv, hnamed⟩)), h]
    · dsimp only
      rw [bind_eq_ok hfound]
      dsimp only
      rw [if_neg htype, bind_eq_ok hcolon, bind_eq_ok (within_eq_ok_iff.mpr hv), h]

/-- The members of the root are read as members, of which one is the tag. -/
theorem rootMembers_eq_ok_iff {depth fuel : Nat} {first : Bool} {tag : Option Nat} {t : Nat}
    {others xs : List (String × Json)} {c c' : Cursor α} :
  rootMembers depth fuel first tag others c = .ok ((t, xs), c') ↔
    ∃ ms c₁, members (value depth) fuel first [] c = .ok (ms, c₁) ∧
      closeObject c₁ = .ok ((), c') ∧ among "type" nodeNamed tag ms = .ok t ∧
      xs = others.reverse ++ ms.filter (·.1 ≠ "type")
  := by
  induction fuel generalizing first tag others c with
  | zero =>
      constructor
      · intro h
        cases fail_ne_ok _ _ _ h
      · rintro ⟨ms, c₁, h, -⟩
        cases fail_ne_ok _ _ _ h
  | succ n ih =>
      simp only [rootMembers_succ_eq_ok_iff, members_eq_ok_iff, ih]
      constructor
      · rintro (⟨c₁, hfound, hclose, rfl, rfl⟩ | ⟨name, c₁, c₂, v, c₃, hfound, hcolon, hv,
          ⟨rfl, rfl, t', hnamed, ms, c₄, hms, hclose, ht, rfl⟩ |
          ⟨htype, ms, c₄, hms, hclose, ht, rfl⟩⟩)
        · use [], c₁, .inl ⟨hfound, rfl⟩, hclose, among_nil_eq_ok_iff.mpr rfl
          simp
        · use ("type", v) :: ms, c₄, .inr ⟨_, c₁, c₂, v, c₃, ms, hfound, hcolon, hv, hms, rfl⟩,
            hclose, among_cons_eq_ok_iff.mpr (.inl ⟨rfl, rfl, t', hnamed, ht⟩)
          simp
        · use (name, v) :: ms, c₄, .inr ⟨_, c₁, c₂, v, c₃, ms, hfound, hcolon, hv, hms, rfl⟩,
            hclose, among_cons_eq_ok_iff.mpr (.inr ⟨htype, ht⟩)
          simp [htype]
      · rintro ⟨ms, c₁, ⟨hfound, rfl⟩ | ⟨name, c₂, c₃, v, c₄, rest, hfound, hcolon, hv, hrest, rfl⟩,
          hclose, ht, rfl⟩
        · refine .inl ⟨c₁, hfound, hclose, among_nil_eq_ok_iff.mp ht, ?_⟩
          simp
        · refine .inr ⟨name, c₂, c₃, v, c₄, hfound, hcolon, hv, ?_⟩
          obtain ⟨rfl, rfl, t', hnamed, ht⟩ | ⟨htype, ht⟩ := among_cons_eq_ok_iff.mp ht
          · refine .inl ⟨rfl, rfl, t', hnamed, rest, c₁, hrest, hclose, ht, ?_⟩
            simp
          · refine .inr ⟨htype, rest, c₁, hrest, hclose, ht, ?_⟩
            simp [htype]

/-! ## Elements -/

/-- The elements of the root are read as elements, of which the first is the tag. -/
theorem rootElements_eq_ok_iff {depth : Nat} {t : Nat} {fields : List Json} {c c' : Cursor α} :
  rootElements depth c = .ok ((t, fields), c') ↔
    ∃ v, arrayBody (value depth) c = .ok (v :: fields, c') ∧ nodeNamed v = .ok t
  := by
  rw [rootElements]
  constructor
  · intro h
    obtain ⟨more, c₁, hmore, h⟩ := exists_of_bind h
    cases more with
    | false => cases failInArray_ne_ok h
    | true =>
        obtain ⟨t', c₂, htag, h⟩ := exists_of_bind h
        rw [bind_eq_ok (room_eq c₂)] at h
        obtain ⟨rest, c₃, hrest, h⟩ := exists_of_bind h
        obtain ⟨⟨⟩, c₄, hclose, h⟩ := exists_of_bind h
        cases h
        obtain ⟨v, hv, hnamed⟩ :=
          (@rootTag_eq_ok_iff _ _ depth _ _ _).mp (within_eq_ok_iff.mp htag)
        have hlength : c₂.rest.length < c.rest.length := by
          obtain ⟨name, rfl, -⟩ := nodeNamed_eq_ok_iff.mp hnamed
          have hc₁ := Shrinks.toElement true _ _ _ hmore
          apply Nat.lt_of_lt_of_le (length_lt_of_value_string hv) hc₁
        have hrest := elements_of_lt (Shrinks.value depth) hrest hlength
        have helements : elements (value depth) (c.rest.length + 1) 0 [] c
            = .ok (v :: fields, c₃) :=
          elements_eq_ok_iff.mpr (.inr ⟨c₁, v, c₂, fields, hmore, hv, hrest, rfl⟩)
        use v, arrayBody_eq_ok_iff.mpr ⟨c₃, helements, hclose⟩, hnamed
  · rintro ⟨v, hbody, hnamed⟩
    obtain ⟨c₁, helements, hclose⟩ := arrayBody_eq_ok_iff.mp hbody
    obtain ⟨-, ⟨⟩⟩ | ⟨c₂, v, c₃, rest, hmore, hv, hrest, ⟨⟩⟩ := elements_eq_ok_iff.mp helements
    have htag : within (.index 0) rootTag c₂ = .ok (t, c₃) :=
      within_eq_ok_iff.mpr (rootTag_eq_ok_iff.mpr ⟨v, hv, hnamed⟩)
    have hrest := elements_of_lt (Shrinks.value depth) hrest (Nat.lt_succ_self _)
    apply Eq.trans (bind_eq_ok hmore _)
    apply Eq.trans (bind_eq_ok htag _)
    rw [bind_eq_ok (room_eq c₃), bind_eq_ok hrest, bind_eq_ok hclose]
    rfl

/-! ## Documents -/

/-- The tags of a root that is an object or an array are names. -/
def RootNamed : Json → Prop
  | .object members => ∀ v, ("type", v) ∈ members → ∃ name, v = .string name
  | .array (tag :: _) => ∃ name, tag = .string name
  | _ => True

/-- The tag of a root that is an object is the tag of the object, if it is a name. -/
theorem among_nodeNamed_eq_ok_iff {members : List (String × Json)} {t : Nat} :
  among "type" nodeNamed none members = .ok t ↔
    RootNamed (.object members) ∧ tagAmong nodeChoice none members = .ok t
  := by
  simp only [tagAmong_eq_among, among_eq_ok_iff, nodeNamed_eq_ok_iff]
  constructor
  · rintro ⟨_, type, name, rfl, ht⟩
    constructor
    · intro v hv
      use name, type.eq_of_mem hv
    · use .string name, type, ht
  · rintro ⟨hnamed, v, type, ht⟩
    obtain ⟨name, rfl⟩ := hnamed v type.mem
    use .string name, type, name, rfl, ht

/-- A root that is an object stands for what the object stands for. -/
theorem schema_object {members : List (String × Json)} {t : Nat}
    (ht : tagAmong nodeChoice none members = .ok t) :
  (Root.object t (members.filter (·.1 ≠ "type"))).schema = schemaOf (.object members)
  := by
  rw [Root.schema, schemaOf, ht]
  have hfilter : ∀ {γ : Type} {name : String} {read : Json → Except Cause γ}, name ≠ "type" →
      among name read none (members.filter (·.1 ≠ "type")) = among name read none members :=
    among_filter
  simp only [valuesAmong_eq_among, propertiesAmong_eq_among, schemasAmong_eq_among]
  rw [hfilter (by decide), hfilter (by decide), hfilter (by decide)]
  rfl

/-- A root that is an array stands for what the array stands for. -/
theorem schema_array {tag : Json} {fields : List Json} {t : Nat}
    (ht : tagOf nodeChoice tag = .ok t) :
  (Root.array t fields).schema = schemaOf (.array (tag :: fields))
  := by
  rw [Root.schema, schemaOf, ht]
  rfl

/-- What is read as a root is a value whose tag is a name, and stands for what the root stands
for. -/
theorem exists_value_of_root {schema : Schema} {r : Root} {c c' : Cursor α}
    (h : root c = .ok (r, c')) (hschema : r.schema = .ok schema) :
  ∃ j, value maxDepth c = .ok (j, c') ∧ RootNamed j ∧ schemaOf j = .ok schema
  := by
  rw [root, starting] at h
  obtain ⟨look, c₁, hnext, h⟩ := exists_of_bind h
  cases look with
  | none => cases fail_ne_ok _ _ _ h
  | some ch =>
      dsimp only at h
      split_ifs at h with hobject harray
      · subst hobject
        obtain ⟨⟨⟩, c₂, hskip, h⟩ := exists_of_bind h
        rw [bind_eq_ok (room_eq c₂)] at h
        obtain ⟨⟨t, others⟩, c₃, hmembers, h⟩ := exists_of_bind h
        cases h
        obtain ⟨ms, c₄, hms, hclose, htag, rfl⟩ := rootMembers_eq_ok_iff.mp hmembers
        obtain ⟨hnamed, ht⟩ := among_nodeNamed_eq_ok_iff.mp htag
        have hbody := objectBody_eq_ok_iff.mpr ⟨c₄, hms, hclose⟩
        use .object ms, value_object_iff.mpr ⟨_, c₁, c₂, rfl, hnext, hskip, hbody⟩, hnamed
        apply Eq.trans (schema_object ht).symm hschema
      · subst harray
        obtain ⟨⟨⟩, c₂, hskip, h⟩ := exists_of_bind h
        obtain ⟨⟨t, fields⟩, c₃, helements, h⟩ := exists_of_bind h
        cases h
        obtain ⟨v, hbody, htag⟩ := rootElements_eq_ok_iff.mp helements
        obtain ⟨name, rfl, ht⟩ := nodeNamed_eq_ok_iff.mp htag
        use .array (.string name :: fields),
          value_array_iff.mpr ⟨_, c₁, c₂, rfl, hnext, hskip, hbody⟩, ⟨name, rfl⟩
        apply Eq.trans (@schema_array (.string name) _ _ ht).symm hschema
      · cases failType_ne_ok h

/-- An object whose tag is a name is read as a root with that tag. -/
theorem root_of_value_object {ms : List (String × Json)} {t : Nat} {c c' : Cursor α}
    (hms : value maxDepth c = .ok (.object ms, c')) (htag : among "type" nodeNamed none ms = .ok t) :
  root c = .ok (.object t (ms.filter (·.1 ≠ "type")), c')
  := by
  obtain ⟨d, c₁, c₂, hd, hnext, hskip, hbody⟩ := value_object_iff.mp hms
  obtain rfl : maxDepth - 1 = d := congrArg Nat.pred hd
  obtain ⟨c₃, hms, hclose⟩ := objectBody_eq_ok_iff.mp hbody
  have hmembers : rootMembers (maxDepth - 1) (c₂.rest.length + 1) true none [] c₂
      = .ok ((t, ms.filter (·.1 ≠ "type")), c') :=
    rootMembers_eq_ok_iff.mpr ⟨ms, c₃, hms, hclose, htag, rfl⟩
  rw [root, starting, bind_eq_ok hnext]
  apply Eq.trans (bind_eq_ok hskip _)
  rw [bind_eq_ok (room_eq c₂), bind_eq_ok hmembers]
  rfl

/-- A value whose tag is a name, and that stands for a schema, is read as a root that does. -/
theorem exists_root_of_value {schema : Schema} {j : Json} {c c' : Cursor α}
    (hj : value maxDepth c = .ok (j, c')) (hnamed : RootNamed j)
    (hschema : schemaOf j = .ok schema) :
  ∃ r, root c = .ok (r, c') ∧ r.schema = .ok schema
  := by
  have h := hschema
  match j with
  | .object ms =>
    rw [schemaOf] at h
    obtain ⟨t, ht, -⟩ := bind_eq_ok_iff.mp h
    have htag := among_nodeNamed_eq_ok_iff.mpr ⟨hnamed, ht⟩
    use .object t (ms.filter (·.1 ≠ "type")), root_of_value_object hj htag
    apply (schema_object ht).trans hschema
  | .array [] =>
    rw [schemaOf] at h
    cases h
  | .array (tag :: fields) =>
    obtain ⟨d, c₁, c₂, hd, hnext, hskip, hbody⟩ := value_array_iff.mp hj
    obtain rfl : maxDepth - 1 = d := congrArg Nat.pred hd
    obtain ⟨name, rfl⟩ := hnamed
    rw [schemaOf] at h
    obtain ⟨t, ht, -⟩ := bind_eq_ok_iff.mp h
    have helements := rootElements_eq_ok_iff.mpr ⟨_, hbody, ht⟩
    use .array t fields, ?_, (schema_array ht).trans hschema
    rw [root, starting, bind_eq_ok hnext]
    apply Eq.trans (bind_eq_ok hskip _)
    rw [bind_eq_ok helements]
    rfl
  | .null | .boolean _ | .number _ | .string _ =>
    cases h

/-- A root is read as a value whose tag is a name, and stands for what the value stands
for. -/
theorem root_eq_ok_iff {schema : Schema} {c c' : Cursor α} :
  (∃ r, root c = .ok (r, c') ∧ r.schema = .ok schema) ↔
    ∃ j, value maxDepth c = .ok (j, c') ∧ RootNamed j ∧ schemaOf j = .ok schema
  := by
  constructor
  · rintro ⟨r, h, hschema⟩
    apply exists_value_of_root h hschema
  · rintro ⟨j, hj, hnamed, hschema⟩
    apply exists_root_of_value hj hnamed hschema

/-- The text of a document is read as a value whose tag is a name, and the schema is what
the value stands for. -/
theorem read_eq_ok_iff {text : List α} {schema : Schema} :
  read text = .ok schema ↔
    ∃ j c, value maxDepth (.start text) = .ok (j, c) ∧ RootNamed j ∧ schemaOf j = .ok schema
  := by
  have hread : read text = .ok schema ↔
      ∃ r, root.onText text = .ok r ∧ r.schema = .ok schema := by
    rw [read]
    cases root.onText text with
    | error fault => simp
    | ok r => cases hr : r.schema <;> simp [hr]
  simp only [hread, onText_eq_ok_iff, ← exists_and_right]
  rw [exists_comm, @exists_comm Json]
  apply exists_congr
  intro c
  apply root_eq_ok_iff

/-- A document that is an object and stands for no schema is not read, even though its own tag
is a name.  The fault has no place, and the path of the whole document. -/
theorem read_eq_error {text : List α} {ms : List (String × Json)} {t : Nat} {cause : Cause}
    (htext : document.onText text = .ok (.object ms)) (htag : among "type" nodeNamed none ms = .ok t)
    (hschema : schemaOf (.object ms) = .error cause) :
  read text = .error ⟨cause, none, []⟩
  := by
  obtain ⟨c, hvalue⟩ := exists_value_of_document htext
  have hroot : root.onText text = .ok (.object t (ms.filter (·.1 ≠ "type"))) :=
    onText_eq_ok_iff.mpr ⟨c, root_of_value_object hvalue htag⟩
  obtain ⟨-, ht⟩ := among_nodeNamed_eq_ok_iff.mp htag
  rw [read, hroot]
  dsimp only
  rw [schema_object ht, hschema]

end Assay.Schema.Document

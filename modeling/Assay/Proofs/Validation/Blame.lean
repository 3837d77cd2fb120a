import Assay.Proofs.Validation.Checks

/-!
# Blame

`Blames limit depth schema value e` says that the rejection `e` accounts for a value that
is examined at a depth: it blames the first part that is not admitted, after parts that
are, for exactly the rejection of that part on its own, with the texts of the containers
that are passed on the way.  A value is rejected with `e` exactly if `e` accounts for it so.
-/

namespace Assay

/-- The items that a step to an index tells of are written as the array is. -/
theorem atIndex_eq (items : List Json) (index : Nat) (cause : Rejection) :
  atIndex items index cause = .atIndex cause index (render (some (.array items)))
  := rfl

theorem exists_mem_zip {α β : Type} {l₁ : List α} {l₂ : List β} {b : β}
    (hlength : l₁.length = l₂.length) (h : b ∈ l₂) :
  ∃ a, (a, b) ∈ l₁.zip l₂
  := by
  rw [← List.map_snd_zip (Nat.le_of_eq hlength.symm)] at h
  obtain ⟨⟨a, b⟩, hmem, rfl⟩ := List.mem_map.mp h
  exact ⟨a, hmem⟩

namespace Schema

/-- A rejection of what is examined at a depth.  The parts of a container are examined one
level further down, and the rejection of a container is the rejection of its first part
that is not admitted with one step around it. -/
inductive Blames (limit : Nat) : Nat → Schema → Option Json → Rejection → Prop where
  /-- The schema goes below the limit. -/
  | tooDeep {depth : Nat} {schema : Schema} {value : Option Json} (below : limit < depth) :
    Blames limit depth schema value (.tooDeep limit)
  /-- The value is not of the declared kind. -/
  | mismatch {depth : Nat} {schema : Schema} {value : Option Json} {kind : Kind}
    (within : depth ≤ limit) (declared : schema.declaredKind = some kind)
    (other : Kind.of value ≠ kind) :
    Blames limit depth schema value (.typeMismatch (render value) (renderKind kind))
  /-- An element is not admitted, and those before it are. -/
  | element {depth : Nat} {item : Schema} {items before after : List Json} {v : Json}
    {cause : Rejection} (within : depth ≤ limit) (split : items = before ++ v :: after)
    (earlier : ∀ w ∈ before, examine limit (depth + 1) (some w) item = .ok ())
    (rejected : examine limit (depth + 1) (some v) item = .error cause)
    (blames : Blames limit (depth + 1) item (some v) cause) :
    Blames limit depth (.array item) (some (.array items))
      (.atIndex cause before.length (render (some (.array items))))
  /-- What stands at the index of an entry, or the lack of it, is not admitted, and the
  entries before it are met. -/
  | entry {depth : Nat} {entries before after : List (Entry Schema)} {e : Entry Schema}
    {items : List Json} {cause : Rejection} (within : depth ≤ limit)
    (split : entries = before ++ e :: after)
    (earlier : ∀ f ∈ before, examine limit (depth + 1) items[f.index]? f.schema = .ok ())
    (rejected : examine limit (depth + 1) items[e.index]? e.schema = .error cause)
    (blames : Blames limit (depth + 1) e.schema items[e.index]? cause) :
    Blames limit depth (.indexed entries) (some (.array items))
      (.atIndex cause e.index (render (some (.array items))))
  /-- The member of a required property is not there, and the properties before it are
  met. -/
  | missing {depth : Nat} {properties before after : List (Property Schema)}
    {p : Property Schema} {members : List (String × Json)} (within : depth ≤ limit)
    (split : properties = before ++ p :: after)
    (earlier : ∀ q ∈ before, Met limit depth members q)
    (required : p.presence = .required) (absent : members.lookup p.key = none) :
    Blames limit depth (.object properties) (some (.object members))
      (.missingProperty (render (some (.object members))) (renderKey p.key))
  /-- The member of a required property is not admitted, and the properties before it are
  met. -/
  | required {depth : Nat} {properties before after : List (Property Schema)}
    {p : Property Schema} {members : List (String × Json)} {v : Json} {cause : Rejection}
    (within : depth ≤ limit) (split : properties = before ++ p :: after)
    (earlier : ∀ q ∈ before, Met limit depth members q)
    (required : p.presence = .required) (present : members.lookup p.key = some v)
    (rejected : examine limit (depth + 1) (some v) p.schema = .error cause)
    (blames : Blames limit (depth + 1) p.schema (some v) cause) :
    Blames limit depth (.object properties) (some (.object members))
      (.inProperty cause (renderKey p.key) (render (some (.object members))))
  /-- The member of an optional property is not admitted, and the properties before it are
  met. -/
  | optional {depth : Nat} {properties before after : List (Property Schema)}
    {p : Property Schema} {members : List (String × Json)} {v : Json} {cause : Rejection}
    (within : depth ≤ limit) (split : properties = before ++ p :: after)
    (earlier : ∀ q ∈ before, Met limit depth members q)
    (optional : p.presence = .optional) (present : members.lookup p.key = some v)
    (rejected : examine limit (depth + 1) (some v) p.schema = .error cause)
    (blames : Blames limit (depth + 1) p.schema (some v) cause) :
    Blames limit depth (.object properties) (some (.object members))
      (.inOptionalProperty cause (renderKey p.key) (render (some (.object members))))
  /-- No alternative admits the value, and every one has its rejection listed, in order. -/
  | union {depth : Nat} {alternatives : List Schema} {value : Option Json}
    {causes : List Rejection} (within : depth ≤ limit)
    (rejected : List.Forall₂ (fun s cause => examine limit (depth + 1) value s = .error cause)
      alternatives causes)
    (blames : ∀ s cause, (s, cause) ∈ alternatives.zip causes →
      Blames limit (depth + 1) s value cause) :
    Blames limit depth (.oneOf alternatives) value (.noAlternative causes)

variable {limit depth : Nat} {value : Option Json}

/-- A rejection is for the depth or for the kind of the value, unless there is room for the
schema and the value is of the declared kind. -/
theorem blames_or_of_examine_eq_error {schema : Schema} {e : Rejection}
    (h : examine limit depth value schema = .error e) :
  Blames limit depth schema value e ∨
    depth ≤ limit ∧ ∀ kind, schema.declaredKind = some kind → Kind.of value = kind
  := by
  obtain below | ⟨within, kind, declared, other⟩ | fits :=
    below_or_other_or_fits limit depth value schema
  · rw [examine_tooDeep below] at h
    cases h
    exact .inl (.tooDeep below)
  · rw [examine_mismatch within declared other] at h
    cases h
    exact .inl (.mismatch within declared other)
  · exact .inr fits

/-- A rejected value is accounted for. -/
theorem blames_of_examine_eq_error {schema : Schema} {e : Rejection}
    (h : examine limit depth value schema = .error e) :
  Blames limit depth schema value e
  := by
  -- The induction is for the parts, whose rejections stand inside that of their container.
  induction schema using induction generalizing depth value e with
  | scalar schema kind hkind =>
      obtain hblames | ⟨within, hvalue⟩ := blames_or_of_examine_eq_error h
      · exact hblames
      · rw [examine_scalar within hkind (hvalue kind (declaredKind_of_scalarKind? hkind))] at h
        cases h
  | array item ih =>
      obtain hblames | ⟨within, hvalue⟩ := blames_or_of_examine_eq_error h
      · exact hblames
      obtain ⟨items, rfl⟩ := Kind.of_eq_array_iff.mp (hvalue _ rfl)
      rw [examine_array within] at h
      obtain ⟨⟨index, cause⟩, hfailure, rfl⟩ := mapError_eq_error_iff.mp h
      obtain ⟨before, v, after, split, hindex, earlier, rejected⟩ :=
        firstFailure_eq_error_iff.mp hfailure
      obtain rfl : index = before.length := by omega
      rw [atIndex_eq]
      apply Blames.element within split earlier rejected (ih rejected)
  | indexed entries ih =>
      obtain hblames | ⟨within, hvalue⟩ := blames_or_of_examine_eq_error h
      · exact hblames
      obtain ⟨items, rfl⟩ := Kind.of_eq_array_iff.mp (hvalue _ rfl)
      rw [examine_indexed within] at h
      obtain ⟨before, f, after, split, hbefore, hf⟩ := exists_of_forM_eq_error h
      obtain ⟨cause, rejected, rfl⟩ := mapError_eq_error_iff.mp hf
      have earlier := fun g hg => mapError_eq_ok_iff.mp (hbefore g hg)
      have hmem : f ∈ entries := by simp [split]
      rw [atIndex_eq]
      apply Blames.entry within split earlier rejected (ih f hmem rejected)
  | object properties ih =>
      obtain hblames | ⟨within, hvalue⟩ := blames_or_of_examine_eq_error h
      · exact hblames
      obtain ⟨members, rfl⟩ := Kind.of_eq_object_iff.mp (hvalue _ rfl)
      rw [examine_object within] at h
      obtain ⟨before, p, after, split, hbefore, hp⟩ := exists_of_forM_eq_error h
      have earlier := fun q hq => checkProperty_eq_ok_iff.mp (hbefore q hq)
      have hmem : p ∈ properties := by simp [split]
      obtain ⟨hpresence, absent, rfl⟩ | ⟨v, cause, present, rejected, rfl⟩ :=
        checkProperty_eq_error_iff.mp hp
      · apply Blames.missing within split earlier hpresence absent
      · cases hpresence : p.presence with
        | required =>
            apply Blames.required within split earlier hpresence present rejected
              (ih p hmem rejected)
        | optional =>
            apply Blames.optional within split earlier hpresence present rejected
              (ih p hmem rejected)
  | oneOf alternatives ih =>
      obtain hblames | ⟨within, -⟩ := blames_or_of_examine_eq_error h
      · exact hblames
      rw [examine_oneOf within] at h
      split at h
      next => cases h
      next causes hcauses =>
        cases h
        have rejected := examineAlternatives_eq_some_iff.mp hcauses
        apply Blames.union within rejected
        intro s cause hmem
        apply ih s (List.of_mem_zip hmem).1 (List.forall₂_zip rejected hmem)

/-- What is accounted for is rejected. -/
theorem examine_eq_error_of_blames {schema : Schema} {e : Rejection}
    (h : Blames limit depth schema value e) :
  examine limit depth value schema = .error e
  := by
  cases h with
  | tooDeep below => apply examine_tooDeep below
  | mismatch within declared other => apply examine_mismatch within declared other
  | element within split earlier rejected blames =>
      rw [examine_array within]
      have hfailure := firstFailure_eq_error_iff.mpr
        ⟨_, _, _, split, (Nat.zero_add _).symm, earlier, rejected⟩
      apply mapError_eq_error_iff.mpr ⟨_, hfailure, rfl⟩
  | entry within split earlier rejected blames =>
      rw [examine_indexed within, split]
      apply forM_append_cons
      · intro f hf
        apply mapError_eq_ok_iff.mpr (earlier f hf)
      · apply mapError_eq_error_iff.mpr ⟨_, rejected, rfl⟩
  | missing within split earlier required absent =>
      rw [examine_object within, split]
      apply forM_append_cons
      · intro q hq
        apply checkProperty_eq_ok_iff.mpr (earlier q hq)
      · apply checkProperty_eq_error_iff.mpr (.inl ⟨required, absent, rfl⟩)
  | required within split earlier required present rejected blames =>
      rw [examine_object within, split]
      apply forM_append_cons
      · intro q hq
        apply checkProperty_eq_ok_iff.mpr (earlier q hq)
      · apply checkProperty_eq_error_iff.mpr
        rw [required]
        exact .inr ⟨_, _, present, rejected, rfl⟩
  | optional within split earlier optional present rejected blames =>
      rw [examine_object within, split]
      apply forM_append_cons
      · intro q hq
        apply checkProperty_eq_ok_iff.mpr (earlier q hq)
      · apply checkProperty_eq_error_iff.mpr
        rw [optional]
        exact .inr ⟨_, _, present, rejected, rfl⟩
  | union within rejected blames =>
      rw [examine_oneOf within, examineAlternatives_eq_some_iff.mpr rejected]

/-- A value is rejected exactly if the rejection accounts for it, from the first level of
the schema on. -/
theorem validate_eq_error_iff_blames {schema : Schema} {v : Json} {e : Rejection} :
  schema.validate limit v = .error e ↔ Blames limit 1 schema (some v) e
  := by
  constructor
  · apply blames_of_examine_eq_error
  · apply examine_eq_error_of_blames

end Schema

end Assay

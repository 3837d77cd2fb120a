import Assay.Proofs.Validation.Checks

/-!
# Conformance

`Conforms schema v` says that a value is as a schema asks, without regard to how values
are examined, to what is said of those that are rejected and to limits of depth.
Validation decides conformance if its limit is at least the depth of the schema.
-/

namespace Assay.Schema

theorem sizeOf_entry_lt {e : Entry Schema} {entries : List (Entry Schema)} (h : e ∈ entries) :
  sizeOf e.schema < sizeOf entries
  := by
  have he := List.sizeOf_lt_of_mem h
  cases e
  simp only [Entry.mk.sizeOf_spec] at he ⊢
  omega

theorem sizeOf_property_lt {p : Property Schema} {properties : List (Property Schema)}
    (h : p ∈ properties) :
  sizeOf p.schema < sizeOf properties
  := by
  have hp := List.sizeOf_lt_of_mem h
  cases p
  simp only [Property.mk.sizeOf_spec] at hp ⊢
  omega

/-- The value is as the schema asks.  An element past the end of an array is not there at
all, while a member with the value null is. -/
def Conforms : Schema → Json → Prop
  | string, v => ∃ s, v = .string s
  | number, v => ∃ n, v = .number n
  | boolean, v => ∃ b, v = .boolean b
  | null, v => v = .null
  | array item, v => ∃ items, v = .array items ∧ ∀ w ∈ items, Conforms item w
  | indexed entries, v =>
    ∃ items, v = .array items ∧
      ∀ e ∈ entries, ∃ w, items[e.index]? = some w ∧ Conforms e.schema w
  | object properties, v =>
    ∃ members, v = .object members ∧
      ∀ p ∈ properties,
        (∃ w, members.lookup p.key = some w ∧ Conforms p.schema w) ∨
          p.presence = .optional ∧ members.lookup p.key = none
  | oneOf alternatives, v => ∃ s, ∃ _ : s ∈ alternatives, Conforms s v
termination_by schema => sizeOf schema
decreasing_by
  · simp
  · have := sizeOf_entry_lt ‹_›
    simp only [indexed.sizeOf_spec]
    omega
  · have := sizeOf_property_lt ‹_›
    simp only [object.sizeOf_spec]
    omega
  · have := List.sizeOf_lt_of_mem ‹_›
    simp only [oneOf.sizeOf_spec]
    omega

/-- A value conforms to a scalar schema if it is of its kind. -/
theorem conforms_scalar_iff {schema : Schema} {kind : Kind}
    (hkind : scalarKind? schema = some kind) {v : Json} :
  Conforms schema v ↔ Kind.of (some v) = kind
  := by
  cases schema <;> cases hkind <;> cases v <;> simp [Conforms, Kind.of]

/-- With room for all levels of a schema, it admits at a depth what conforms to it. -/
theorem examine_eq_ok_iff_conforms {limit depth : Nat} {schema : Schema}
    (h : depth + schema.depth ≤ limit + 1) (v : Json) :
  examine limit depth (some v) schema = .ok () ↔ Conforms schema v
  := by
  induction schema using induction generalizing depth v with
  | scalar schema kind hkind =>
      rw [depth_of_scalarKind? hkind] at h
      rw [examine_scalar_eq_ok_iff hkind, conforms_scalar_iff hkind]
      apply and_iff_right (by omega)
  | array item ih =>
      rw [Schema.depth] at h
      simp only [examine_array_eq_ok_iff, Conforms, Option.some.injEq]
      rw [and_iff_right (by omega)]
      have hitem : ∀ w,
          (examine limit (depth + 1) (some w) item = .ok () ↔ Conforms item w) := by
        intro w
        apply ih (by omega) w
      simp only [hitem]
  | indexed entries ih =>
      rw [Schema.depth] at h
      simp only [examine_indexed_eq_ok_iff, Conforms, Option.some.injEq]
      rw [and_iff_right (by omega)]
      apply exists_congr
      intro items
      apply and_congr_right
      intro _
      apply forall₂_congr
      intro e he
      have hdepth := depth_le_entriesDepth he
      cases items[e.index]? with
      | none => simp [examine_none_ne_ok]
      | some w =>
          have hw : examine limit (depth + 1) (some w) e.schema = .ok () ↔ Conforms e.schema w := by
            apply ih e he (by omega) w
          simp [hw]
  | object properties ih =>
      rw [Schema.depth] at h
      simp only [examine_object_eq_ok_iff, Conforms, Option.some.injEq]
      rw [and_iff_right (by omega)]
      apply exists_congr
      intro members
      apply and_congr_right
      intro _
      apply forall₂_congr
      intro p hp
      have hdepth := depth_le_propertiesDepth hp
      have hmember : ∀ w,
          (examine limit (depth + 1) (some w) p.schema = .ok () ↔ Conforms p.schema w) := by
        intro w
        apply ih p hp (by omega) w
      simp only [Met, hmember]
  | oneOf alternatives ih =>
      rw [Schema.depth] at h
      simp only [examine_oneOf_eq_ok_iff, Conforms, exists_prop]
      rw [and_iff_right (by omega)]
      apply exists_congr
      intro s
      apply and_congr_right
      intro hs
      have hdepth := depth_le_alternativesDepth hs
      apply ih s hs (by omega) v

theorem admits_eq_true_iff {schema : Schema} {limit : Nat} {v : Json} :
  schema.admits limit v = true ↔ schema.validate limit v = .ok ()
  := by
  rw [admits]
  cases schema.validate limit v with
  | ok => simp [Except.isOk, Except.toBool]
  | error => simp [Except.isOk, Except.toBool]

/-- A validation with a limit of at least the depth of the schema, and likewise the bare
question whether it admits, decides conformance. -/
theorem validate_eq_ok_iff_conforms {schema : Schema} {limit : Nat}
    (h : schema.depth ≤ limit) (v : Json) :
  (schema.validate limit v = .ok () ↔ Conforms schema v) ∧
    (schema.admits limit v = true ↔ Conforms schema v)
  := by
  have hvalidate : schema.validate limit v = .ok () ↔ Conforms schema v := by
    apply examine_eq_ok_iff_conforms
    omega
  exact ⟨hvalidate, admits_eq_true_iff.trans hvalidate⟩

/-- A repeated key has to be met by both of its properties, and an element past the end
conforms to no union. -/
theorem conforms_repeated_key_not_past_end :
  Conforms (.object [⟨.required, "a", .array .number⟩, ⟨.optional, "a", .indexed [⟨1, .oneOf
      [.null, .number]⟩]⟩]) (.object [("a", .array [.number (.int 1), .number (.int 2)])]) ∧
    ¬ Conforms (.indexed [⟨1, .oneOf [.null, .number]⟩]) (.array [.null])
  := by
  constructor
  · apply (validate_eq_ok_iff_conforms (show Schema.depth _ ≤ 4 by decide) _).1.mp
    rfl
  · intro h
    cases (validate_eq_ok_iff_conforms (show Schema.depth _ ≤ 3 by decide) _).2.mpr h

end Assay.Schema

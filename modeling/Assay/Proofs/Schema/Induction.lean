import Assay.Schema.Basic

/-!
# Induction on schemas

`scalarKind?` is the kind that a scalar schema asks for.  `Schema.induction` is induction
on schemas with one case for the scalars and one for each way of putting schemas together,
whose hypotheses speak of the members of a list.  The depth of a part is bounded by the
depth of the list that it is a member of.
-/

namespace Assay.Schema

/-- The kind that a scalar schema asks for. -/
def scalarKind? : Schema → Option Kind
  | string => some .string
  | number => some .number
  | boolean => some .boolean
  | null => some .null
  | _ => none

/-- A property that holds of the scalars and is inherited from the parts of a schema holds
of every schema. -/
theorem induction {motive : Schema → Prop}
    (scalar : ∀ schema kind, scalarKind? schema = some kind → motive schema)
    (array : ∀ item, motive item → motive (.array item))
    (indexed : ∀ entries : List (Entry Schema),
      (∀ e ∈ entries, motive e.schema) → motive (.indexed entries))
    (object : ∀ properties : List (Property Schema),
      (∀ p ∈ properties, motive p.schema) → motive (.object properties))
    (oneOf : ∀ alternatives : List Schema,
      (∀ s ∈ alternatives, motive s) → motive (.oneOf alternatives))
    (schema : Schema) :
  motive schema
  := by
  -- The motives for lists and for their members say what the hypotheses above ask for.
  refine @Schema.rec motive
    (fun entries => ∀ e ∈ entries, motive e.schema)
    (fun properties => ∀ p ∈ properties, motive p.schema)
    (fun alternatives => ∀ s ∈ alternatives, motive s)
    (fun e => motive e.schema) (fun p => motive p.schema)
    (scalar _ _ rfl) (scalar _ _ rfl) (scalar _ _ rfl) (scalar _ _ rfl)
    array indexed object oneOf ?_ ?_ ?_ ?_ ?_ ?_ ?_ ?_ schema
  all_goals simp_all

/-- A scalar declares its own kind. -/
theorem declaredKind_of_scalarKind? {schema : Schema} {kind : Kind}
    (h : scalarKind? schema = some kind) :
  schema.declaredKind = some kind
  := by
  cases schema <;> cases h <;> rfl

/-- A scalar schema has one level. -/
theorem depth_of_scalarKind? {schema : Schema} {kind : Kind}
    (h : scalarKind? schema = some kind) :
  schema.depth = 1
  := by
  cases schema <;> first | rfl | cases h

/-- Every schema has a level of its own. -/
theorem depth_pos (schema : Schema) :
  0 < schema.depth
  := by
  cases schema <;> simp [depth]

/-- No alternative is deeper than all of them. -/
theorem depth_le_alternativesDepth {alternatives : List Schema} {s : Schema}
    (h : s ∈ alternatives) :
  s.depth ≤ alternativesDepth alternatives
  := by
  induction alternatives with
  | nil => cases h
  | cons t rest ih =>
      rw [alternativesDepth]
      obtain rfl | h := List.mem_cons.mp h
      · apply Nat.le_max_left
      · apply Nat.le_trans (ih h) (Nat.le_max_right _ _)

/-- The depth of alternatives is that of the deepest. -/
theorem alternativesDepth_le_iff {alternatives : List Schema} {n : Nat} :
  alternativesDepth alternatives ≤ n ↔ ∀ s ∈ alternatives, s.depth ≤ n
  := by
  induction alternatives with
  | nil => simp [alternativesDepth]
  | cons t rest ih => rw [alternativesDepth, Nat.max_le, ih, List.forall_mem_cons]

/-- The depth of entries is that of their schemas as alternatives. -/
theorem entriesDepth_eq (entries : List (Entry Schema)) :
  entriesDepth entries = alternativesDepth (entries.map Entry.schema)
  := by
  induction entries with
  | nil => rfl
  | cons e rest ih => rw [entriesDepth, ih, List.map_cons, alternativesDepth]

/-- The depth of properties is that of their schemas as alternatives. -/
theorem propertiesDepth_eq (properties : List (Property Schema)) :
  propertiesDepth properties = alternativesDepth (properties.map Property.schema)
  := by
  induction properties with
  | nil => rfl
  | cons p rest ih => rw [propertiesDepth, ih, List.map_cons, alternativesDepth]

theorem entriesDepth_le_iff {entries : List (Entry Schema)} {n : Nat} :
  entriesDepth entries ≤ n ↔ ∀ e ∈ entries, e.schema.depth ≤ n
  := by
  rw [entriesDepth_eq, alternativesDepth_le_iff, List.forall_mem_map]

theorem propertiesDepth_le_iff {properties : List (Property Schema)} {n : Nat} :
  propertiesDepth properties ≤ n ↔ ∀ p ∈ properties, p.schema.depth ≤ n
  := by
  rw [propertiesDepth_eq, alternativesDepth_le_iff, List.forall_mem_map]

theorem depth_le_entriesDepth {entries : List (Entry Schema)} {e : Entry Schema}
    (h : e ∈ entries) :
  e.schema.depth ≤ entriesDepth entries
  := by
  rw [entriesDepth_eq]
  apply depth_le_alternativesDepth (List.mem_map_of_mem h)

theorem depth_le_propertiesDepth {properties : List (Property Schema)} {p : Property Schema}
    (h : p ∈ properties) :
  p.schema.depth ≤ propertiesDepth properties
  := by
  rw [propertiesDepth_eq]
  apply depth_le_alternativesDepth (List.mem_map_of_mem h)

end Assay.Schema

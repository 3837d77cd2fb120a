import Assay.Proofs.Schema.Document.Root
import Assay.Proofs.Schema.Induction

/-!
# The depth of schemas from documents

Every level of a schema is written with a container of its own.  Therefore the schema of a
document is no deeper than the document (`depth_le_levels`), and what can be read at all is
not deeper than readers allow (`depth_le_of_read`).
-/

namespace Assay.Schema.Document

open Json (Source)

/-- A list of items has the levels of what one of them is related to. -/
theorem le_levels_of_forall₂ {β : Type} {R : Json → β → Prop} {items : List Json} {xs : List β}
    (hitems : List.Forall₂ R items xs) {x : β} (hx : x ∈ xs) {n : Nat}
    (h : ∀ v, R v x → n ≤ v.levels) :
  n ≤ (Json.array items).levels
  := by
  obtain ⟨v, hv, hR⟩ := exists_of_forall₂ hitems hx
  apply Nat.le_trans (h v hR) (Nat.le_of_lt (Json.levels_item_lt hv))

/-- A schema is no deeper than the node it is read from. -/
theorem depth_le_levels {j : Json} {schema : Schema} (h : schemaOf j = .ok schema) :
  schema.depth ≤ j.levels
  := by
  induction schema using Schema.induction generalizing j with
  | scalar schema kind hkind =>
      rw [depth_of_scalarKind? hkind]
      match j with
      | .object _ | .array _ =>
        rw [Json.levels]
        omega
      | .null | .boolean _ | .number _ | .string _ =>
        cases h
  | array item ih =>
      obtain ⟨v, hnode, hv⟩ := schemaOf_eq_array_iff.mp h
      rw [depth]
      apply Nat.lt_of_le_of_lt (ih hv) (hnode.levels_lt List.mem_cons_self)
  | indexed entries ih =>
      obtain ⟨v, hnode, hv⟩ := schemaOf_eq_indexed_iff.mp h
      obtain ⟨items, rfl, hitems⟩ := entriesOf_eq_ok_iff.mp hv
      rw [depth]
      apply Nat.lt_of_le_of_lt _ (hnode.levels_lt List.mem_cons_self)
      rw [entriesDepth_le_iff]
      intro e he
      apply le_levels_of_forall₂ hitems he
      intro w hentry
      obtain ⟨i, s, hentry, -, hs⟩ := entryOf_eq_ok_iff.mp hentry
      have hlevels := hentry.levels_lt (List.mem_cons_of_mem _ List.mem_cons_self)
      apply Nat.le_trans (ih e he hs) (Nat.le_of_lt hlevels)
  | object properties ih =>
      obtain ⟨v, hnode, hv⟩ := schemaOf_eq_object_iff.mp h
      obtain ⟨items, rfl, hitems⟩ := propertiesOf_eq_ok_iff.mp hv
      rw [depth]
      apply Nat.lt_of_le_of_lt _ (hnode.levels_lt List.mem_cons_self)
      rw [propertiesDepth_le_iff]
      intro p hp
      apply le_levels_of_forall₂ hitems hp
      intro w hproperty
      obtain ⟨k, s, hproperty, -, hs⟩ := propertyOf_eq_ok_iff.mp hproperty
      have hlevels := hproperty.levels_lt (List.mem_cons_of_mem _ List.mem_cons_self)
      apply Nat.le_trans (ih p hp hs) (Nat.le_of_lt hlevels)
  | oneOf alternatives ih =>
      obtain ⟨v, hnode, hv⟩ := schemaOf_eq_oneOf_iff.mp h
      obtain ⟨items, rfl, hitems⟩ := schemasOf_eq_ok_iff.mp hv
      rw [depth]
      apply Nat.lt_of_le_of_lt _ (hnode.levels_lt List.mem_cons_self)
      rw [alternativesDepth_le_iff]
      intro s hs
      apply le_levels_of_forall₂ hitems hs
      intro w hschema
      apply ih s hs hschema

/-- A schema that can be read from a text is no deeper than readers allow. -/
theorem depth_le_of_read {α : Type} [Source α] {text : List α} {schema : Schema}
    (h : read text = .ok schema) :
  schema.depth ≤ Json.Reader.maxDepth
  := by
  obtain ⟨j, c, hj, -, hschema⟩ := read_eq_ok_iff.mp h
  apply Nat.le_trans (depth_le_levels hschema) (Json.Reader.levels_le_of_value hj)

end Assay.Schema.Document

import Assay.Proofs.Json.Compact
import Assay.Proofs.Schema.Document.Grammar

/-!
# Writing schemas

`toJson` writes a schema as a document in which every node, entry and property is an object.
A schema is read back from the compact text of its document (`read_toJson`), if its indices
are words and the document is not too deep for a reader.
-/

namespace Assay.Schema.Document

/-! ## Documents -/

/-- An object with a tag and fields. -/
def node (tag : String) (fields : List (String × Json)) : Json :=
  .object (("type", .string tag) :: fields)

mutual

/-- The document of a schema. -/
def toJson : Schema → Json
  | string => node "string" []
  | number => node "number" []
  | boolean => node "boolean" []
  | null => node "null" []
  | array item => node "array" [("values", toJson item)]
  | indexed entries => node "array" [("values", .array (entriesToJson entries))]
  | object properties => node "object" [("properties", .array (propertiesToJson properties))]
  | oneOf alternatives => node "oneOf" [("schemas", .array (alternativesToJson alternatives))]

def entriesToJson : List (Entry Schema) → List Json
  | [] => []
  | e :: rest => entryToJson e :: entriesToJson rest

def propertiesToJson : List (Property Schema) → List Json
  | [] => []
  | p :: rest => propertyToJson p :: propertiesToJson rest

def alternativesToJson : List Schema → List Json
  | [] => []
  | s :: rest => toJson s :: alternativesToJson rest

/-- The document of an entry. -/
def entryToJson : Entry Schema → Json
  | ⟨index, schema⟩ => node "index" [("index", .number (.int index)), ("schema", toJson schema)]

/-- The document of a property. -/
def propertyToJson : Property Schema → Json
  | ⟨presence, key, schema⟩ =>
    node (presenceTag presence) [("key", .string key), ("schema", toJson schema)]

end

theorem entriesToJson_eq_map (entries : List (Entry Schema)) :
  entriesToJson entries = entries.map entryToJson
  := by
  induction entries with
  | nil => rfl
  | cons e rest ih => rw [entriesToJson, ih, List.map_cons]

theorem propertiesToJson_eq_map (properties : List (Property Schema)) :
  propertiesToJson properties = properties.map propertyToJson
  := by
  induction properties with
  | nil => rfl
  | cons p rest ih => rw [propertiesToJson, ih, List.map_cons]

theorem alternativesToJson_eq_map (alternatives : List Schema) :
  alternativesToJson alternatives = alternatives.map toJson
  := by
  induction alternatives with
  | nil => rfl
  | cons s rest ih => rw [alternativesToJson, ih, List.map_cons]

/-- Every index in a schema is a word. -/
inductive IndicesFit : Schema → Prop where
  | string : IndicesFit .string
  | number : IndicesFit .number
  | boolean : IndicesFit .boolean
  | null : IndicesFit .null
  | array {item : Schema} (part : IndicesFit item) : IndicesFit (.array item)
  | indexed {entries : List (Entry Schema)} (index : ∀ e ∈ entries, e.index < Word.count)
    (parts : ∀ e ∈ entries, IndicesFit e.schema) : IndicesFit (.indexed entries)
  | object {properties : List (Property Schema)}
    (parts : ∀ p ∈ properties, IndicesFit p.schema) : IndicesFit (.object properties)
  | oneOf {alternatives : List Schema} (parts : ∀ s ∈ alternatives, IndicesFit s) :
    IndicesFit (.oneOf alternatives)

/-! ## Nodes -/

/-- A node whose members have different names has its tag and its fields. -/
theorem tagged_node {tag : String} {fields : List (String × Json)}
    (h : ((("type", Json.string tag) :: fields).map Prod.fst).Nodup) :
  Tagged (· = .string tag) fields (node tag fields)
  := by
  apply tagged_object_iff.mpr
  constructor
  · use .string tag, sole_of_nodup h List.mem_cons_self
  · intro f hf
    apply sole_of_nodup h (List.mem_cons_of_mem _ hf)

/-- A property of strings and of words that is inherited from the fields of a node, and from
nodes in a list, holds of every document. -/
theorem toJson_induction {motive : Json → Prop}
    (string : ∀ s, motive (.string s))
    (word : ∀ n : Nat, n < Word.count → motive (.number (.int n)))
    (list : ∀ items : List Json,
      (∀ v ∈ items, motive v ∧ ∃ tag fields, v = node tag fields) → motive (.array items))
    (node : ∀ tag fields, ((("type", Json.string tag) :: fields).map Prod.fst).Nodup →
      (∀ f ∈ fields, motive f.2) → motive (node tag fields))
    {schema : Schema} (h : IndicesFit schema) :
  motive (toJson schema) ∧ ∃ tag fields, toJson schema = Document.node tag fields
  := by
  -- That documents are nodes is proved along with it, for the alternatives of a union.
  induction schema using Schema.induction with
  | scalar schema kind hkind =>
      cases schema with
      | string | number | boolean | null =>
          exact ⟨node _ _ (by simp) (by simp), _, _, rfl⟩
      | array | indexed | object | oneOf => cases hkind
  | array item ih =>
      cases h with
      | array hpart =>
          have hitem := (ih hpart).1
          exact ⟨node _ _ (by simp) (List.forall_mem_singleton.mpr hitem), _, _, rfl⟩
  | indexed entries ih =>
      cases h with
      | indexed hindex hparts =>
          have hentries : motive (.array (entriesToJson entries)) := by
            apply list
            rw [entriesToJson_eq_map, List.forall_mem_map]
            rintro ⟨index, schema⟩ he
            have hpart := (ih _ he (hparts _ he)).1
            rw [entryToJson]
            refine ⟨node _ _ (by simp) ?_, _, _, rfl⟩
            simpa using ⟨word _ (hindex _ he), hpart⟩
          exact ⟨node _ _ (by simp) (List.forall_mem_singleton.mpr hentries), _, _, rfl⟩
  | object properties ih =>
      cases h with
      | object hparts =>
          have hproperties : motive (.array (propertiesToJson properties)) := by
            apply list
            rw [propertiesToJson_eq_map, List.forall_mem_map]
            rintro ⟨presence, key, schema⟩ hp
            have hpart := (ih _ hp (hparts _ hp)).1
            rw [propertyToJson]
            refine ⟨node _ _ (by simp) ?_, _, _, rfl⟩
            simpa using ⟨string key, hpart⟩
          exact ⟨node _ _ (by simp) (List.forall_mem_singleton.mpr hproperties), _, _, rfl⟩
  | oneOf alternatives ih =>
      cases h with
      | oneOf hparts =>
          have halternatives : motive (.array (alternativesToJson alternatives)) := by
            apply list
            rw [alternativesToJson_eq_map, List.forall_mem_map]
            intro s hs
            apply ih s hs (hparts s hs)
          exact ⟨node _ _ (by simp) (List.forall_mem_singleton.mpr halternatives), _, _, rfl⟩

/-- The document of a schema has named tags. -/
theorem tagsNamed_toJson {schema : Schema} (h : IndicesFit schema) :
  TagsNamed (toJson schema)
  := by
  apply (toJson_induction .string _ _ _ h).1
  · intro n hn
    apply TagsNamed.number
  · intro items hitems
    apply tagsNamed_array_iff.mpr ⟨_, fun v hv => (hitems v hv).1⟩
    rintro n rest rfl
    obtain ⟨-, tag, fields, ⟨⟩⟩ := hitems _ List.mem_cons_self
  · intro tag fields hnodup hfields
    apply TagsNamed.object
    · intro v hv
      use tag
      apply (sole_of_nodup hnodup List.mem_cons_self).eq_of_mem hv
    · apply List.forall_mem_cons.mpr ⟨.string tag, hfields⟩

/-- The numbers in the document of a schema are its indices. -/
theorem integral_toJson {schema : Schema} (h : IndicesFit schema) :
  (toJson schema).Integral
  := by
  apply (toJson_induction .string _ _ _ h).1
  · intro n hn
    apply Json.Integral.number
    · apply Int.le_trans (by decide) (Int.natCast_nonneg n)
    · apply Int.ofNat_lt.mpr hn
  · intro items hitems
    apply Json.Integral.array fun v hv => (hitems v hv).1
  · intro tag fields hnodup hfields
    apply Json.Integral.object (List.forall_mem_cons.mpr ⟨.string tag, hfields⟩)

/-! ## Reading back -/

/-- The document of a schema with words for indices denotes the schema. -/
theorem denotes_toJson {schema : Schema} (h : IndicesFit schema) :
  Denotes (toJson schema) schema
  := by
  induction schema using Schema.induction with
  | scalar schema kind hkind =>
      cases schema with
      | string => apply Denotes.string (tagged_node (by simp))
      | number => apply Denotes.number (tagged_node (by simp))
      | boolean => apply Denotes.boolean (tagged_node (by simp))
      | null => apply Denotes.null (tagged_node (by simp))
      | array | indexed | object | oneOf => cases hkind
  | array item ih =>
      cases h with
      | array hpart => apply Denotes.array (tagged_node (by simp)) (ih hpart)
  | indexed entries ih =>
      cases h with
      | indexed hindex hparts =>
          apply Denotes.indexed (tagged_node (by simp))
          rw [entriesToJson_eq_map, List.forall₂_map_left_iff, List.forall₂_same]
          rintro ⟨index, schema⟩ he
          rw [entryToJson]
          apply DenotesEntry.entry (tagged_node (by simp)) (hindex _ he) (ih _ he (hparts _ he))
  | object properties ih =>
      cases h with
      | object hparts =>
          apply Denotes.object (tagged_node (by simp))
          rw [propertiesToJson_eq_map, List.forall₂_map_left_iff, List.forall₂_same]
          rintro ⟨presence, key, schema⟩ hp
          rw [propertyToJson]
          apply DenotesProperty.property (tagged_node (by simp)) (ih _ hp (hparts _ hp))
  | oneOf alternatives ih =>
      cases h with
      | oneOf hparts =>
          apply Denotes.oneOf (tagged_node (by simp))
          rw [alternativesToJson_eq_map, List.forall₂_map_left_iff, List.forall₂_same]
          intro s hs
          apply ih s hs (hparts s hs)

/-- A schema is read back from the compact text of its document. -/
theorem read_toJson {schema : Schema} (hindices : IndicesFit schema)
    (hlevels : (toJson schema).levels ≤ 127) :
  read (toJson schema).compact.toList = .ok schema
  := by
  have htags := tagsNamed_toJson hindices
  have hschema := (schemaOf_eq_ok_iff_denotes htags).mpr (denotes_toJson hindices)
  have hvalue := Json.Reader.value_start_compactChars (integral_toJson hindices) hlevels
  rw [Json.compact, String.toList_ofList]
  apply read_eq_ok_iff.mpr ⟨toJson schema, _, hvalue, htags.rootNamed hschema, hschema⟩

/-- A schema with a key that has to be escaped, with the greatest index twice, and with empty
lists. -/
def fullRange : Schema :=
  .object
    [⟨.required, "a\"/\n", .indexed [⟨Word.count - 1, .oneOf []⟩, ⟨Word.count - 1, .array .null⟩]⟩,
      ⟨.optional, "", .indexed []⟩]

/-- Repetitions, empty lists and escaped keys are kept. -/
theorem read_toJson_fullRange :
  IndicesFit fullRange ∧ (toJson fullRange).levels ≤ 127 ∧
    read (toJson fullRange).compact.toList = .ok fullRange
  := by
  have hpair : IndicesFit
      (.indexed [⟨Word.count - 1, .oneOf []⟩, ⟨Word.count - 1, .array .null⟩]) := by
    apply IndicesFit.indexed
    · decide
    · simp [IndicesFit.oneOf, IndicesFit.array, IndicesFit.null]
  have hindices : IndicesFit fullRange := by
    apply IndicesFit.object
    simp [hpair, IndicesFit.indexed]
  have hlevels : (toJson fullRange).levels ≤ 127 := by decide
  use hindices, hlevels, read_toJson hindices hlevels

example :
  (toJson (.array (.indexed [⟨12, .null⟩]))).compact
    = "\x7b\"type\":\"array\",\"values\":\x7b\"type\":\"array\",\"values\":[" ++
      "\x7b\"type\":\"index\",\"index\":12,\"schema\":\x7b\"type\":\"null\"\x7d\x7d]\x7d\x7d"
  := by
  decide +kernel

end Assay.Schema.Document

import Assay.Proofs.Json.Compact
import Assay.Proofs.Schema.Document.Root
import Assay.Proofs.Schema.Induction

/-!
# The grammar of documents

What a node, an entry and a property are is said here without regard to reading (`Denotes`,
`DenotesEntry`, `DenotesProperty`).  If the tags are names everywhere, a document is read as
a schema exactly if it denotes that schema (`read_eq_ok_iff_denotes`).
-/

namespace Assay.Schema.Document

open Json (Source)

/-- The tag of a property. -/
def presenceTag : Presence → String
  | .required => "property"
  | .optional => "optionalProperty"

mutual

/-- A value is a node that denotes a schema. -/
inductive Denotes : Json → Schema → Prop where
  | string {j : Json} (node : Tagged (· = .string "string") [] j) : Denotes j .string
  | number {j : Json} (node : Tagged (· = .string "number") [] j) : Denotes j .number
  | boolean {j : Json} (node : Tagged (· = .string "boolean") [] j) : Denotes j .boolean
  | null {j : Json} (node : Tagged (· = .string "null") [] j) : Denotes j .null
  | array {j v : Json} {item : Schema}
    (node : Tagged (· = .string "array") [("values", v)] j) (values : Denotes v item) :
    Denotes j (.array item)
  | indexed {j : Json} {items : List Json} {entries : List (Entry Schema)}
    (node : Tagged (· = .string "array") [("values", .array items)] j)
    (values : List.Forall₂ DenotesEntry items entries) :
    Denotes j (.indexed entries)
  | object {j : Json} {items : List Json} {properties : List (Property Schema)}
    (node : Tagged (· = .string "object") [("properties", .array items)] j)
    (values : List.Forall₂ DenotesProperty items properties) :
    Denotes j (.object properties)
  | oneOf {j : Json} {items : List Json} {alternatives : List Schema}
    (node : Tagged (· = .string "oneOf") [("schemas", .array items)] j)
    (values : List.Forall₂ Denotes items alternatives) :
    Denotes j (.oneOf alternatives)

/-- A value is an entry of an indexed array. -/
inductive DenotesEntry : Json → Entry Schema → Prop where
  | entry {j s : Json} {e : Entry Schema}
    (node : Tagged (· = .string "index") [("index", .number (.int e.index)), ("schema", s)] j)
    (index : e.index < Word.count) (schema : Denotes s e.schema) :
    DenotesEntry j e

/-- A value is a property of an object. -/
inductive DenotesProperty : Json → Property Schema → Prop where
  | property {j s : Json} {p : Property Schema}
    (node : Tagged (· = .string (presenceTag p.presence)) [("key", .string p.key), ("schema", s)] j)
    (schema : Denotes s p.schema) :
    DenotesProperty j p

end

/-- A list of entries is never a node. -/
theorem not_denotes_of_entries {items : List Json} {entries : List (Entry Schema)}
    {schema : Schema} (h : List.Forall₂ DenotesEntry items entries) :
  ¬ Denotes (.array items) schema
  := by
  have hfirst : ∀ name rest, items ≠ .string name :: rest := by
    rintro name rest rfl
    obtain ⟨e, entries, ⟨⟨⟩, -, -⟩, -, -⟩ := List.forall₂_cons_left_iff.mp h
  have hnode : ∀ name fields, ¬ Tagged (· = .string name) fields (.array items) := by
    intro name fields hnode
    obtain ⟨_, rfl, hitems⟩ := tagged_array_iff.mp hnode
    apply hfirst _ _ hitems
  rintro (hnode' | hnode' | hnode' | hnode' | hnode' | hnode' | hnode' | hnode')
  all_goals apply hnode _ _ hnode'

/-! ## Named tags -/

/-- Every member named `type` is a string, and no array starts with a number. -/
inductive TagsNamed : Json → Prop where
  | null : TagsNamed .null
  | boolean (b : Bool) : TagsNamed (.boolean b)
  | number (n : Number) : TagsNamed (.number n)
  | string (s : String) : TagsNamed (.string s)
  | array {items : List Json} (first : ∀ n rest, items ≠ .number n :: rest)
    (parts : ∀ v ∈ items, TagsNamed v) :
    TagsNamed (.array items)
  | object {members : List (String × Json)}
    (type : ∀ v, ("type", v) ∈ members → ∃ name, v = .string name)
    (parts : ∀ m ∈ members, TagsNamed m.2) :
    TagsNamed (.object members)

section

variable {j : Json} {choice : Choice} {fields : List (String × Json)}

theorem tagsNamed_array_iff {items : List Json} :
  TagsNamed (.array items) ↔
    (∀ n rest, items ≠ .number n :: rest) ∧ ∀ v ∈ items, TagsNamed v
  := by
  constructor
  · rintro (- | - | - | - | ⟨first, parts⟩)
    exact ⟨first, parts⟩
  · rintro ⟨first, parts⟩
    apply TagsNamed.array first parts

theorem tagsNamed_object_iff {members : List (String × Json)} :
  TagsNamed (.object members) ↔
    (∀ v, ("type", v) ∈ members → ∃ name, v = .string name) ∧ ∀ m ∈ members, TagsNamed m.2
  := by
  constructor
  · rintro (- | - | - | - | - | ⟨type, parts⟩)
    exact ⟨type, parts⟩
  · rintro ⟨type, parts⟩
    apply TagsNamed.object type parts

theorem TagsNamed.of_mem_fields {isTag : Json → Prop} (h : TagsNamed j)
    (hnode : Tagged isTag fields j) {name : String} {v : Json} (hv : (name, v) ∈ fields) :
  TagsNamed v
  := by
  cases hnode with
  | object type named sole =>
      apply (tagsNamed_object_iff.mp h).2 _ (sole _ hv).mem
  | array named =>
      apply (tagsNamed_array_iff.mp h).2
      apply List.mem_cons_of_mem _ (List.mem_map.mpr ⟨_, hv, rfl⟩)

/-- With named tags, it does not matter which numbers are tags. -/
theorem TagsNamed.tagged_of {isTag isTag' : Json → Prop} (h : TagsNamed j)
    (htag : ∀ tag, (∀ n, tag ≠ .number n) → isTag tag → isTag' tag)
    (hnode : Tagged isTag fields j) :
  Tagged isTag' fields j
  := by
  cases hnode with
  | object type named sole =>
      obtain ⟨name, rfl⟩ := (tagsNamed_object_iff.mp h).1 _ type.mem
      apply Tagged.object type (htag _ (by simp) named) sole
  | array named =>
      apply Tagged.array (htag _ _ named)
      rintro n rfl
      apply (tagsNamed_array_iff.mp h).1 n _ rfl

theorem TagsNamed.tagged_congr {isTag isTag' : Json → Prop} (h : TagsNamed j)
    (htag : ∀ tag, (∀ n, tag ≠ .number n) → (isTag tag ↔ isTag' tag)) :
  Tagged isTag fields j ↔ Tagged isTag' fields j
  := by
  constructor
  · apply h.tagged_of fun tag hn => (htag tag hn).mp
  · apply h.tagged_of fun tag hn => (htag tag hn).mpr

/-- What is no number is read as a tag if it is the name of the tag. -/
theorem tagOf_eq_ok_iff (hnodup : choice.tags.Nodup) {tag : Json} (hn : ∀ n, tag ≠ .number n)
    {t : Nat} :
  tagOf choice tag = .ok t ↔ ∃ name, choice.tags[t]? = some name ∧ tag = .string name
  := by
  cases tag with
  | string name => simp [tagOf, tagNamed_eq_ok_iff hnodup]
  | number n => cases hn n rfl
  | null | boolean | array | object => simp [tagOf]

/-- The tag of a node is the name at the position that is read. -/
theorem TagsNamed.node_iff (h : TagsNamed j) {t : Nat} {name : String}
    (ht : nodeChoice.tags[t]? = some name) :
  Tagged (tagOf nodeChoice · = .ok t) fields j ↔ Tagged (· = .string name) fields j
  := by
  apply h.tagged_congr
  intro tag hn
  simp [tagOf_eq_ok_iff (show nodeChoice.tags.Nodup by decide) hn, ht]

theorem TagsNamed.entry_iff (h : TagsNamed j) :
  Tagged (fun tag => ∃ t, tagOf entryChoice tag = .ok t) fields j ↔
    Tagged (· = .string "index") fields j
  := by
  apply h.tagged_congr
  intro tag hn
  simp only [tagOf_eq_ok_iff (show entryChoice.tags.Nodup by decide) hn]
  constructor
  · rintro ⟨t, name, ht, rfl⟩
    have hname := List.mem_of_getElem? ht
    rw [List.mem_singleton.mp hname]
  · rintro rfl
    use 0, "index", rfl

theorem TagsNamed.property_iff (h : TagsNamed j) {presence : Presence} :
  Tagged (fun tag => ∃ t, tagOf propertyChoice tag = .ok t ∧ presenceOf t = presence) fields j ↔
    Tagged (· = .string (presenceTag presence)) fields j
  := by
  apply h.tagged_congr
  intro tag hn
  simp only [tagOf_eq_ok_iff (show propertyChoice.tags.Nodup by decide) hn]
  constructor
  · rintro ⟨t, ⟨name, ht, rfl⟩, rfl⟩
    match t with
    | 0 | 1 =>
      cases ht
      rfl
    | t + 2 => cases ht
  · rintro rfl
    cases presence with
    | required => exact ⟨0, ⟨_, rfl, rfl⟩, rfl⟩
    | optional => exact ⟨1, ⟨_, rfl, rfl⟩, rfl⟩

theorem indexOf_eq_ok_iff {n : Nat} :
  indexOf j = .ok n ↔ j = .number (.int n) ∧ n < Word.count
  := by
  match j with
  | .number (.int i) =>
    rw [indexOf]
    split_ifs with hi
    · simp only [Except.ok.injEq, Json.number.injEq, Number.int.injEq]
      omega
    · simp only [Json.number.injEq, Number.int.injEq, false_iff]
      omega
  | .number (.float _) | .null | .boolean _ | .string _ | .array _ | .object _ => simp [indexOf]

theorem keyOf_eq_ok_iff {key : String} :
  keyOf j = .ok key ↔ j = .string key
  := by
  cases j <;> simp [keyOf]

end

/-! ## Reading what is denoted -/

/-- Relations that agree on the items of two lists relate the lists in the same way. -/
theorem forall₂_congr {α β : Type} {R S : α → β → Prop} {xs : List α} {ys : List β}
    (h : ∀ x ∈ xs, ∀ y ∈ ys, R x y ↔ S x y) :
  List.Forall₂ R xs ys ↔ List.Forall₂ S xs ys
  := by
  simp only [List.forall₂_iff_zip]
  apply and_congr_right
  intro hlength
  constructor
  · intro hR x y hmem
    apply (h x (List.of_mem_zip hmem).1 y (List.of_mem_zip hmem).2).mp (hR hmem)
  · intro hS x y hmem
    apply (h x (List.of_mem_zip hmem).1 y (List.of_mem_zip hmem).2).mpr (hS hmem)

/-- With named tags, a value is read as the entry that it is, if this holds of schemas. -/
theorem entryOf_eq_ok_iff_denotes {j : Json} (hj : TagsNamed j) {e : Entry Schema}
    (hschema : ∀ {s}, TagsNamed s → (schemaOf s = .ok e.schema ↔ Denotes s e.schema)) :
  entryOf j = .ok e ↔ DenotesEntry j e
  := by
  rw [entryOf_eq_ok_iff]
  constructor
  · rintro ⟨i, s, hnode, hi, hs⟩
    have hs' := hj.of_mem_fields hnode (List.mem_cons_of_mem _ List.mem_cons_self)
    obtain ⟨rfl, hindex⟩ := indexOf_eq_ok_iff.mp hi
    apply DenotesEntry.entry (hj.entry_iff.mp hnode) hindex ((hschema hs').mp hs)
  · rintro ⟨hnode, hindex, hs⟩
    have hs' := hj.of_mem_fields hnode (List.mem_cons_of_mem _ List.mem_cons_self)
    exact ⟨_, _, hj.entry_iff.mpr hnode, indexOf_eq_ok_iff.mpr ⟨rfl, hindex⟩, (hschema hs').mpr hs⟩

/-- With named tags, a value is read as the property that it is, if this holds of schemas. -/
theorem propertyOf_eq_ok_iff_denotes {j : Json} (hj : TagsNamed j) {p : Property Schema}
    (hschema : ∀ {s}, TagsNamed s → (schemaOf s = .ok p.schema ↔ Denotes s p.schema)) :
  propertyOf j = .ok p ↔ DenotesProperty j p
  := by
  rw [propertyOf_eq_ok_iff]
  constructor
  · rintro ⟨k, s, hnode, hk, hs⟩
    have hs' := hj.of_mem_fields hnode (List.mem_cons_of_mem _ List.mem_cons_self)
    obtain rfl := keyOf_eq_ok_iff.mp hk
    apply DenotesProperty.property (hj.property_iff.mp hnode) ((hschema hs').mp hs)
  · rintro ⟨hnode, hs⟩
    have hs' := hj.of_mem_fields hnode (List.mem_cons_of_mem _ List.mem_cons_self)
    exact ⟨_, _, hj.property_iff.mpr hnode, keyOf_eq_ok_iff.mpr rfl, (hschema hs').mpr hs⟩

/-- With named tags, a field with a list is read item by item as what the items are. -/
theorem TagsNamed.list_iff {j : Json} (hj : TagsNamed j) {t : Nat} {name field : String}
    (ht : nodeChoice.tags[t]? = some name) {β : Type} {R S : Json → β → Prop} {xs : List β}
    (h : ∀ x ∈ xs, ∀ v, TagsNamed v → (R v x ↔ S v x)) :
  (∃ v, Tagged (tagOf nodeChoice · = .ok t) [(field, v)] j ∧
      ∃ items, v = .array items ∧ List.Forall₂ R items xs) ↔
    ∃ items, Tagged (· = .string name) [(field, .array items)] j ∧ List.Forall₂ S items xs
  := by
  have hitems : ∀ items, TagsNamed (.array items) →
      (List.Forall₂ R items xs ↔ List.Forall₂ S items xs) := by
    intro items hnamed
    apply forall₂_congr
    intro v hv x hx
    apply h x hx v ((tagsNamed_array_iff.mp hnamed).2 v hv)
  constructor
  · rintro ⟨_, hnode, items, rfl, hR⟩
    have hnamed := hj.of_mem_fields hnode List.mem_cons_self
    use items, (hj.node_iff ht).mp hnode, (hitems _ hnamed).mp hR
  · rintro ⟨items, hnode, hS⟩
    have hnamed := hj.of_mem_fields hnode List.mem_cons_self
    use .array items, (hj.node_iff ht).mpr hnode, items, rfl, (hitems _ hnamed).mpr hS

/-- With named tags, a value is read as the schema that it denotes. -/
theorem schemaOf_eq_ok_iff_denotes {j : Json} (hj : TagsNamed j) {schema : Schema} :
  schemaOf j = .ok schema ↔ Denotes j schema
  := by
  induction schema using Schema.induction generalizing j with
  | scalar schema kind hkind =>
      cases schema with
      | string | number | boolean | null =>
          rw [schemaOf_eq_scalar_iff (by decide), hj.node_iff rfl]
          constructor
          · intro hnode
            constructor
            exact hnode
          · intro h
            cases h
            assumption
      | array | indexed | object | oneOf => cases hkind
  | array item ih =>
      rw [schemaOf_eq_array_iff]
      constructor
      · rintro ⟨v, hnode, hv⟩
        have hv' := hj.of_mem_fields hnode List.mem_cons_self
        apply Denotes.array ((hj.node_iff rfl).mp hnode) ((ih hv').mp hv)
      · intro h
        cases h with
        | array hnode hv =>
            have hv' := hj.of_mem_fields hnode List.mem_cons_self
            exact ⟨_, (hj.node_iff rfl).mpr hnode, (ih hv').mpr hv⟩
  | indexed entries ih =>
      simp only [schemaOf_eq_indexed_iff, entriesOf_eq_ok_iff]
      rw [hj.list_iff rfl fun e he v hv => entryOf_eq_ok_iff_denotes hv (ih e he)]
      constructor
      · rintro ⟨items, hnode, hentries⟩
        apply Denotes.indexed hnode hentries
      · intro h
        cases h with
        | indexed hnode hentries => exact ⟨_, hnode, hentries⟩
  | object properties ih =>
      simp only [schemaOf_eq_object_iff, propertiesOf_eq_ok_iff]
      rw [hj.list_iff rfl fun p hp v hv => propertyOf_eq_ok_iff_denotes hv (ih p hp)]
      constructor
      · rintro ⟨items, hnode, hproperties⟩
        apply Denotes.object hnode hproperties
      · intro h
        cases h with
        | object hnode hproperties => exact ⟨_, hnode, hproperties⟩
  | oneOf alternatives ih =>
      simp only [schemaOf_eq_oneOf_iff, schemasOf_eq_ok_iff]
      rw [hj.list_iff rfl fun s hs v hv => ih s hs hv]
      constructor
      · rintro ⟨items, hnode, halternatives⟩
        apply Denotes.oneOf hnode halternatives
      · intro h
        cases h with
        | oneOf hnode halternatives => exact ⟨_, hnode, halternatives⟩

/-! ## Texts -/

/-- A node with named tags has a named tag at its root. -/
theorem TagsNamed.rootNamed {j : Json} (hj : TagsNamed j) {schema : Schema}
    (h : schemaOf j = .ok schema) :
  RootNamed j
  := by
  cases hj with
  | object type _ => exact type
  | @array items first _ =>
      cases items with
      | nil => trivial
      | cons tag fields =>
          rw [schemaOf] at h
          obtain ⟨t, ht, -⟩ := bind_eq_ok_iff.mp h
          cases tag with
          | string name => use name
          | number n => cases first n fields rfl
          | null | boolean | array | object => cases ht
  | null | boolean | number | string => trivial

/-- A text that is a document with named tags is read as the schema that the document denotes,
which is told apart from a list of entries. -/
theorem read_eq_ok_iff_denotes {α : Type} [Source α] {text : List α} {j : Json}
    (htext : Json.Reader.document.onText text = .ok j) (htags : TagsNamed j) :
  (∀ schema, read text = .ok schema ↔ Denotes j schema) ∧
    ∀ items entries schema, List.Forall₂ DenotesEntry items entries →
      ¬ Denotes (.array items) schema
  := by
  and_intros
  · intro schema
    obtain ⟨c, hvalue⟩ := Json.Reader.exists_value_of_document htext
    rw [read_eq_ok_iff, ← schemaOf_eq_ok_iff_denotes htags]
    constructor
    · rintro ⟨j', c', hvalue', -, hschema⟩
      cases hvalue.symm.trans hvalue'
      exact hschema
    · intro hschema
      use j, c, hvalue, htags.rootNamed hschema
  · intro items entries schema h
    apply not_denotes_of_entries h

/-- An entry that is written as an array. -/
def firstString : Json :=
  .array [.string "index", .number (.int 0), .array [.string "string"]]

/-- A node that is written as an object, with its tag in the middle and a member `x` twice. -/
def mixedSpelling : Json :=
  .object [("x", .boolean true), ("type", .string "array"), ("x", .null),
    ("values", .array [firstString])]

/-- Members of other names are ignored, and fields may be written by name or in order. -/
theorem mixedSpelling_denotes :
  Json.Reader.document.onText mixedSpelling.compactChars = .ok mixedSpelling ∧
    TagsNamed mixedSpelling ∧ read mixedSpelling.compactChars = .ok (.indexed [⟨0, .string⟩])
  := by
  have hintegral : mixedSpelling.Integral := by
    have hzero : (Json.number (.int 0)).Integral := .number (by decide) (by decide)
    simp [mixedSpelling, firstString, hzero, Json.integral_object_iff, Json.integral_array_iff,
      Json.Integral.string, Json.Integral.boolean, Json.Integral.null]
  have htext := Json.Reader.document_compactChars hintegral (by decide)
  have htags : TagsNamed mixedSpelling := by
    simp [mixedSpelling, firstString, tagsNamed_object_iff, tagsNamed_array_iff, TagsNamed.null,
      TagsNamed.boolean, TagsNamed.number, TagsNamed.string]
  have hnode : Tagged (· = .string "array") [("values", .array [firstString])] mixedSpelling :=
    tagged_object_iff.mpr ⟨⟨_, rfl, rfl⟩, List.forall_mem_singleton.mpr rfl⟩
  have hentry : DenotesEntry firstString ⟨0, .string⟩ :=
    @DenotesEntry.entry _ _ ⟨0, .string⟩ (.array rfl) (by decide) (.string (.array rfl))
  use htext, htags
  apply ((read_eq_ok_iff_denotes htext htags).1 _).mpr
  apply Denotes.indexed hnode (.cons hentry .nil)

end Assay.Schema.Document

import Assay.Proofs.Json.Induction
import Assay.Proofs.Schema.Document.Members
import Mathlib.Data.List.Nodup
import Mathlib.Tactic.IntervalCases

/-!
# How nodes are spelt

`Tagged isTag fields j` says that a value has a tag and the fields of some names, in one of
the two spellings that nodes, entries and properties share.  From this follows for each of
them what it is read as: `schemaOf_eq_ok_iff`, `entryOf_eq_ok_iff` and
`propertyOf_eq_ok_iff`.
-/

namespace Assay.Schema.Document

open Json (Cause)

/-! ## Spellings -/

/-- A value has a tag and the fields of some names.  It is an object that has one member
for the tag, one for each field, and any other members; or it is an array of the tag and
the fields, in order. -/
inductive Tagged (isTag : Json → Prop) (fields : List (String × Json)) : Json → Prop where
  | object {members : List (String × Json)} {tag : Json} (type : Sole "type" tag members)
    (named : isTag tag) (sole : ∀ f ∈ fields, Sole f.1 f.2 members) :
    Tagged isTag fields (.object members)
  | array {tag : Json} (named : isTag tag) :
    Tagged isTag fields (.array (tag :: fields.map Prod.snd))

section

variable {isTag : Json → Prop} {fields : List (String × Json)} {j : Json}

theorem tagged_object_iff {members : List (String × Json)} :
  Tagged isTag fields (.object members) ↔
    (∃ tag, Sole "type" tag members ∧ isTag tag) ∧ ∀ f ∈ fields, Sole f.1 f.2 members
  := by
  constructor
  · rintro (⟨type, named, sole⟩ | _)
    exact ⟨⟨_, type, named⟩, sole⟩
  · rintro ⟨⟨tag, type, named⟩, sole⟩
    exact .object type named sole

theorem tagged_array_iff {items : List Json} :
  Tagged isTag fields (.array items) ↔
    ∃ tag, isTag tag ∧ items = tag :: fields.map Prod.snd
  := by
  constructor
  · rintro (_ | named)
    exact ⟨_, named, rfl⟩
  · rintro ⟨tag, named, rfl⟩
    exact .array named

theorem Tagged.levels_lt {name : String} {v : Json} (h : Tagged isTag fields j)
    (hv : (name, v) ∈ fields) :
  v.levels < j.levels
  := by
  cases h with
  | object type named sole => apply Json.levels_member_lt (sole _ hv).mem
  | array named =>
      apply Json.levels_item_lt
      apply List.mem_cons_of_mem _ (List.mem_map.mpr ⟨_, hv, rfl⟩)

end

/-! ## Tags -/

/-- A name stands for a position at which it is among the tags. -/
theorem getElem?_of_tagNamed {choice : Choice} {name : String} {t : Nat}
    (h : tagNamed choice name = .ok t) :
  choice.tags[t]? = some name
  := by
  rw [tagNamed] at h
  split at h
  next i hi =>
    cases h
    obtain ⟨hlt, hname, -⟩ := List.findIdx?_eq_some_iff_getElem.mp hi
    rw [List.getElem?_eq_getElem hlt, beq_iff_eq.mp hname]
  next => cases h

/-- Of tags that are all different, each stands for its position. -/
theorem tagNamed_eq_ok_iff {choice : Choice} (hnodup : choice.tags.Nodup) {name : String}
    {t : Nat} :
  tagNamed choice name = .ok t ↔ choice.tags[t]? = some name
  := by
  constructor
  · apply getElem?_of_tagNamed
  · intro h
    obtain ⟨hlt, hname⟩ := List.getElem?_eq_some_iff.mp h
    have hidx : choice.tags.idxOf? name = some t := by
      apply List.findIdx?_eq_some_iff_getElem.mpr
      use hlt, beq_iff_eq.mpr hname
      intro i hi heq
      have hsame := hnodup.getElem_inj_iff.mp ((beq_iff_eq.mp heq).trans hname.symm)
      omega
    rw [tagNamed, hidx]

/-- What is read as a tag is the position of one. -/
theorem lt_of_tagOf {choice : Choice} {v : Json} {t : Nat} (h : tagOf choice v = .ok t) :
  t < choice.tags.length
  := by
  cases v with
  | string name =>
      obtain ⟨hlt, -⟩ := List.getElem?_eq_some_iff.mp (getElem?_of_tagNamed h)
      exact hlt
  | number n =>
      cases n with
      | int i =>
          rw [tagOf] at h
          split_ifs at h
          cases h
          assumption
      | float => cases h
  | null | boolean | array | object => cases h

/-! ## Lists -/

section

variable {j : Json}

theorem schemasOfItems_eq_mapM {items : List Json} :
  schemasOfItems items = items.mapM schemaOf
  := by
  induction items with
  | nil => rw [schemasOfItems, List.mapM_nil]; rfl
  | cons v rest ih => rw [schemasOfItems, List.mapM_cons, ih]

theorem entriesOfItems_eq_mapM {items : List Json} :
  entriesOfItems items = items.mapM entryOf
  := by
  induction items with
  | nil => rw [entriesOfItems, List.mapM_nil]; rfl
  | cons v rest ih => rw [entriesOfItems, List.mapM_cons, ih]

theorem propertiesOfItems_eq_mapM {items : List Json} :
  propertiesOfItems items = items.mapM propertyOf
  := by
  induction items with
  | nil => rw [propertiesOfItems, List.mapM_nil]; rfl
  | cons v rest ih => rw [propertiesOfItems, List.mapM_cons, ih]

theorem schemasOf_eq_ok_iff {schemas : List Schema} :
  schemasOf j = .ok schemas ↔
    ∃ items, j = .array items ∧ List.Forall₂ (fun v s => schemaOf v = .ok s) items schemas
  := by
  cases j with
  | array items => simp [schemasOf, schemasOfItems_eq_mapM, mapM_eq_ok_iff]
  | null | boolean | number | string | object => simp [schemasOf]

theorem entriesOf_eq_ok_iff {entries : List (Entry Schema)} :
  entriesOf j = .ok entries ↔
    ∃ items, j = .array items ∧ List.Forall₂ (fun v e => entryOf v = .ok e) items entries
  := by
  cases j with
  | array items => simp [entriesOf, entriesOfItems_eq_mapM, mapM_eq_ok_iff]
  | null | boolean | number | string | object => simp [entriesOf]

theorem propertiesOf_eq_ok_iff {properties : List (Property Schema)} :
  propertiesOf j = .ok properties ↔
    ∃ items, j = .array items ∧ List.Forall₂ (fun v p => propertyOf v = .ok p) items properties
  := by
  cases j with
  | array items => simp [propertiesOf, propertiesOfItems_eq_mapM, mapM_eq_ok_iff]
  | null | boolean | number | string | object => simp [propertiesOf]

end

/-! ## Entries and properties -/

/-- What is left after the fields of an array has to be empty. -/
theorem ended_eq_ok_iff {γ : Type} {wanted : Nat} {x y : γ} {rest : List Json} :
  ended wanted x rest = .ok y ↔ rest = [] ∧ x = y
  := by
  cases rest <;> simp [ended]

/-- An entry is tagged and has an index and a schema. -/
theorem entryOf_eq_ok_iff {j : Json} {e : Entry Schema} :
  entryOf j = .ok e ↔
    ∃ i s, Tagged (fun tag => ∃ t, tagOf entryChoice tag = .ok t) [("index", i), ("schema", s)] j ∧
      indexOf i = .ok e.index ∧ schemaOf s = .ok e.schema
  := by
  match j with
  | .object members =>
    simp only [entryOf, bind_eq_ok_iff, tagAmong_eq_among, among_eq_ok_iff, entryAmong_eq_ok_iff,
      tagged_object_iff, List.forall_mem_cons]
    constructor
    · rintro ⟨t, ⟨tag, type, named⟩, ⟨i, hi, hindex⟩, s, hs, hschema⟩
      exact ⟨i, s, ⟨⟨tag, type, t, named⟩, hi, hs, by simp⟩, hindex, hschema⟩
    · rintro ⟨i, s, ⟨⟨tag, type, t, named⟩, hi, hs, -⟩, hindex, hschema⟩
      exact ⟨t, ⟨tag, type, named⟩, ⟨i, hi, hindex⟩, s, hs, hschema⟩
  | .array [] => simp [entryOf, tagged_array_iff]
  | .array [tag] => simp [entryOf, tagged_array_iff, bind_eq_ok_iff]
  | .array [tag, i] => simp [entryOf, tagged_array_iff, bind_eq_ok_iff]
  | .array (tag :: i :: s :: rest) =>
    simp only [entryOf, bind_eq_ok_iff, ended_eq_ok_iff, tagged_array_iff]
    constructor
    · rintro ⟨t, named, index, hindex, schema, hschema, rfl, rfl⟩
      exact ⟨i, s, ⟨tag, ⟨t, named⟩, rfl⟩, hindex, hschema⟩
    · rintro ⟨_, _, ⟨_, ⟨t, named⟩, ⟨⟩⟩, hindex, hschema⟩
      exact ⟨t, named, _, hindex, _, hschema, rfl, rfl⟩
  | .null | .boolean _ | .number _ | .string _ =>
    constructor
    · rintro ⟨⟩
    · rintro ⟨_, _, ⟨⟩, -⟩

/-- A property is tagged and has a key and a schema. -/
theorem propertyOf_eq_ok_iff {j : Json} {p : Property Schema} :
  propertyOf j = .ok p ↔
    ∃ k s, Tagged (fun tag => ∃ t, tagOf propertyChoice tag = .ok t ∧ presenceOf t = p.presence)
        [("key", k), ("schema", s)] j ∧
      keyOf k = .ok p.key ∧ schemaOf s = .ok p.schema
  := by
  match j with
  | .object members =>
    simp only [propertyOf, bind_eq_ok_iff, tagAmong_eq_among, among_eq_ok_iff,
      propertyAmong_eq_ok_iff, tagged_object_iff, List.forall_mem_cons]
    constructor
    · rintro ⟨t, ⟨tag, type, named⟩, hpresence, ⟨k, hk, hkey⟩, s, hs, hschema⟩
      exact ⟨k, s, ⟨⟨tag, type, t, named, hpresence⟩, hk, hs, by simp⟩, hkey, hschema⟩
    · rintro ⟨k, s, ⟨⟨tag, type, t, named, hpresence⟩, hk, hs, -⟩, hkey, hschema⟩
      exact ⟨t, ⟨tag, type, named⟩, hpresence, ⟨k, hk, hkey⟩, s, hs, hschema⟩
  | .array [] => simp [propertyOf, tagged_array_iff]
  | .array [tag] => simp [propertyOf, tagged_array_iff, bind_eq_ok_iff]
  | .array [tag, k] => simp [propertyOf, tagged_array_iff, bind_eq_ok_iff]
  | .array (tag :: k :: s :: rest) =>
    simp only [propertyOf, bind_eq_ok_iff, ended_eq_ok_iff, tagged_array_iff]
    constructor
    · rintro ⟨t, named, key, hkey, schema, hschema, rfl, rfl⟩
      exact ⟨k, s, ⟨tag, ⟨t, named, rfl⟩, rfl⟩, hkey, hschema⟩
    · rintro ⟨_, _, ⟨_, ⟨t, named, hpresence⟩, ⟨⟩⟩, hkey, hschema⟩
      exact ⟨t, named, p.key, hkey, p.schema, hschema, rfl, by rw [hpresence]⟩
  | .null | .boolean _ | .number _ | .string _ =>
    constructor
    · rintro ⟨⟩
    · rintro ⟨_, _, ⟨⟩, -⟩

/-! ## Nodes -/

theorem valuesOf_eq_ok_iff {entries : Except Cause (List (Entry Schema))}
    {item : Except Cause Schema} {schema : Schema} :
  valuesOf entries item = .ok schema ↔
    (∃ es, entries = .ok es ∧ schema = indexed es) ∨
      (¬ ∃ es, entries = .ok es) ∧ ∃ s, item = .ok s ∧ schema = array s
  := by
  cases entries with
  | ok es => simp [valuesOf, eq_comm]
  | error =>
      cases item with
      | ok s => simp [valuesOf, eq_comm]
      | error => simp [valuesOf]

/-- The position of the tag of a schema. -/
def tagIndex : Schema → Nat
  | .string => 0
  | .number => 1
  | .boolean => 2
  | .null => 3
  | .array _ | .indexed _ => 4
  | .object _ => 5
  | .oneOf _ => 6

/-- The name of the field of a tag that has one, which are those from the fourth on. -/
def fieldName : Nat → String
  | 4 => "values"
  | 5 => "properties"
  | _ => "schemas"

/-- The schema of a tag that has a field, from the field. -/
def schemaOfField (t : Nat) (v : Json) : Except Cause Schema :=
  match t with
  | 4 => valuesOf (entriesOf v) (schemaOf v)
  | 5 => (propertiesOf v).map .object
  | _ => (schemasOf v).map .oneOf

/-- The schema that is made of the field of a tag is one with that tag. -/
theorem tagIndex_of_schemaOfField {t : Nat} {v : Json} {schema : Schema} (hle : 4 ≤ t)
    (hlt : t < 7) (h : schemaOfField t v = .ok schema) :
  tagIndex schema = t
  := by
  interval_cases t
  · obtain ⟨es, -, rfl⟩ | ⟨-, s, -, rfl⟩ := valuesOf_eq_ok_iff.mp h
    · rfl
    · rfl
  · obtain ⟨ps, -, rfl⟩ := map_eq_ok_iff.mp h
    rfl
  · obtain ⟨ss, -, rfl⟩ := map_eq_ok_iff.mp h
    rfl

/-- A tag without a field stands for a schema, and another one for that of its member. -/
theorem tagged_eq_ok_iff {t : Nat} {members : List (String × Json)} {schema : Schema} :
  tagged t (fun _ => valuesAmong none members) (fun _ => propertiesAmong none members)
      (fun _ => schemasAmong none members) = .ok schema ↔
    t < 4 ∧ tagIndex schema = t ∨
      4 ≤ t ∧ ∃ v, Sole (fieldName t) v members ∧ schemaOfField t v = .ok schema
  := by
  match t with
  | 0 | 1 | 2 | 3 => cases schema <;> simp [tagged, tagIndex]
  | 4 =>
    simp only [tagged, valuesAmong_eq_among, among_eq_ok_iff]
    simp [fieldName, schemaOfField]
  | 5 =>
    simp only [tagged, propertiesAmong_eq_among, map_eq_ok_iff, among_eq_ok_iff]
    simp [fieldName, schemaOfField, map_eq_ok_iff, ← exists_and_left, ← exists_and_right,
      and_assoc, @exists_comm (List (Property Schema))]
  | n + 6 =>
    have hlt : ¬ n + 6 < 4 := by omega
    simp only [tagged, schemasAmong_eq_among, map_eq_ok_iff, among_eq_ok_iff]
    simp [hlt, fieldName, schemaOfField, map_eq_ok_iff, ← exists_and_left, ← exists_and_right,
      and_assoc, @exists_comm (List Schema)]

/-- A tag without a field stands for a schema, and another one for that of the only
element after it. -/
theorem schemaOfFields_eq_ok_iff {t : Nat} {fields : List Json} {schema : Schema} :
  schemaOfFields t fields = .ok schema ↔
    t < 4 ∧ tagIndex schema = t ∧ fields = [] ∨
      4 ≤ t ∧ ∃ v, fields = [v] ∧ schemaOfField t v = .ok schema
  := by
  match t, fields with
  | 0, _ | 1, _ | 2, _ | 3, _ =>
    cases schema <;> simp [schemaOfFields, tagIndex, ended_eq_ok_iff]
  | 4, [] | 5, [] => simp [schemaOfFields]
  | n + 6, [] =>
    have hlt : ¬ n + 6 < 4 := by omega
    simp [hlt, schemaOfFields]
  | 4, v :: rest | 5, v :: rest | n + 6, v :: rest =>
    simp [schemaOfFields, schemaOfField, bind_eq_ok_iff, map_eq_ok_iff, ended_eq_ok_iff,
      and_left_comm]

/-- A node has the tag of its schema, and the field of that tag if there is one. -/
theorem schemaOf_eq_ok_iff {j : Json} {schema : Schema} :
  schemaOf j = .ok schema ↔
    tagIndex schema < 4 ∧ Tagged (tagOf nodeChoice · = .ok (tagIndex schema)) [] j ∨
      4 ≤ tagIndex schema ∧
        ∃ v, Tagged (tagOf nodeChoice · = .ok (tagIndex schema))
            [(fieldName (tagIndex schema), v)] j ∧
          schemaOfField (tagIndex schema) v = .ok schema
  := by
  match j with
  | .object members =>
    simp only [schemaOf, bind_eq_ok_iff, tagAmong_eq_among, among_eq_ok_iff, tagged_eq_ok_iff,
      tagged_object_iff, List.forall_mem_singleton]
    constructor
    · rintro ⟨t, ⟨tag, type, named⟩, ⟨hlt, rfl⟩ | ⟨hle, v, hv, hschema⟩⟩
      · exact .inl ⟨hlt, ⟨tag, type, named⟩, by simp⟩
      · obtain rfl := tagIndex_of_schemaOfField hle (lt_of_tagOf named) hschema
        exact .inr ⟨hle, v, ⟨⟨tag, type, named⟩, hv⟩, hschema⟩
    · rintro (⟨hlt, htag, -⟩ | ⟨hle, v, ⟨htag, hv⟩, hschema⟩)
      · exact ⟨_, htag, .inl ⟨hlt, rfl⟩⟩
      · exact ⟨_, htag, .inr ⟨hle, v, hv, hschema⟩⟩
  | .array [] => simp [schemaOf, tagged_array_iff]
  | .array (tag :: fields) =>
    simp only [schemaOf, bind_eq_ok_iff, schemaOfFields_eq_ok_iff, tagged_array_iff]
    constructor
    · rintro ⟨t, named, ⟨hlt, rfl, rfl⟩ | ⟨hle, v, rfl, hschema⟩⟩
      · exact .inl ⟨hlt, tag, named, rfl⟩
      · obtain rfl := tagIndex_of_schemaOfField hle (lt_of_tagOf named) hschema
        exact .inr ⟨hle, v, ⟨tag, named, rfl⟩, hschema⟩
    · rintro (⟨hlt, _, named, ⟨⟩⟩ | ⟨hle, v, ⟨_, named, ⟨⟩⟩, hschema⟩)
      · exact ⟨_, named, .inl ⟨hlt, rfl, rfl⟩⟩
      · exact ⟨_, named, .inr ⟨hle, v, rfl, hschema⟩⟩
  | .null | .boolean _ | .number _ | .string _ =>
    constructor
    · rintro ⟨⟩
    · rintro (⟨-, ⟨⟩⟩ | ⟨-, _, ⟨⟩, -⟩)

/-- A node without a field has the tag of its schema. -/
theorem schemaOf_eq_scalar_iff {j : Json} {schema : Schema} (h : tagIndex schema < 4) :
  schemaOf j = .ok schema ↔ Tagged (tagOf nodeChoice · = .ok (tagIndex schema)) [] j
  := by
  rw [schemaOf_eq_ok_iff]
  simp [h, Nat.not_le.mpr h]

/-- A node is not a list of entries: it does not start with an entry. -/
theorem not_entriesOf_of_schemaOf {v : Json} {schema : Schema} (h : schemaOf v = .ok schema) :
  ¬ ∃ es, entriesOf v = .ok es
  := by
  rintro ⟨es, hes⟩
  obtain ⟨items, rfl, hitems⟩ := entriesOf_eq_ok_iff.mp hes
  cases items with
  | nil =>
      rw [schemaOf] at h
      cases h
  | cons tag fields =>
      rw [schemaOf] at h
      obtain ⟨t, ht, -⟩ := bind_eq_ok_iff.mp h
      obtain ⟨e, _, hentry, -, -⟩ := List.forall₂_cons_left_iff.mp hitems
      obtain ⟨i, s, hnode, -, -⟩ := entryOf_eq_ok_iff.mp hentry
      cases hnode with
      | object => cases ht
      | array => cases ht

theorem schemaOf_eq_array_iff {j : Json} {item : Schema} :
  schemaOf j = .ok (.array item) ↔
    ∃ v, Tagged (tagOf nodeChoice · = .ok 4) [("values", v)] j ∧ schemaOf v = .ok item
  := by
  rw [schemaOf_eq_ok_iff]
  constructor
  · rintro (⟨hlt, -⟩ | ⟨-, v, hnode, hv⟩)
    · apply absurd hlt (Nat.lt_irrefl 4)
    · obtain ⟨es, -, ⟨⟩⟩ | ⟨-, s, hs, ⟨⟩⟩ := valuesOf_eq_ok_iff.mp hv
      use v, hnode, hs
  · rintro ⟨v, hnode, hv⟩
    have hvalues := valuesOf_eq_ok_iff.mpr (.inr ⟨not_entriesOf_of_schemaOf hv, item, hv, rfl⟩)
    exact .inr ⟨Nat.le_refl 4, v, hnode, hvalues⟩

theorem schemaOf_eq_indexed_iff {j : Json} {entries : List (Entry Schema)} :
  schemaOf j = .ok (.indexed entries) ↔
    ∃ v, Tagged (tagOf nodeChoice · = .ok 4) [("values", v)] j ∧ entriesOf v = .ok entries
  := by
  rw [schemaOf_eq_ok_iff]
  simp [tagIndex, fieldName, schemaOfField, valuesOf_eq_ok_iff]

theorem schemaOf_eq_object_iff {j : Json} {properties : List (Property Schema)} :
  schemaOf j = .ok (.object properties) ↔
    ∃ v, Tagged (tagOf nodeChoice · = .ok 5) [("properties", v)] j ∧
      propertiesOf v = .ok properties
  := by
  rw [schemaOf_eq_ok_iff]
  simp [tagIndex, fieldName, schemaOfField, map_eq_ok_iff]

theorem schemaOf_eq_oneOf_iff {j : Json} {alternatives : List Schema} :
  schemaOf j = .ok (.oneOf alternatives) ↔
    ∃ v, Tagged (tagOf nodeChoice · = .ok 6) [("schemas", v)] j ∧
      schemasOf v = .ok alternatives
  := by
  rw [schemaOf_eq_ok_iff]
  simp [tagIndex, fieldName, schemaOfField, map_eq_ok_iff]

end Assay.Schema.Document

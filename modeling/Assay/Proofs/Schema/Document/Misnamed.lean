import Assay.Proofs.Schema.Document.RoundTrip

/-!
# Nodes with a wrong name

`NodeAt` tells where the nodes in the document of a schema stand, and `retag` replaces the tag
of one of them.  With a name that is no tag, the document stands for no schema any more.  That
is found out after the text was read: the fault of a node below the root has the path of the
whole document, and under `values` it does not even tell the name (`read_retag`).
-/

namespace Assay

/-- The value with another part at the end of a path.  A path that leads to no part changes
nothing. -/
def Json.replaceAt (part : Json) : List Json.Step → Json → Json
  | [], _ => part
  | .key name :: path, .object members =>
    .object (members.map fun m => if m.1 = name then (m.1, replaceAt part path m.2) else m)
  | .index i :: path, .array items => .array (items.modify i (replaceAt part path))
  | _ :: _, v => v

/-- Numbers that are integers stay so if the other part has no others. -/
theorem Json.Integral.replaceAt {part v : Json} (hpart : part.Integral) (hv : v.Integral)
    (path : List Json.Step) :
  (Json.replaceAt part path v).Integral
  := by
  induction path generalizing v with
  | nil => exact hpart
  | cons step path ih =>
      cases hv with
      | object parts =>
          cases step with
          | key name =>
              apply Json.Integral.object
              rw [List.forall_mem_map]
              intro m hm
              split_ifs
              · apply ih (parts m hm)
              · apply parts m hm
          | index | unknown => apply Json.Integral.object parts
      | array parts =>
          cases step with
          | index i =>
              apply Json.Integral.array
              intro v hv
              obtain ⟨j, hj, rfl⟩ := List.mem_iff_getElem.mp hv
              rw [List.getElem_modify]
              split_ifs
              · apply ih (parts _ (List.getElem_mem _))
              · apply parts _ (List.getElem_mem _)
          | key | unknown => apply Json.Integral.array parts
      | null => cases step <;> apply Json.Integral.null
      | boolean b => cases step <;> apply Json.Integral.boolean
      | number least count => cases step <;> apply Json.Integral.number least count
      | string s => cases step <;> apply Json.Integral.string

namespace Schema.Document

open Json (Cause Source Step)
open Json.Reader

/-- In the document of the schema there is a node at the end of the path. -/
inductive NodeAt : List Step → Schema → Prop where
  | root (schema : Schema) : NodeAt [] schema
  | item {path : List Step} {item : Schema} (part : NodeAt path item) :
    NodeAt (.key "values" :: path) (.array item)
  | entry {path : List Step} {entries : List (Entry Schema)} {i : Nat} {e : Entry Schema}
    (listed : entries[i]? = some e) (part : NodeAt path e.schema) :
    NodeAt (.key "values" :: .index i :: .key "schema" :: path) (.indexed entries)
  | property {path : List Step} {properties : List (Property Schema)} {i : Nat}
    {p : Property Schema} (listed : properties[i]? = some p) (part : NodeAt path p.schema) :
    NodeAt (.key "properties" :: .index i :: .key "schema" :: path) (.object properties)
  | alternative {path : List Step} {alternatives : List Schema} {i : Nat} {s : Schema}
    (listed : alternatives[i]? = some s) (part : NodeAt path s) :
    NodeAt (.key "schemas" :: .index i :: path) (.oneOf alternatives)

/-- The document with another tag at the node at the end of a path. -/
def retag (name : String) (path : List Step) : Json → Json :=
  Json.replaceAt (.string name) (path ++ [.key "type"])

/-! ## Documents with another tag -/

section

variable {name tag : String} {path : List Step}

theorem toJson_eq_node (schema : Schema) :
  ∃ tag fields, toJson schema = node tag fields
  := by
  cases schema <;> exact ⟨_, _, rfl⟩

theorem exists_retag_nil (name tag : String) (fields : List (String × Json)) :
  ∃ fields', retag name [] (node tag fields) = node name fields'
  := ⟨_, rfl⟩

theorem retag_field {field : String} (h : field ≠ "type") (v : Json) :
  retag name (.key field :: path) (node tag [(field, v)]) = node tag [(field, retag name path v)]
  := by
  simp [retag, Json.replaceAt, node, h.symm]

theorem retag_schema {field : String} (h : field ≠ "schema") (v w : Json) :
  retag name (.key "schema" :: path) (node tag [(field, v), ("schema", w)])
    = node tag [(field, v), ("schema", retag name path w)]
  := by
  simp [retag, Json.replaceAt, node, h]

theorem retag_array (i : Nat) (items : List Json) :
  retag name (.index i :: path) (.array items) = .array (items.modify i (retag name path))
  := rfl

/-- A node stays an object. -/
theorem exists_retag_node (name : String) (path : List Step) (tag : String)
    (fields : List (String × Json)) :
  ∃ members, retag name path (node tag fields) = .object members
  := by
  match path with
  | [] | .key _ :: _ | .index _ :: _ | .unknown :: _ => exact ⟨_, rfl⟩

end

/-! ## What nodes stand for -/

section

variable {name tag : String} {v : Json}

theorem schemaOf_node_of_error {fields : List (String × Json)} {cause : Cause}
    (h : tagNamed nodeChoice name = .error cause) :
  schemaOf (node name fields) = .error cause
  := by
  rw [node, schemaOf, tagAmong, if_pos rfl, tagOf, h]
  rfl

theorem tagNamed_of_not_mem {choice : Choice} (h : name ∉ choice.tags) :
  tagNamed choice name = .error (.unknownVariant name choice.tags)
  := by
  rw [tagNamed, List.idxOf?_eq_none_iff.mpr h]

/-- A node with a field stands for what the field stands for. -/
theorem schemaOf_node {t : Nat} (htag : tagNamed nodeChoice tag = .ok t)
    (ht : t = 4 ∨ t = 5 ∨ t = 6) :
  schemaOf (node tag [(fieldName t, v)]) = schemaOfField t v
  := by
  have hne : fieldName t ≠ "type" := by
    obtain rfl | rfl | rfl := ht <;> decide
  have hnames : ([("type", Json.string tag), (fieldName t, v)].map Prod.fst).Nodup := by
    simpa using hne.symm
  have htype : Sole "type" (.string tag) [("type", .string tag), (fieldName t, v)] :=
    sole_of_nodup hnames List.mem_cons_self
  have hfield : Sole (fieldName t) v [("type", .string tag), (fieldName t, v)] :=
    sole_of_nodup hnames (List.mem_cons_of_mem _ List.mem_cons_self)
  rw [node, schemaOf, tagAmong_eq_among, among_eq_of_sole htype, tagOf, htag]
  obtain rfl | rfl | rfl := ht
  · exact valuesAmong_eq_among.trans (among_eq_of_sole hfield)
  · exact congrArg (Except.map object) (propertiesAmong_eq_among.trans (among_eq_of_sole hfield))
  · exact congrArg (Except.map oneOf) (schemasAmong_eq_among.trans (among_eq_of_sole hfield))

theorem propertyOf_node {presence : Presence} {key : String} :
  propertyOf (node (presenceTag presence) [("key", .string key), ("schema", v)])
    = (schemaOf v).map fun s => ⟨presence, key, s⟩
  := by
  cases presence with
  | required | optional =>
      cases hv : schemaOf v with
      | ok | error =>
          simp only [node, presenceTag, propertyOf, tagAmong, ↓reduceIte, tagOf, String.reduceEq,
            propertyAmong, once, keyOf, hv]
          rfl

end

/-- Parts that are no list of entries and no node are not told apart. -/
theorem valuesOf_eq_error {entries : Except Cause (List (Entry Schema))}
    {item : Except Cause Schema} (hentries : ¬ ∃ es, entries = .ok es)
    (hitem : ¬ ∃ s, item = .ok s) :
  valuesOf entries item = .error (.noVariant "ValuesDoc")
  := by
  cases entries with
  | ok es => exact absurd ⟨es, rfl⟩ hentries
  | error =>
      cases item with
      | ok s => exact absurd ⟨s, rfl⟩ hitem
      | error => rfl

/-- An array that starts with an object is no node. -/
theorem not_schemaOf_object_cons (members : List (String × Json)) (items : List Json) :
  ¬ ∃ s, schemaOf (.array (.object members :: items)) = .ok s
  := by
  rintro ⟨s, hs⟩
  rw [schemaOf] at hs
  obtain ⟨t, ht, -⟩ := bind_eq_ok_iff.mp hs
  cases ht

/-- An array of which one element is no entry is no list of entries. -/
theorem not_entriesOf_of_mem {items : List Json} {v : Json} (hv : v ∈ items)
    (h : ¬ ∃ e, entryOf v = .ok e) :
  ¬ ∃ es, entriesOf (.array items) = .ok es
  := by
  rintro ⟨es, hes⟩
  rw [entriesOf, entriesOfItems_eq_mapM] at hes
  obtain ⟨e, -, he⟩ := exists_of_mapM_eq_ok hes hv
  apply h ⟨e, he⟩

/-- An entry whose schema is none is no entry. -/
theorem not_entryOf_node {i v : Json} (h : ¬ ∃ s, schemaOf v = .ok s) :
  ¬ ∃ e, entryOf (node "index" [("index", i), ("schema", v)]) = .ok e
  := by
  rintro ⟨e, he⟩
  obtain ⟨_, s, hnode, -, hs⟩ := entryOf_eq_ok_iff.mp he
  have hsole := (tagged_object_iff.mp hnode).2 ("schema", s) (by simp)
  obtain rfl : v = s := hsole.eq_of_mem (by simp)
  apply h ⟨e.schema, hs⟩

/-! ## Misnamed nodes -/

/-- The cause of the fault of a document with a wrong name for the node at the end of a path.
What is wrong with `values` is not told. -/
def misnamed (name : String) : List Step → Cause
  | [] => .unknownVariant name nodeChoice.tags
  | .key "values" :: _ => .noVariant "ValuesDoc"
  | _ :: path => misnamed name path

theorem schemaOf_toJson {schema : Schema} (h : IndicesFit schema) :
  schemaOf (toJson schema) = .ok schema
  := (schemaOf_eq_ok_iff_denotes (tagsNamed_toJson h)).mpr (denotes_toJson h)

/-- Entries stay objects. -/
theorem exists_modify_entries {entries : List (Entry Schema)} {i : Nat} {e : Entry Schema}
    (h : entries[i]? = some e) (name : String) (path : List Step) :
  ∃ members items,
    (entries.map entryToJson).modify i (retag name path) = .object members :: items
  := by
  cases entries with
  | nil => cases h
  | cons e' rest =>
      obtain ⟨index, schema⟩ := e'
      rw [List.map_cons, entryToJson]
      cases i with
      | zero =>
          obtain ⟨members, hretag⟩ := exists_retag_node name path "index"
            [("index", .number (.int index)), ("schema", toJson schema)]
          rw [List.modify_zero_cons, hretag]
          exact ⟨_, _, rfl⟩
      | succ i => exact ⟨_, _, rfl⟩

section

variable {name : String} {path : List Step} {cause : Cause} {i : Nat}

/-- The fault of the node of all elements is not told. -/
theorem schemaOf_retag_item {item : Schema}
    (h : schemaOf (retag name path (toJson item)) = .error cause) :
  schemaOf (retag name (.key "values" :: path) (toJson (.array item)))
    = .error (.noVariant "ValuesDoc")
  := by
  obtain ⟨tag, fields, hj⟩ := toJson_eq_node item
  obtain ⟨members, hretag⟩ := exists_retag_node name path tag fields
  rw [toJson, retag_field (by decide)]
  apply Eq.trans (schemaOf_node (t := 4) rfl (by decide))
  apply valuesOf_eq_error
  · rw [hj, hretag]
    simp [entriesOf]
  · rw [h]
    simp

/-- The fault of the node of an entry is not told. -/
theorem schemaOf_retag_entry {entries : List (Entry Schema)} {e : Entry Schema}
    (listed : entries[i]? = some e)
    (h : schemaOf (retag name path (toJson e.schema)) = .error cause) :
  schemaOf (retag name (.key "values" :: .index i :: .key "schema" :: path)
      (toJson (.indexed entries)))
    = .error (.noVariant "ValuesDoc")
  := by
  obtain ⟨members, items, hitems⟩ := exists_modify_entries listed name (.key "schema" :: path)
  have hmem : retag name (.key "schema" :: path) (entryToJson e)
      ∈ (entries.map entryToJson).modify i (retag name (.key "schema" :: path)) := by
    apply List.mem_of_getElem?
    rw [List.getElem?_modify_eq, List.getElem?_map, listed]
    rfl
  have hentry : ¬ ∃ e', entryOf (retag name (.key "schema" :: path) (entryToJson e)) = .ok e' := by
    obtain ⟨index, schema⟩ := e
    rw [entryToJson, retag_schema (by decide)]
    apply not_entryOf_node
    rw [h]
    simp
  rw [toJson, entriesToJson_eq_map, retag_field (by decide), retag_array]
  apply Eq.trans (schemaOf_node (t := 4) rfl (by decide))
  apply valuesOf_eq_error
  · apply not_entriesOf_of_mem hmem hentry
  · rw [hitems]
    apply not_schemaOf_object_cons

/-- The fault of the node of a property is that of the object. -/
theorem schemaOf_retag_property {properties : List (Property Schema)} {p : Property Schema}
    (hparts : ∀ p ∈ properties, IndicesFit p.schema) (listed : properties[i]? = some p)
    (h : schemaOf (retag name path (toJson p.schema)) = .error cause) :
  schemaOf (retag name (.key "properties" :: .index i :: .key "schema" :: path)
      (toJson (.object properties)))
    = .error cause
  := by
  rw [toJson, propertiesToJson_eq_map, retag_field (by decide), retag_array]
  apply Eq.trans (schemaOf_node (t := 5) rfl (by decide))
  apply map_eq_error_iff.mpr
  rw [propertiesOf, propertiesOfItems_eq_mapM]
  apply mapM_modify_eq_error
  · rw [List.forall_mem_map]
    rintro ⟨presence, key, schema⟩ hp
    rw [propertyToJson, propertyOf_node, schemaOf_toJson (hparts _ hp)]
    exact ⟨_, rfl⟩
  · rw [List.getElem?_map, listed]
    rfl
  · obtain ⟨presence, key, schema⟩ := p
    rw [propertyToJson, retag_schema (by decide), propertyOf_node, h]
    rfl

/-- The fault of the node of an alternative is that of the union. -/
theorem schemaOf_retag_alternative {alternatives : List Schema} {s : Schema}
    (hparts : ∀ s ∈ alternatives, IndicesFit s) (listed : alternatives[i]? = some s)
    (h : schemaOf (retag name path (toJson s)) = .error cause) :
  schemaOf (retag name (.key "schemas" :: .index i :: path) (toJson (.oneOf alternatives)))
    = .error cause
  := by
  rw [toJson, alternativesToJson_eq_map, retag_field (by decide), retag_array]
  apply Eq.trans (schemaOf_node (t := 6) rfl (by decide))
  apply map_eq_error_iff.mpr
  rw [schemasOf, schemasOfItems_eq_mapM]
  apply mapM_modify_eq_error
  · rw [List.forall_mem_map]
    intro s' hs'
    exact ⟨s', schemaOf_toJson (hparts s' hs')⟩
  · rw [List.getElem?_map, listed]
    rfl
  · exact h

end

/-- With a wrong name for one of its nodes, the document of a schema stands for no schema. -/
theorem schemaOf_retag {schema : Schema} (hindices : IndicesFit schema) {path : List Step}
    (hnode : NodeAt path schema) {name : String} (hname : name ∉ nodeChoice.tags) :
  schemaOf (retag name path (toJson schema)) = .error (misnamed name path)
  := by
  induction hnode with
  | root schema =>
      obtain ⟨tag, fields, hj⟩ := toJson_eq_node schema
      obtain ⟨fields', hretag⟩ := exists_retag_nil name tag fields
      rw [hj, hretag, schemaOf_node_of_error (tagNamed_of_not_mem hname)]
      rfl
  | item _ ih =>
      cases hindices with
      | array hpart => exact schemaOf_retag_item (ih hpart)
  | entry listed _ ih =>
      cases hindices with
      | indexed _ hparts =>
          exact schemaOf_retag_entry listed (ih (hparts _ (List.mem_of_getElem? listed)))
  | property listed _ ih =>
      cases hindices with
      | object hparts =>
          have hpart := hparts _ (List.mem_of_getElem? listed)
          exact schemaOf_retag_property hparts listed (ih hpart)
  | alternative listed _ ih =>
      cases hindices with
      | oneOf hparts =>
          have hpart := hparts _ (List.mem_of_getElem? listed)
          exact schemaOf_retag_alternative hparts listed (ih hpart)

/-! ## Where the fault is told to be -/

/-- The document of a schema has a node at its root, and another tag below does not change the
tag of that. -/
theorem exists_retag_of_nested {schema : Schema} {path : List Step} (hnode : NodeAt path schema)
    (hnested : path ≠ []) (name : String) :
  ∃ tag t field v, retag name path (toJson schema) = node tag [(field, v)] ∧ field ≠ "type" ∧
    tagNamed nodeChoice tag = .ok t
  := by
  cases hnode with
  | root => exact absurd rfl hnested
  | item =>
      rw [toJson, retag_field (by decide)]
      exact ⟨"array", 4, "values", _, rfl, by decide, rfl⟩
  | entry =>
      rw [toJson, retag_field (by decide)]
      exact ⟨"array", 4, "values", _, rfl, by decide, rfl⟩
  | property =>
      rw [toJson, retag_field (by decide)]
      exact ⟨"object", 5, "properties", _, rfl, by decide, rfl⟩
  | alternative =>
      rw [toJson, retag_field (by decide)]
      exact ⟨"oneOf", 6, "schemas", _, rfl, by decide, rfl⟩

/-- The text of a path below the root starts with a name. -/
theorem not_prefix_of_nested {schema : Schema} {path : List Step} (hnode : NodeAt path schema)
    (hnested : path ≠ []) :
  ¬ (Step.path path).toList <+: (Step.path []).toList
  := by
  have hname : ∀ (field : String) (rest : List Step), 1 < field.toList.length →
      ¬ (Step.path (.key field :: rest)).toList <+: (Step.path []).toList := by
    intro field rest hlength hprefix
    have hroot : (Step.path []).toList.length = 1 := by decide
    have hle := hprefix.length_le
    rw [hroot, Step.path, String.toList_append, List.length_append] at hle
    omega
  cases hnode with
  | root => exact absurd rfl hnested
  | item | entry | property | alternative => apply hname _ _ (by decide)

/-- A document in which a node below the root has a wrong name is not read, and the fault is
told to be at the root. -/
theorem read_retag {α : Type} [Source α] {schema : Schema} (hindices : IndicesFit schema)
    {path : List Step} (hnode : NodeAt path schema) (hnested : path ≠ []) {name : String}
    (hname : name ∉ nodeChoice.tags) {text : List α}
    (htext : document.onText text = .ok (retag name path (toJson schema))) :
  ∃ fault, read text = .error fault ∧ fault.cause = misnamed name path ∧
    fault.pathText = "." ∧ ¬ (Step.path path).toList <+: fault.pathText.toList
  := by
  have hschema := schemaOf_retag hindices hnode hname
  obtain ⟨tag, t, field, v, hretag, hfield, htag⟩ := exists_retag_of_nested hnode hnested name
  rw [hretag] at htext hschema
  have htype : Sole "type" (.string tag) [("type", .string tag), (field, v)] :=
    sole_of_nodup (by simpa using hfield.symm) List.mem_cons_self
  have hread := read_eq_error htext ((among_eq_of_sole htype).trans htag) hschema
  exact ⟨_, hread, rfl, rfl, not_prefix_of_nested hnode hnested⟩

/-- A property whose schema asks for arrays of something unknown. -/
def unknownItem : List Char :=
  "\x7b\"type\":\"object\",\"properties\":[".toList ++
    "\x7b\"type\":\"property\",\"key\":\"k\",\"schema\":".toList ++
    "\x7b\"type\":\"array\",\"values\":\x7b\"type\":\"text\"\x7d\x7d\x7d]\x7d".toList

theorem read_unknownItem :
  IndicesFit (.object [⟨.required, "k", .array .string⟩]) ∧
    NodeAt [.key "properties", .index 0, .key "schema", .key "values"]
      (.object [⟨.required, "k", .array .string⟩]) ∧
    "text" ∉ nodeChoice.tags ∧
    document.onText unknownItem
      = .ok (retag "text" [.key "properties", .index 0, .key "schema", .key "values"]
          (toJson (.object [⟨.required, "k", .array .string⟩]))) ∧
    ∃ fault, read unknownItem = .error fault ∧ fault.cause = .noVariant "ValuesDoc" ∧
      fault.pathText = "." ∧ ¬ "properties[0].schema.values".toList <+: fault.pathText.toList
  := by
  have hindices : IndicesFit (.object [⟨.required, "k", .array .string⟩]) :=
    .object (List.forall_mem_singleton.mpr (.array .string))
  have hnode : NodeAt [.key "properties", .index 0, .key "schema", .key "values"]
      (.object [⟨.required, "k", .array .string⟩]) :=
    .property rfl (.item (.root .string))
  have hname : "text" ∉ nodeChoice.tags := by decide
  have hintegral : (retag "text" [.key "properties", .index 0, .key "schema", .key "values"]
      (toJson (.object [⟨.required, "k", .array .string⟩]))).Integral :=
    .replaceAt (.string "text") (integral_toJson hindices) _
  have htext : document.onText unknownItem
      = .ok (retag "text" [.key "properties", .index 0, .key "schema", .key "values"]
          (toJson (.object [⟨.required, "k", .array .string⟩]))) := by
    have hcompact : unknownItem
        = (retag "text" [.key "properties", .index 0, .key "schema", .key "values"]
            (toJson (.object [⟨.required, "k", .array .string⟩]))).compactChars := by
      decide +kernel
    rw [hcompact, document_compactChars hintegral (by decide)]
  exact ⟨hindices, hnode, hname, htext, read_retag hindices hnode (by decide) hname htext⟩

/-- A union with one alternative, whose name is no tag. -/
def integerAlternative : List Char :=
  "\x7b\"type\":\"oneOf\",\"schemas\":[\x7b\"type\":\"integer\"\x7d]\x7d".toList

/-- The fault of the alternative is not told to be at the alternative. -/
theorem read_integerAlternative :
  IndicesFit (.oneOf [.string]) ∧ NodeAt [.key "schemas", .index 0] (.oneOf [.string]) ∧
    "integer" ∉ nodeChoice.tags ∧
    document.onText integerAlternative
      = .ok (retag "integer" [.key "schemas", .index 0] (toJson (.oneOf [.string]))) ∧
    ∃ fault, read integerAlternative = .error fault ∧ fault.pathText = "." ∧
      ¬ "schemas[0]".toList <+: fault.pathText.toList
  := by
  have hindices : IndicesFit (.oneOf [.string]) := .oneOf (List.forall_mem_singleton.mpr .string)
  have hintegral : (retag "integer" [.key "schemas", .index 0] (toJson (.oneOf [.string]))).Integral :=
    .replaceAt (.string "integer") (integral_toJson hindices) _
  have htext : document.onText integerAlternative
      = .ok (retag "integer" [.key "schemas", .index 0] (toJson (.oneOf [.string]))) := by
    have hcompact : integerAlternative
        = (retag "integer" [.key "schemas", .index 0] (toJson (.oneOf [.string]))).compactChars := by
      decide +kernel
    rw [hcompact, document_compactChars hintegral (by decide)]
  have hread : read integerAlternative
      = .error ⟨.unknownVariant "integer" nodeChoice.tags, none, []⟩ := read_eq_error htext rfl rfl
  exact ⟨hindices, .alternative rfl (.root .string), by decide, htext, _, hread, rfl, by decide⟩

end Schema.Document

end Assay

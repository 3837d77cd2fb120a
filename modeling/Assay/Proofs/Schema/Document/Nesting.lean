import Assay.Proofs.Json.Extension
import Assay.Proofs.Json.Pretty
import Assay.Proofs.Schema.Document.RoundTrip

/-!
# Documents inside documents

The text of a document may stand for a node inside another one.  There it is read as a value
first, and the tag of the value may also be a number; at the root a tag has to be a name.
Hence a document means the same inside a union as inside a property, and that is what it
means at the root, as long as its own tag is a name (`read_nested_iff`).
-/

namespace Assay.Schema.Document

open Json (quoteChars)
open Json.Reader

/-! ## Roots -/

/-- The text of a document is read as the schema that its value stands for, if the tag of the
value is a name. -/
theorem read_eq_ok_iff_of_document {text : List Char} {j : Json}
    (h : document.onText text = .ok j) {schema : Schema} :
  read text = .ok schema ↔ RootNamed j ∧ schemaOf j = .ok schema
  := by
  obtain ⟨c, hvalue⟩ := exists_value_of_document h
  rw [read_eq_ok_iff]
  constructor
  · rintro ⟨j', c', hvalue', hnamed, hschema⟩
    cases hvalue.symm.trans hvalue'
    exact ⟨hnamed, hschema⟩
  · rintro ⟨hnamed, hschema⟩
    use j, c, hvalue, hnamed, hschema

/-! ## Nodes -/

section

variable {tag : String} {fields : List (String × Json)} {isTag : Json → Prop}

theorem rootNamed_node (h : "type" ∉ fields.map Prod.fst) :
  RootNamed (node tag fields)
  := by
  intro v hv
  obtain hv | hv := List.mem_cons.mp hv
  · use tag, (Prod.mk.inj hv).2
  · cases h (List.mem_map_of_mem hv)

/-- A node is tagged with whatever its tag is. -/
theorem tagged_node_of (hnames : ((("type", Json.string tag) :: fields).map Prod.fst).Nodup)
    (htag : isTag (.string tag)) :
  Tagged isTag fields (node tag fields)
  := by
  obtain ⟨⟨_, type, rfl⟩, sole⟩ := tagged_object_iff.mp (tagged_node hnames)
  apply tagged_object_iff.mpr ⟨⟨_, type, htag⟩, sole⟩

/-- The fields that a node is tagged with are its own. -/
theorem Tagged.eq_of_mem {fields' : List (String × Json)}
    (h : Tagged isTag fields' (node tag fields)) {name : String} {v w : Json}
    (hv : (name, v) ∈ fields') (hw : (name, w) ∈ fields) :
  w = v
  := by
  have hsole : Sole name v (("type", .string tag) :: fields) := (tagged_object_iff.mp h).2 _ hv
  apply hsole.eq_of_mem (List.mem_cons_of_mem _ hw)

end

/-- The text of an array, from the texts of its elements. -/
def itemsText (texts : List (List Char)) : List Char :=
  '[' :: (commas texts ++ [']'])

/-- The text of a member, from the text of its value. -/
def fieldText (f : String × List Char) : List Char :=
  quoteChars f.1.toList ++ ':' :: f.2

/-- The text of a node, from the texts of its fields. -/
def nodeText (tag : String) (fields : List (String × List Char)) : List Char :=
  '\x7b' :: (commas (fieldText ("type", quoteChars tag.toList) :: fields.map fieldText) ++ ['\x7d'])

section

variable {depth : Nat}

theorem takes_quoteChars (s : String) :
  Takes (value depth) (quoteChars s.toList) (.string s)
  := by
  have hread := Reads.value_quoteChars depth s.toList
  rw [String.ofList_toList] at hread
  apply (ReadsDelimited.of_reads hread).takes

theorem takes_itemsText {texts : List (List Char)} {items : List Json}
    (h : List.Forall₂ (Takes (value depth)) texts items) :
  Takes (value (depth + 1)) (itemsText texts) (.array items)
  := by
  have hread := Reads.value_array h spaces_nil
  rw [List.append_nil] at hread
  apply (ReadsDelimited.of_reads hread).takes

theorem takesMember_fieldText {name : String} {us : List Char} {v : Json}
    (h : Takes (value depth) us v) :
  TakesMember depth (fieldText (name, us)) (name, v)
  := ⟨[], us, rfl, spaces_nil, h⟩

/-- The text of a node is taken for the node if the texts of its fields are taken for the
fields. -/
theorem takes_nodeText {tag : String} {texts : List (String × List Char)}
    {fields : List (String × Json)}
    (h : List.Forall₂ (fun t f => t.1 = f.1 ∧ Takes (value depth) t.2 f.2) texts fields) :
  Takes (value (depth + 1)) (nodeText tag texts) (node tag fields)
  := by
  have hfields : List.Forall₂ (TakesMember depth) (texts.map fieldText) fields := by
    rw [List.forall₂_map_left_iff]
    apply h.imp
    rintro ⟨name, us⟩ ⟨_, v⟩ ⟨rfl, hv⟩
    apply takesMember_fieldText hv
  have htag : TakesMember depth (fieldText ("type", quoteChars tag.toList))
      ("type", .string tag) := takesMember_fieldText (takes_quoteChars tag)
  have hread := Reads.value_object (.cons htag hfields) spaces_nil
  rw [List.append_nil] at hread
  apply (ReadsDelimited.of_reads hread).takes

end

/-! ## Unions of one alternative -/

/-- The text of a union, around the text of its alternative. -/
def unionText (text : List Char) : List Char :=
  "\x7b\"type\":\"oneOf\",\"schemas\":[".toList ++ (text ++ "]\x7d".toList)

/-- The node of a union, around the node of its alternative. -/
def unionNode (j : Json) : Json :=
  node "oneOf" [("schemas", .array [j])]

theorem unionText_eq_nodeText (text : List Char) :
  unionText text = nodeText "oneOf" [("schemas", itemsText [text])]
  := by
  have hquoted : quoteChars "type".toList = "\"type\"".toList ∧
      quoteChars "oneOf".toList = "\"oneOf\"".toList ∧
      quoteChars "schemas".toList = "\"schemas\"".toList := by
    decide +kernel
  unfold unionText
  simp only [nodeText, fieldText, List.map_cons, List.map_nil, hquoted]
  simp [itemsText, commas, following]

theorem takes_unionText {depth : Nat} {text : List Char} {j : Json}
    (h : Takes (value depth) text j) :
  Takes (value (depth + 2)) (unionText text) (unionNode j)
  := by
  have hschemas : Takes (value (depth + 1)) (itemsText [text]) (.array [j]) :=
    takes_itemsText (.cons h .nil)
  rw [unionText_eq_nodeText]
  apply takes_nodeText (.cons ⟨rfl, hschemas⟩ .nil)

theorem schemaOf_unionNode_iff {j : Json} {schema : Schema} :
  schemaOf (unionNode j) = .ok (.oneOf [schema]) ↔ schemaOf j = .ok schema
  := by
  rw [schemaOf_eq_oneOf_iff]
  constructor
  · rintro ⟨v, hnode, hv⟩
    cases hnode.eq_of_mem List.mem_cons_self List.mem_cons_self
    obtain ⟨items, ⟨⟩, hitems⟩ := schemasOf_eq_ok_iff.mp hv
    exact (List.forall₂_cons.mp hitems).1
  · intro h
    use .array [j], tagged_node_of (by simp) rfl
    apply schemasOf_eq_ok_iff.mpr ⟨[j], rfl, .cons h .nil⟩

/-! ## Objects of one property -/

/-- The text of an object schema, around the text of the schema of its property. -/
def recordText (text : List Char) : List Char :=
  "\x7b\"type\":\"object\",\"properties\":[".toList
    ++ ("\x7b\"type\":\"property\",\"key\":\"k\",\"schema\":".toList
      ++ (text ++ "\x7d]\x7d".toList))

/-- The node of the property of an object schema. -/
def propertyNode (j : Json) : Json :=
  node "property" [("key", .string "k"), ("schema", j)]

/-- The node of an object schema, around the node of the schema of its property. -/
def recordNode (j : Json) : Json :=
  node "object" [("properties", .array [propertyNode j])]

theorem recordText_eq_nodeText (text : List Char) :
  recordText text = nodeText "object" [("properties", itemsText
    [nodeText "property" [("key", quoteChars "k".toList), ("schema", text)]])]
  := by
  have hquoted : quoteChars "type".toList = "\"type\"".toList ∧
      quoteChars "object".toList = "\"object\"".toList ∧
      quoteChars "properties".toList = "\"properties\"".toList ∧
      quoteChars "property".toList = "\"property\"".toList ∧
      quoteChars "key".toList = "\"key\"".toList ∧
      quoteChars "k".toList = "\"k\"".toList ∧
      quoteChars "schema".toList = "\"schema\"".toList := by
    decide +kernel
  unfold recordText
  simp only [nodeText, fieldText, List.map_cons, List.map_nil, hquoted]
  simp [itemsText, commas, following]

theorem takes_recordText {depth : Nat} {text : List Char} {j : Json}
    (h : Takes (value depth) text j) :
  Takes (value (depth + 3)) (recordText text) (recordNode j)
  := by
  have hproperty : Takes (value (depth + 1))
      (nodeText "property" [("key", quoteChars "k".toList), ("schema", text)]) (propertyNode j) :=
    takes_nodeText (.cons ⟨rfl, takes_quoteChars "k"⟩ (.cons ⟨rfl, h⟩ .nil))
  have hproperties : Takes (value (depth + 2)) (itemsText [nodeText "property"
      [("key", quoteChars "k".toList), ("schema", text)]]) (.array [propertyNode j]) :=
    takes_itemsText (.cons hproperty .nil)
  rw [recordText_eq_nodeText]
  apply takes_nodeText (.cons ⟨rfl, hproperties⟩ .nil)

theorem propertyOf_propertyNode_iff {j : Json} {schema : Schema} :
  propertyOf (propertyNode j) = .ok ⟨.required, "k", schema⟩ ↔ schemaOf j = .ok schema
  := by
  rw [propertyOf_eq_ok_iff]
  constructor
  · rintro ⟨k, s, hnode, -, hs⟩
    cases hnode.eq_of_mem (List.mem_cons_of_mem _ List.mem_cons_self)
      (List.mem_cons_of_mem _ List.mem_cons_self)
    exact hs
  · intro h
    use .string "k", j, tagged_node_of (by simp) ⟨0, rfl, rfl⟩, rfl

theorem schemaOf_recordNode_iff {j : Json} {schema : Schema} :
  schemaOf (recordNode j) = .ok (.object [⟨.required, "k", schema⟩]) ↔ schemaOf j = .ok schema
  := by
  rw [schemaOf_eq_object_iff]
  constructor
  · rintro ⟨v, hnode, hv⟩
    cases hnode.eq_of_mem List.mem_cons_self List.mem_cons_self
    obtain ⟨items, ⟨⟩, hitems⟩ := propertiesOf_eq_ok_iff.mp hv
    exact propertyOf_propertyNode_iff.mp (List.forall₂_cons.mp hitems).1
  · intro h
    use .array [propertyNode j], tagged_node_of (by simp) rfl
    apply propertiesOf_eq_ok_iff.mpr ⟨[propertyNode j], rfl, .cons _ .nil⟩
    apply propertyOf_propertyNode_iff.mpr h

/-! ## Nesting -/

/-- A document inside a union stands for an alternative if its value does. -/
theorem read_unionText_iff {text : List Char} {j : Json} (htext : document.onText text = .ok j)
    (hlevels : j.levels ≤ 125) {schema : Schema} :
  read (unionText text) = .ok (.oneOf [schema]) ↔ schemaOf j = .ok schema
  := by
  have hunion := document_of_takes (takes_unionText (takes_of_document htext hlevels))
  rw [read_eq_ok_iff_of_document hunion, schemaOf_unionNode_iff]
  exact and_iff_right (rootNamed_node (by simp))

/-- A document inside a property stands for the schema of the property if its value does. -/
theorem read_recordText_iff {text : List Char} {j : Json} (htext : document.onText text = .ok j)
    (hlevels : j.levels ≤ 124) {schema : Schema} :
  read (recordText text) = .ok (.object [⟨.required, "k", schema⟩]) ↔ schemaOf j = .ok schema
  := by
  have hrecord := document_of_takes (takes_recordText (takes_of_document htext hlevels))
  rw [read_eq_ok_iff_of_document hrecord, schemaOf_recordNode_iff]
  exact and_iff_right (rootNamed_node (by simp))

/-- A document stands for the same schema inside a union and inside a property.  It stands for
that schema at the root if moreover its tag is a name. -/
theorem read_nested_iff {text : List Char} {j : Json} (htext : document.onText text = .ok j)
    (hlevels : j.levels ≤ 124) (schema : Schema) :
  (read (unionText text) = .ok (.oneOf [schema]) ↔
      read (recordText text) = .ok (.object [⟨.required, "k", schema⟩])) ∧
    (read text = .ok schema ↔
      RootNamed j ∧ read (unionText text) = .ok (.oneOf [schema]))
  := by
  rw [read_unionText_iff htext (Nat.le_succ_of_le hlevels), read_recordText_iff htext hlevels]
  exact ⟨Iff.rfl, read_eq_ok_iff_of_document htext⟩

/-- A node that is an array and stands on three lines. -/
def nullOnLines : List Char := "[\n  \"null\"\n]".toList

theorem read_nested_nullOnLines :
  document.onText nullOnLines = .ok (.array [.string "null"]) ∧
    (Json.array [.string "null"]).levels ≤ 124 ∧
    read (unionText nullOnLines) = .ok (.oneOf [.null]) ∧
    read (recordText nullOnLines) = .ok (.object [⟨.required, "k", .null⟩]) ∧
    read nullOnLines = .ok .null
  := by
  have hintegral : (Json.array [.string "null"]).Integral := .array (by simp [Json.Integral.string])
  have hread : ReadsDelimited (value maxDepth) ((Json.array [.string "null"]).prettyChars 0) _ :=
    .value_prettyChars hintegral (by decide) 0
  have htext : document.onText nullOnLines = .ok (.array [.string "null"]) := by
    have hlines : nullOnLines = (Json.array [.string "null"]).prettyChars 0 := by decide +kernel
    rw [hlines, document_of_takes hread.takes]
  have hlevels : (Json.array [.string "null"]).levels ≤ 124 := by decide
  have hunion : read (unionText nullOnLines) = .ok (.oneOf [.null]) :=
    (read_unionText_iff htext (by decide)).mpr rfl
  obtain ⟨hsame, hroot⟩ := read_nested_iff htext hlevels .null
  exact ⟨htext, hlevels, hunion, hsame.mp hunion, hroot.mpr ⟨⟨"null", rfl⟩, hunion⟩⟩

/-- A node of which the tag is a number. -/
def numberedString : List Char := "\x7b\"type\":0\x7d".toList

/-- A tag that is a number is a tag inside a union and inside a property, but not at the
root. -/
theorem read_numberedString :
  document.onText numberedString = .ok (.object [("type", .number (.int 0))]) ∧
    (Json.object [("type", .number (.int 0))]).levels ≤ 124 ∧
    read (unionText numberedString) = .ok (.oneOf [.string]) ∧
    read (recordText numberedString) = .ok (.object [⟨.required, "k", .string⟩]) ∧
    read numberedString ≠ .ok .string
  := by
  have hintegral : (Json.object [("type", .number (.int 0))]).Integral := by
    have hzero : (Json.number (.int 0)).Integral := .number (by decide) (by decide)
    apply Json.Integral.object (List.forall_mem_singleton.mpr hzero)
  have htext : document.onText numberedString = .ok (.object [("type", .number (.int 0))]) := by
    have hcompact : numberedString = (Json.object [("type", .number (.int 0))]).compactChars := by
      decide +kernel
    rw [hcompact, document_compactChars hintegral (by decide)]
  have hlevels : (Json.object [("type", .number (.int 0))]).levels ≤ 124 := by decide
  use htext, hlevels
  and_intros
  · apply (read_unionText_iff htext (by decide)).mpr rfl
  · apply (read_recordText_iff htext hlevels).mpr rfl
  · intro h
    obtain ⟨name, hname⟩ := ((read_eq_ok_iff_of_document htext).mp h).1 _ List.mem_cons_self
    cases hname

end Assay.Schema.Document

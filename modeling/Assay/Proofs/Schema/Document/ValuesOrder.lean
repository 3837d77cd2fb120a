import Assay.Proofs.Schema.Document.Spelling
import Assay.Schema.Text

/-!
# The order of the readings of `values`

The member `values` of an array is a list of entries or a node.  No value is both, so that it
does not matter which of the two is tried first: a reader that tries nodes first reads every
document as `read` does (`values_unambiguous`).

Such a reader is `read` with another choice between the two readings of `values`, at every
level.  The reader of nodes is opened for this: `nodeBy` reads a node by a given reader of the
nodes in it and a given choice, `schemaBy` closes it for any choice (`schemaBy_eq`), and a choice
that differs from the usual one on no value reads documents as `read` does (`readBy_eq_read`).
-/

namespace Assay.Schema.Document

open Json (Cause Fault Source)

/-! ## Open readers -/

/-- A choice between the readings of `values` as a list of entries and as a node. -/
abbrev ValuesChoice :=
  Except Cause (List (Entry Schema)) → Except Cause Schema → Except Cause Schema

/-- The list that an array stands for, by a reader of its items. -/
def listBy {γ : Type} (item : Json → Except Cause γ) : Json → Except Cause (List γ)
  | .array items => items.mapM item
  | v => .error (wrongType v "a sequence")

section

variable {κ : Type}

/-- The two fields of a record among members: one of a name, and a schema. -/
def recordAmong (name : String) (read : Json → Except Cause κ)
    (schema : Json → Except Cause Schema) :
    Option κ → Option Schema → List (String × Json) → Except Cause (κ × Schema)
  | x, s, [] => do return (← needed name x, ← needed "schema" s)
  | x, s, (k, v) :: rest =>
    if k = name then do recordAmong name read schema (← once k x (read v)) s rest
    else if k = "schema" then do recordAmong name read schema x (← once k s (schema v)) rest
    else recordAmong name read schema x s rest

/-- The position of the tag and the two fields of a record. -/
def recordBy (choice : Choice) (variant : Nat → String) (name : String)
    (read : Json → Except Cause κ) (schema : Json → Except Cause Schema) :
    Json → Except Cause (Nat × κ × Schema)
  | .object members => do
    let tag ← tagAmong choice none members
    return (tag, ← recordAmong name read schema none none members)
  | .array [] => .error (.missingField "type")
  | .array (v :: fields) => do
    let tag ← tagOf choice v
    match fields with
    | [] => .error (tooShort choice (variant tag) 0 2)
    | [x] => do
      let _ ← read x
      .error (tooShort choice (variant tag) 1 2)
    | x :: s :: rest => do ended 2 (tag, ← read x, ← schema s) rest
  | v => .error (untagged choice v)

end

section

variable (schema : Json → Except Cause Schema)

/-- The entry that a value stands for, by a reader of nodes. -/
def entryBy (j : Json) : Except Cause (Entry Schema) :=
  (recordBy entryChoice (fun _ => "Index") "index" indexOf schema j).map
    fun (_, index, s) => ⟨index, s⟩

/-- The property that a value stands for, by a reader of nodes. -/
def propertyBy (j : Json) : Except Cause (Property Schema) :=
  (recordBy propertyChoice (fun tag => presenceVariant (presenceOf tag)) "key" keyOf schema j).map
    fun (tag, key, s) => ⟨presenceOf tag, key, s⟩

/-- What `values` stands for, by a choice between its two readings. -/
def valuesBy (choose : ValuesChoice) (j : Json) : Except Cause Schema :=
  choose (listBy (entryBy schema) j) (schema j)

/-- The schema of a tag with the fields in order, by a reader of nodes. -/
def fieldsBy (choose : ValuesChoice) : Nat → List Json → Except Cause Schema
  | 0, fields => ended 0 .string fields
  | 1, fields => ended 0 .number fields
  | 2, fields => ended 0 .boolean fields
  | 3, fields => ended 0 .null fields
  | 4, [] => .error (tooShort nodeChoice "Array" 0 1)
  | 4, v :: rest => do ended 1 (← valuesBy schema choose v) rest
  | 5, [] => .error (tooShort nodeChoice "Object" 0 1)
  | 5, v :: rest => do ended 1 (.object (← listBy (propertyBy schema) v)) rest
  | _, [] => .error (tooShort nodeChoice "OneOf" 0 1)
  | _, v :: rest => do ended 1 (.oneOf (← listBy schema v)) rest

/-- The schema of a tag with the fields among members, by a reader of nodes. -/
def membersBy (choose : ValuesChoice) (tag : Nat) (members : List (String × Json)) :
    Except Cause Schema :=
  tagged tag (fun _ => among "values" (valuesBy schema choose) none members)
    (fun _ => among "properties" (listBy (propertyBy schema)) none members)
    (fun _ => among "schemas" (listBy schema) none members)

/-- The schema that a node stands for, by a reader of the nodes in it. -/
def nodeBy (choose : ValuesChoice) : Json → Except Cause Schema
  | .object members => do membersBy schema choose (← tagAmong nodeChoice none members) members
  | .array [] => .error (.missingField "type")
  | .array (tag :: fields) => do fieldsBy schema choose (← tagOf nodeChoice tag) fields
  | v => .error (untagged nodeChoice v)

end

/-! ## A reader looks at parts only -/

section

variable {γ κ : Type} {choice : Choice} {variant : Nat → String} {name : String}
  {read : Json → Except Cause κ} {schema schema' : Json → Except Cause Schema}
  {choose : ValuesChoice} {j : Json} {members : List (String × Json)} {fields : List Json}
  {tag : Nat}

/-- A list is read by readers of its items, which have fewer levels. -/
theorem listBy_congr {item item' : Json → Except Cause γ}
    (h : ∀ v, v.levels < j.levels → item v = item' v) :
  listBy item j = listBy item' j
  := by
  cases j with
  | array items => apply mapM_congr fun v hv => h v (Json.levels_item_lt hv)
  | null | boolean | number | string | object => rfl

/-- Members are read by readers of their values. -/
theorem among_congr {f f' : Json → Except Cause γ} {old : Option γ}
    (h : ∀ m ∈ members, f m.2 = f' m.2) :
  among name f old members = among name f' old members
  := by
  induction members generalizing old with
  | nil => rfl
  | cons m rest ih =>
      obtain ⟨hm, hrest⟩ := List.forall_mem_cons.mp h
      rw [among, among, hm]
      simp only [ih hrest]

theorem recordAmong_congr {x : Option κ} {s : Option Schema}
    (h : ∀ m ∈ members, schema m.2 = schema' m.2) :
  recordAmong name read schema x s members = recordAmong name read schema' x s members
  := by
  induction members generalizing x s with
  | nil => rfl
  | cons m rest ih =>
      obtain ⟨hm, hrest⟩ := List.forall_mem_cons.mp h
      rw [recordAmong, recordAmong, hm]
      simp only [ih hrest]

/-- A record is read by readers of its parts, which have fewer levels. -/
theorem recordBy_congr (h : ∀ v, v.levels < j.levels → schema v = schema' v) :
  recordBy choice variant name read schema j = recordBy choice variant name read schema' j
  := by
  match j with
  | .object members =>
    have hmembers : ∀ m ∈ members, schema m.2 = schema' m.2 :=
      fun m hm => h m.2 (Json.levels_member_lt hm)
    simp only [recordBy, recordAmong_congr hmembers]
  | .array (v :: x :: s :: rest) =>
    have hs : schema s = schema' s := h s (Json.levels_item_lt (by simp))
    simp only [recordBy, hs]
  | .array [] | .array [_] | .array [_, _] => rfl
  | .null | .boolean _ | .number _ | .string _ => rfl

theorem entryBy_congr (h : ∀ v, v.levels < j.levels → schema v = schema' v) :
  entryBy schema j = entryBy schema' j
  := by
  rw [entryBy, entryBy, recordBy_congr h]

theorem propertyBy_congr (h : ∀ v, v.levels < j.levels → schema v = schema' v) :
  propertyBy schema j = propertyBy schema' j
  := by
  rw [propertyBy, propertyBy, recordBy_congr h]

/-- Both readings of `values` are by readers of what has no more levels than the value. -/
theorem valuesBy_congr (h : ∀ v, v.levels ≤ j.levels → schema v = schema' v) :
  valuesBy schema choose j = valuesBy schema' choose j
  := by
  have hentries : listBy (entryBy schema) j = listBy (entryBy schema') j :=
    listBy_congr fun v hv => entryBy_congr fun w hw =>
      h w (Nat.le_of_lt (Nat.lt_trans hw hv))
  rw [valuesBy, valuesBy, hentries, h j (Nat.le_refl _)]

theorem listBy_propertyBy_congr (h : ∀ v, v.levels ≤ j.levels → schema v = schema' v) :
  listBy (propertyBy schema) j = listBy (propertyBy schema') j
  := listBy_congr fun _ hv => propertyBy_congr fun w hw =>
    h w (Nat.le_of_lt (Nat.lt_trans hw hv))

theorem listBy_schema_congr (h : ∀ v, v.levels ≤ j.levels → schema v = schema' v) :
  listBy schema j = listBy schema' j
  := listBy_congr fun _ hv => h _ (Nat.le_of_lt hv)

/-- The fields of a tag are read by readers of what has no more levels than they have. -/
theorem fieldsBy_congr
    (h : ∀ v ∈ fields, ∀ w, w.levels ≤ v.levels → schema w = schema' w) :
  fieldsBy schema choose tag fields = fieldsBy schema' choose tag fields
  := by
  match tag, fields with
  | 0, _ | 1, _ | 2, _ | 3, _ => rfl
  | 4, [] | 5, [] | _ + 6, [] => rfl
  | 4, v :: rest => simp only [fieldsBy, valuesBy_congr (h v List.mem_cons_self)]
  | 5, v :: rest => simp only [fieldsBy, listBy_propertyBy_congr (h v List.mem_cons_self)]
  | _ + 6, v :: rest => simp only [fieldsBy, listBy_schema_congr (h v List.mem_cons_self)]

/-- The members of a tag are read by readers of what has no more levels than their values. -/
theorem membersBy_congr
    (h : ∀ m ∈ members, ∀ w, w.levels ≤ m.2.levels → schema w = schema' w) :
  membersBy schema choose tag members = membersBy schema' choose tag members
  := by
  rw [membersBy, membersBy, among_congr fun m hm => valuesBy_congr (h m hm),
    among_congr fun m hm => listBy_propertyBy_congr (h m hm),
    among_congr fun m hm => listBy_schema_congr (h m hm)]

/-- A node is read alike by readers that agree on what is in it. -/
theorem nodeBy_congr (h : ∀ v, v.levels < j.levels → schema v = schema' v) :
  nodeBy schema choose j = nodeBy schema' choose j
  := by
  match j with
  | .object members =>
    have hmembers (tag : Nat) :
        membersBy schema choose tag members = membersBy schema' choose tag members :=
      membersBy_congr fun m hm w hw =>
        h w (Nat.lt_of_le_of_lt hw (Json.levels_member_lt hm))
    simp only [nodeBy, hmembers]
  | .array (v :: fields) =>
    have hfields (tag : Nat) :
        fieldsBy schema choose tag fields = fieldsBy schema' choose tag fields :=
      fieldsBy_congr fun w hw u hu =>
        h u (Nat.lt_of_le_of_lt hu (Json.levels_item_lt (List.mem_cons_of_mem v hw)))
    simp only [nodeBy, hfields]
  | .array [] | .null | .boolean _ | .number _ | .string _ => rfl

end

/-! ## The readers of documents, opened -/

section

variable {members : List (String × Json)} {j : Json}

theorem entryAmong_eq_recordAmong {fields : EntryFields} :
  entryAmong fields members
    = (recordAmong "index" indexOf schemaOf fields.index fields.schema members).map
        fun (index, s) => ⟨index, s⟩
  := by
  induction members generalizing fields with
  | nil =>
      rw [entryAmong, recordAmong]
      cases needed "index" fields.index with
      | error cause => rfl
      | ok index => cases needed "schema" fields.schema <;> rfl
  | cons m rest ih =>
      obtain ⟨k, v⟩ := m
      rw [entryAmong, recordAmong]
      split_ifs
      · cases once k fields.index (indexOf v) with
        | error cause => rfl
        | ok index => exact ih
      · cases once k fields.schema (schemaOf v) with
        | error cause => rfl
        | ok s => exact ih
      · exact ih

theorem propertyAmong_eq_recordAmong {presence : Presence} {fields : PropertyFields} :
  propertyAmong presence fields members
    = (recordAmong "key" keyOf schemaOf fields.key fields.schema members).map
        fun (key, s) => ⟨presence, key, s⟩
  := by
  induction members generalizing fields with
  | nil =>
      rw [propertyAmong, recordAmong]
      cases needed "key" fields.key with
      | error cause => rfl
      | ok key => cases needed "schema" fields.schema <;> rfl
  | cons m rest ih =>
      obtain ⟨k, v⟩ := m
      rw [propertyAmong, recordAmong]
      split_ifs
      · cases once k fields.key (keyOf v) with
        | error cause => rfl
        | ok key => exact ih
      · cases once k fields.schema (schemaOf v) with
        | error cause => rfl
        | ok s => exact ih
      · exact ih

theorem entryOf_eq_entryBy :
  entryOf j = entryBy schemaOf j
  := by
  match j with
  | .object members =>
    simp only [entryOf, entryBy, recordBy, entryAmong_eq_recordAmong]
    cases tagAmong entryChoice none members with
    | error cause => rfl
    | ok tag => cases recordAmong "index" indexOf schemaOf none none members <;> rfl
  | .array [v] =>
    simp only [entryOf, entryBy, recordBy]
    cases tagOf entryChoice v <;> rfl
  | .array [v, x] =>
    simp only [entryOf, entryBy, recordBy]
    cases tagOf entryChoice v with
    | error cause => rfl
    | ok tag => cases indexOf x <;> rfl
  | .array (v :: x :: s :: rest) =>
    simp only [entryOf, entryBy, recordBy]
    cases tagOf entryChoice v with
    | error cause => rfl
    | ok tag =>
        cases indexOf x with
        | error cause => rfl
        | ok index =>
            cases schemaOf s with
            | error cause => rfl
            | ok schema => cases rest <;> rfl
  | .array [] | .null | .boolean _ | .number _ | .string _ => rfl

theorem propertyOf_eq_propertyBy :
  propertyOf j = propertyBy schemaOf j
  := by
  match j with
  | .object members =>
    simp only [propertyOf, propertyBy, recordBy, propertyAmong_eq_recordAmong]
    cases tagAmong propertyChoice none members with
    | error cause => rfl
    | ok tag => cases recordAmong "key" keyOf schemaOf none none members <;> rfl
  | .array [v] =>
    simp only [propertyOf, propertyBy, recordBy]
    cases tagOf propertyChoice v <;> rfl
  | .array [v, x] =>
    simp only [propertyOf, propertyBy, recordBy]
    cases tagOf propertyChoice v with
    | error cause => rfl
    | ok tag => cases keyOf x <;> rfl
  | .array (v :: x :: s :: rest) =>
    simp only [propertyOf, propertyBy, recordBy]
    cases tagOf propertyChoice v with
    | error cause => rfl
    | ok tag =>
        cases keyOf x with
        | error cause => rfl
        | ok key =>
            cases schemaOf s with
            | error cause => rfl
            | ok schema => cases rest <;> rfl
  | .array [] | .null | .boolean _ | .number _ | .string _ => rfl

theorem schemasOf_eq_listBy :
  schemasOf j = listBy schemaOf j
  := by
  cases j with
  | array items => apply schemasOfItems_eq_mapM
  | null | boolean | number | string | object => rfl

theorem entriesOf_eq_listBy :
  entriesOf j = listBy (entryBy schemaOf) j
  := by
  have hentry : entryOf = entryBy schemaOf := funext fun v => entryOf_eq_entryBy
  cases j with
  | array items => rw [entriesOf, entriesOfItems_eq_mapM, hentry, listBy]
  | null | boolean | number | string | object => rfl

theorem propertiesOf_eq_listBy :
  propertiesOf j = listBy (propertyBy schemaOf) j
  := by
  have hproperty : propertyOf = propertyBy schemaOf := funext fun v => propertyOf_eq_propertyBy
  cases j with
  | array items => rw [propertiesOf, propertiesOfItems_eq_mapM, hproperty, listBy]
  | null | boolean | number | string | object => rfl

/-- The usual choice is one of the choices. -/
theorem valuesOf_eq_valuesBy :
  valuesOf (entriesOf j) (schemaOf j) = valuesBy schemaOf valuesOf j
  := by
  rw [valuesBy, entriesOf_eq_listBy]

theorem schemaOfFields_eq_fieldsBy {tag : Nat} {fields : List Json} :
  schemaOfFields tag fields = fieldsBy schemaOf valuesOf tag fields
  := by
  match tag, fields with
  | 0, _ | 1, _ | 2, _ | 3, _ => rw [schemaOfFields, fieldsBy]
  | 4, [] | 5, [] | _ + 6, [] => rfl
  | 4, v :: rest => simp only [schemaOfFields, fieldsBy, valuesOf_eq_valuesBy]
  | 5, v :: rest => simp only [schemaOfFields, fieldsBy, propertiesOf_eq_listBy]
  | _ + 6, v :: rest => simp only [schemaOfFields, fieldsBy, schemasOf_eq_listBy]

theorem tagged_eq_membersBy {tag : Nat} :
  tagged tag (fun _ => valuesAmong none members) (fun _ => propertiesAmong none members)
      (fun _ => schemasAmong none members)
    = membersBy schemaOf valuesOf tag members
  := by
  have hschemas : schemasOf = listBy schemaOf := funext fun v => schemasOf_eq_listBy
  have hproperties : propertiesOf = listBy (propertyBy schemaOf) :=
    funext fun v => propertiesOf_eq_listBy
  simp only [valuesAmong_eq_among, propertiesAmong_eq_among, schemasAmong_eq_among,
    valuesOf_eq_valuesBy, hschemas, hproperties, membersBy]

end

/-! ## Closing a reader -/

/-- The schema that a node stands for, with a choice between the readings of every `values`
in it. -/
def schemaBy (choose : ValuesChoice) (j : Json) : Except Cause Schema :=
  -- Only what is in the node is asked for, by `nodeBy_congr`.
  let inside := fun v =>
    if v.levels < j.levels then schemaBy choose v else .error (untagged nodeChoice v)
  nodeBy inside choose j
termination_by j.levels

/-- The schema that a root stands for, with a choice between the readings of `values`. -/
def Root.schemaBy (choose : ValuesChoice) : Root → Except Cause Schema
  | .object tag members => membersBy (Document.schemaBy choose) choose tag members
  | .array tag fields => fieldsBy (Document.schemaBy choose) choose tag fields

/-- The schema that the text of a document stands for, with a choice between the readings of
`values`. -/
def readBy {α : Type} [Source α] (choose : ValuesChoice) (text : List α) : Except Fault Schema := do
  let r ← root.onText text
  (r.schemaBy choose).mapError fun cause => ⟨cause, none, []⟩

/-- Closing the reader leaves it the reader of nodes, opened at itself. -/
theorem schemaBy_eq (choose : ValuesChoice) (j : Json) :
  schemaBy choose j = nodeBy (schemaBy choose) choose j
  := by
  rw [schemaBy]
  apply nodeBy_congr
  intro v hv
  rw [if_pos hv]

section

variable {choose : ValuesChoice}

/-- A choice that is made like `valuesOf` where the two readings do not both succeed. -/
def Agrees (choose : ValuesChoice) : Prop :=
  ∀ entries item, ¬ ((∃ es, entries = .ok es) ∧ ∃ s, item = .ok s) →
    choose entries item = valuesOf entries item

/-- Such a choice is made like `valuesOf` everywhere, since no value is both. -/
theorem valuesBy_eq_of_agrees (h : Agrees choose) :
  valuesBy schemaOf choose = valuesBy schemaOf valuesOf
  := by
  funext j
  rw [valuesBy, valuesBy, ← entriesOf_eq_listBy]
  apply h
  rintro ⟨hentries, s, hs⟩
  apply not_entriesOf_of_schemaOf hs hentries

theorem fieldsBy_eq_of_agrees (h : Agrees choose) (tag : Nat) (fields : List Json) :
  fieldsBy schemaOf choose tag fields = schemaOfFields tag fields
  := by
  rw [schemaOfFields_eq_fieldsBy]
  match tag, fields with
  | 0, _ | 1, _ | 2, _ | 3, _ => rfl
  | 4, [] | 5, [] | _ + 6, [] => rfl
  | 4, v :: rest => simp only [fieldsBy, valuesBy_eq_of_agrees h]
  | 5, _ :: _ | _ + 6, _ :: _ => rfl

theorem membersBy_eq_of_agrees (h : Agrees choose) (tag : Nat) (members : List (String × Json)) :
  membersBy schemaOf choose tag members = (Root.object tag members).schema
  := by
  rw [Root.schema, tagged_eq_membersBy, membersBy, membersBy, valuesBy_eq_of_agrees h]

/-- A choice that agrees with the usual one reads nodes alike if the nodes in them are read alike.
-/
theorem nodeBy_eq_of_agrees (h : Agrees choose) (j : Json) :
  nodeBy schemaOf choose j = schemaOf j
  := by
  match j with
  | .object members => simp only [nodeBy, membersBy_eq_of_agrees h, schemaOf, Root.schema]
  | .array (v :: fields) => simp only [nodeBy, fieldsBy_eq_of_agrees h, schemaOf]
  | .array [] | .null | .boolean _ | .number _ | .string _ => rfl

/-- Every node is read alike with such a choice, by induction on its levels. -/
theorem schemaBy_eq_schemaOf (h : Agrees choose) :
  schemaBy choose = schemaOf
  := by
  funext j
  induction hn : j.levels using Nat.strong_induction_on generalizing j with
  | _ n ih =>
      rw [schemaBy_eq, ← nodeBy_eq_of_agrees h]
      apply nodeBy_congr
      intro v hv
      apply ih v.levels (hn ▸ hv) v rfl

/-- Every document is read alike with such a choice. -/
theorem readBy_eq_read (h : Agrees choose) {α : Type} [Source α] (text : List α) :
  readBy choose text = read text
  := by
  rw [readBy, read]
  cases root.onText text with
  | error fault => rfl
  | ok r =>
      have hr : r.schemaBy choose = r.schema := by
        cases r with
        | object tag members =>
            rw [Root.schemaBy, schemaBy_eq_schemaOf h, membersBy_eq_of_agrees h]
        | array tag fields =>
            rw [Root.schemaBy, schemaBy_eq_schemaOf h, fieldsBy_eq_of_agrees h, Root.schema]
      show (r.schemaBy choose).mapError _ = _
      dsimp only
      rw [hr]
      cases r.schema <;> rfl

end

/-! ## The other order -/

/-- The array that a list of entries or a node of its elements stands for, where a node is
tried first. -/
def nodeFirst : ValuesChoice := fun entries item =>
  match item with
  | .ok s => .ok (.array s)
  | .error _ =>
    match entries with
    | .ok es => .ok (.indexed es)
    | .error _ => .error (.noVariant "ValuesDoc")

/-- Trying nodes first makes a difference only to a value that is both. -/
theorem agrees_nodeFirst :
  Agrees nodeFirst
  := by
  intro entries item hnot
  cases item with
  | error cause => cases entries <;> rfl
  | ok s =>
      cases entries with
      | error cause => rfl
      | ok es => apply absurd ⟨⟨es, rfl⟩, s, rfl⟩ hnot

/-- No value is both a list of entries and a node, and documents are read alike whichever of
the two is tried first. -/
theorem values_unambiguous :
  (∀ j, ¬ ((∃ entries, entriesOf j = .ok entries) ∧ ∃ schema, schemaOf j = .ok schema)) ∧
    (∀ j, schemaBy nodeFirst j = schemaOf j) ∧
    ∀ {α : Type} [Source α] (text : List α), readBy nodeFirst text = read text
  := by
  constructor
  · rintro j ⟨hentries, schema, hschema⟩
    apply not_entriesOf_of_schemaOf hschema hentries
  · constructor
    · intro j
      rw [schemaBy_eq_schemaOf agrees_nodeFirst]
    · intro α _ text
      apply readBy_eq_read agrees_nodeFirst

end Assay.Schema.Document

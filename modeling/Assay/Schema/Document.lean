import Assay.Json.Reader
import Assay.Schema.Basic

/-!
# Schema documents

Schemas written as JSON.  A node has a tag and the fields of its tag.  It is an object
with a member `type`, whose further members are looked up by name and otherwise ignored,
or an array that starts with the tag and goes on with the fields in their order.  The
entries of an indexed array and the properties of an object are written in the same two
ways, with tags of their own.

The text is first read into a tree, up to the root's tag.  Faults of this phase have a
place and a path; faults of the tree, found afterwards, have neither.
-/

namespace Assay

namespace Schema.Document

open Json (Cause Fault Found Reader)

/-- A tagged choice: its name and the tags, in order. -/
structure Choice where
  name : String
  tags : List String

/-- The tags of a node. -/
def nodeChoice : Choice where
  name := "SchemaDoc"
  tags := ["string", "number", "boolean", "null", "array", "object", "oneOf"]

/-- The tags of an entry of an indexed array. -/
def entryChoice : Choice := ⟨"IndexDoc", ["index"]⟩

/-- The tags of a property. -/
def propertyChoice : Choice := ⟨"PropertyDoc", ["property", "optionalProperty"]⟩

/-- What a value is, for a fault. -/
def found : Json → Found
  | .null => .null
  | .boolean b => .boolean b
  | .number n => .number n
  | .string s => .string s
  | .array _ => .sequence
  | .object _ => .map

/-- The fault of a value that is of the wrong kind. -/
def wrongType (v : Json) (expected : String) : Cause := .invalidType (found v) expected

/-- The fault of a value that is not tagged at all. -/
def untagged (choice : Choice) (v : Json) : Cause :=
  wrongType v ("internally tagged enum " ++ choice.name)

/-- The position of a tag. -/
def tagNamed (choice : Choice) (name : String) : Except Cause Nat :=
  match choice.tags.idxOf? name with
  | some i => .ok i
  | none => .error (.unknownVariant name choice.tags)

/-- The position that a value gives as a tag, by name or by number. -/
def tagOf (choice : Choice) : Json → Except Cause Nat
  | .string name => tagNamed choice name
  | .number (.int i) =>
    if i < 0 then .error (.invalidType (.number (.int i)) "variant identifier")
    else if i.toNat < choice.tags.length then .ok i.toNat
    else .error (.invalidValue (.number (.int i))
      ("variant index 0 <= i < " ++ toString choice.tags.length))
  | v => .error (wrongType v "variant identifier")

/-- The tag among members, which has to be there exactly once. -/
def tagAmong (choice : Choice) : Option Nat → List (String × Json) → Except Cause Nat
  | some tag, [] => .ok tag
  | none, [] => .error (.missingField "type")
  | tag, (k, v) :: rest =>
    if k = "type" then
      match tag with
      | some _ => .error (.duplicateField "type")
      | none =>
        match tagOf choice v with
        | .ok t => tagAmong choice (some t) rest
        | .error e => .error e
    else tagAmong choice tag rest

/-- A count of elements, in words. -/
def elementsText (n : Nat) : String :=
  if n = 1 then "1 element" else toString n ++ " elements"

/-- The fault of an array with `n` fields, where `wanted` are wanted and all of them were
read. -/
def tooLong (n wanted : Nat) : Cause :=
  .invalidLength n (elementsText wanted ++ " in sequence")

/-- The fault of an array with only `n` fields. -/
def tooShort (choice : Choice) (variant : String) (n wanted : Nat) : Cause :=
  .invalidLength n
    ("struct variant " ++ choice.name ++ "::" ++ variant ++ " with " ++ elementsText wanted)

/-- Puts the value of a field that was not there before. -/
def once {γ : Type} (name : String) (old : Option γ) (new : Except Cause γ) :
    Except Cause (Option γ) :=
  match old with
  | some _ => .error (.duplicateField name)
  | none => new.map some

/-- The value of a field that has to be there. -/
def needed {γ : Type} (name : String) : Option γ → Except Cause γ
  | some x => .ok x
  | none => .error (.missingField name)

/-- The fields of a property, as far as they were read. -/
structure PropertyFields where
  key : Option String
  schema : Option Schema

/-- The fields of an entry, as far as they were read. -/
structure EntryFields where
  index : Option Nat
  schema : Option Schema

/-- The key of a property. -/
def keyOf : Json → Except Cause String
  | .string s => .ok s
  | v => .error (wrongType v "a string")

/-- The index of an entry, an unsigned 64-bit word. -/
def indexOf : Json → Except Cause Nat
  | .number (.int i) =>
    if 0 ≤ i ∧ i < Word.count then .ok i.toNat
    else .error (.invalidValue (.number (.int i)) "usize")
  | v => .error (wrongType v "usize")

/-- The presence that the position of a tag of a property stands for. -/
def presenceOf (tag : Nat) : Presence := if tag = 0 then .required else .optional

/-- The name of the variant of a property. -/
def presenceVariant : Presence → String
  | .required => "Property"
  | .optional => "OptionalProperty"

/-- The array that a list of entries or a node of its elements stands for.  A list of
entries is tried first. -/
def valuesOf (entries : Except Cause (List (Entry Schema))) (item : Except Cause Schema) :
    Except Cause Schema :=
  match entries with
  | .ok es => .ok (.indexed es)
  | .error _ =>
    match item with
    | .ok s => .ok (.array s)
    | .error _ => .error (.noVariant "ValuesDoc")

/-- What was read, if no field is left after the `wanted` ones. -/
def ended {γ : Type} (wanted : Nat) (x : γ) : List Json → Except Cause γ
  | [] => .ok x
  | rest => .error (tooLong (wanted + rest.length) wanted)

/-- The schema of a tag, from the fields of the tags that have one. -/
def tagged (tag : Nat) (values : Unit → Except Cause Schema)
    (properties : Unit → Except Cause (List (Property Schema)))
    (schemas : Unit → Except Cause (List Schema)) : Except Cause Schema :=
  match tag with
  | 0 => .ok .string
  | 1 => .ok .number
  | 2 => .ok .boolean
  | 3 => .ok .null
  | 4 => values ()
  | 5 => (properties ()).map .object
  | _ => (schemas ()).map .oneOf

mutual

/-- The schema that a node stands for. -/
def schemaOf : Json → Except Cause Schema
  | .object members => do
    tagged (← tagAmong nodeChoice none members) (fun _ => valuesAmong none members)
      (fun _ => propertiesAmong none members) (fun _ => schemasAmong none members)
  | .array [] => .error (.missingField "type")
  | .array (tag :: fields) => do schemaOfFields (← tagOf nodeChoice tag) fields
  | v => .error (untagged nodeChoice v)

/-- The schema of a tag, with the fields in order. -/
def schemaOfFields (tag : Nat) (fields : List Json) : Except Cause Schema :=
  match tag with
  | 0 => ended 0 .string fields
  | 1 => ended 0 .number fields
  | 2 => ended 0 .boolean fields
  | 3 => ended 0 .null fields
  | 4 =>
    match fields with
    | [] => .error (tooShort nodeChoice "Array" 0 1)
    | v :: rest => do ended 1 (← valuesOf (entriesOf v) (schemaOf v)) rest
  | 5 =>
    match fields with
    | [] => .error (tooShort nodeChoice "Object" 0 1)
    | v :: rest => do ended 1 (.object (← propertiesOf v)) rest
  | _ =>
    match fields with
    | [] => .error (tooShort nodeChoice "OneOf" 0 1)
    | v :: rest => do ended 1 (.oneOf (← schemasOf v)) rest

/-- The array that the member `values` stands for. -/
def valuesAmong (values : Option Schema) : List (String × Json) → Except Cause Schema
  | [] => needed "values" values
  | (k, v) :: rest =>
    if k = "values" then do
      valuesAmong (← once k values (valuesOf (entriesOf v) (schemaOf v))) rest
    else valuesAmong values rest

/-- The list that the member `properties` stands for. -/
def propertiesAmong (properties : Option (List (Property Schema))) :
    List (String × Json) → Except Cause (List (Property Schema))
  | [] => needed "properties" properties
  | (k, v) :: rest =>
    if k = "properties" then do
      propertiesAmong (← once k properties (propertiesOf v)) rest
    else propertiesAmong properties rest

/-- The list that the member `schemas` stands for. -/
def schemasAmong (schemas : Option (List Schema)) :
    List (String × Json) → Except Cause (List Schema)
  | [] => needed "schemas" schemas
  | (k, v) :: rest =>
    if k = "schemas" then do
      schemasAmong (← once k schemas (schemasOf v)) rest
    else schemasAmong schemas rest

/-- The schemas that an array of nodes stands for. -/
def schemasOf : Json → Except Cause (List Schema)
  | .array items => schemasOfItems items
  | v => .error (wrongType v "a sequence")

def schemasOfItems : List Json → Except Cause (List Schema)
  | [] => .ok []
  | v :: rest => do return (← schemaOf v) :: (← schemasOfItems rest)

/-- The entries that an array of them stands for. -/
def entriesOf : Json → Except Cause (List (Entry Schema))
  | .array items => entriesOfItems items
  | v => .error (wrongType v "a sequence")

def entriesOfItems : List Json → Except Cause (List (Entry Schema))
  | [] => .ok []
  | v :: rest => do return (← entryOf v) :: (← entriesOfItems rest)

/-- The properties that an array of them stands for. -/
def propertiesOf : Json → Except Cause (List (Property Schema))
  | .array items => propertiesOfItems items
  | v => .error (wrongType v "a sequence")

def propertiesOfItems : List Json → Except Cause (List (Property Schema))
  | [] => .ok []
  | v :: rest => do return (← propertyOf v) :: (← propertiesOfItems rest)

/-- The entry that an object or an array stands for. -/
def entryOf : Json → Except Cause (Entry Schema)
  | .object members => do
    let _ ← tagAmong entryChoice none members
    entryAmong ⟨none, none⟩ members
  | .array [] => .error (.missingField "type")
  | .array (tag :: fields) => do
    let _ ← tagOf entryChoice tag
    match fields with
    | [] => .error (tooShort entryChoice "Index" 0 2)
    | [i] => do
      let _ ← indexOf i
      .error (tooShort entryChoice "Index" 1 2)
    | i :: s :: rest => do ended 2 ⟨← indexOf i, ← schemaOf s⟩ rest
  | v => .error (untagged entryChoice v)

def entryAmong (fields : EntryFields) : List (String × Json) → Except Cause (Entry Schema)
  | [] => do return ⟨← needed "index" fields.index, ← needed "schema" fields.schema⟩
  | (k, v) :: rest =>
    if k = "index" then do
      entryAmong { fields with index := ← once k fields.index (indexOf v) } rest
    else if k = "schema" then do
      entryAmong { fields with schema := ← once k fields.schema (schemaOf v) } rest
    else entryAmong fields rest

/-- The property that an object or an array stands for. -/
def propertyOf : Json → Except Cause (Property Schema)
  | .object members => do
    propertyAmong (presenceOf (← tagAmong propertyChoice none members)) ⟨none, none⟩ members
  | .array [] => .error (.missingField "type")
  | .array (tag :: fields) => do
    let presence := presenceOf (← tagOf propertyChoice tag)
    match fields with
    | [] => .error (tooShort propertyChoice (presenceVariant presence) 0 2)
    | [k] => do
      let _ ← keyOf k
      .error (tooShort propertyChoice (presenceVariant presence) 1 2)
    | k :: s :: rest => do ended 2 ⟨presence, ← keyOf k, ← schemaOf s⟩ rest
  | v => .error (untagged propertyChoice v)

def propertyAmong (presence : Presence) (fields : PropertyFields) :
    List (String × Json) → Except Cause (Property Schema)
  | [] => do return ⟨presence, ← needed "key" fields.key, ← needed "schema" fields.schema⟩
  | (k, v) :: rest =>
    if k = "key" then do
      propertyAmong presence { fields with key := ← once k fields.key (keyOf v) } rest
    else if k = "schema" then do
      propertyAmong presence { fields with schema := ← once k fields.schema (schemaOf v) } rest
    else propertyAmong presence fields rest

end

end Schema.Document

end Assay

import Assay.Json.Shape
import Assay.Schema.Document

/-!
# Reading schema documents

The schema that the text of a schema document stands for.  The tag of the root is checked
as soon as it is read.  What follows the document is not read.
-/

namespace Assay.Schema.Document

open Json (Cause Fault Source)
open Json.Reader

variable {α : Type} [Source α]

/-- Reads the tag of the root. -/
def rootTag : Json.Reader α Nat :=
  starting fun c =>
    if c = '"' then do
      skip
      match tagNamed nodeChoice (← stringBody) with
      | .ok tag => return tag
      | .error cause => fail cause
    else failType c "variant identifier"

/-- Reads the members of the root: the position of the tag, and the others. -/
def rootMembers (depth : Nat) :
    Nat → Bool → Option Nat → List (String × Json) →
      Json.Reader α (Nat × List (String × Json))
  | 0, _, _, _ => fail .endInObject
  | fuel + 1, first, tag, members => do
    match ← memberName first with
    | none =>
      match tag with
      | some t => do
        closeObject
        return (t, members.reverse)
      | none => failInObject (.missingField "type")
    | some name =>
      if name = "type" then
        match tag with
        | some _ => failInObject (.duplicateField "type")
        | none => do
          colon
          let t ← within (.key name) rootTag
          rootMembers depth fuel false (some t) members
      else do
        colon
        let v ← within (.key name) (value depth)
        rootMembers depth fuel false tag ((name, v) :: members)

/-- Reads the elements of the root: the position of the tag, and the fields. -/
def rootElements (depth : Nat) : Json.Reader α (Nat × List Json) := do
  if ← toElement true then do
    let tag ← within (.index 0) rootTag
    let fields ← elements (value depth) (← room) 1 []
    closeArray
    return (tag, fields)
  else failInArray (.missingField "type")

/-- The document as it is read: a tag, and its fields by name or in order. -/
inductive Root where
  | object (tag : Nat) (members : List (String × Json))
  | array (tag : Nat) (fields : List Json)

/-- Reads the root. -/
def root : Json.Reader α Root :=
  starting fun c =>
    if c = '{' then do
      skip
      let (tag, members) ← rootMembers (maxDepth - 1) (← room) true none []
      return .object tag members
    else if c = '[' then do
      skip
      let (tag, fields) ← rootElements (maxDepth - 1)
      return .array tag fields
    else failType c ("internally tagged enum " ++ nodeChoice.name)

/-- The schema that a root stands for. -/
def Root.schema : Root → Except Cause Schema
  | .object tag members =>
    tagged tag (fun _ => valuesAmong none members) (fun _ => propertiesAmong none members)
      (fun _ => schemasAmong none members)
  | .array tag fields => schemaOfFields tag fields

/-- The schema that the text of a document stands for. -/
def read (text : List α) : Except Fault Schema :=
  match root.onText text with
  | .error fault => .error fault
  | .ok r =>
    match r.schema with
    | .ok s => .ok s
    | .error cause => .error ⟨cause, none, []⟩

/-- The message of a document that cannot be read. -/
def malformed (f : Fault) : String :=
  "malformed schema at JSON path " ++ f.pathText ++ " → " ++ f.message

end Assay.Schema.Document

import Assay.Rejection
import Assay.Schema.Basic

/-!
# Validation

A value is examined against a schema from the top down.  Arrays and objects report their
first part that fails, in the order of the elements, entries or properties; a union
examines all of its alternatives.  At most `limit` levels of the schema are visited on the
way down, the root being the first.
-/

namespace Assay

/-- The rejection of a value that is not of a kind. -/
def mismatch (value : Option Json) (expected : Kind) : Rejection :=
  .typeMismatch (render value) (renderKind expected)

/-- Asks a value to be of a kind. -/
def expectKind (value : Option Json) (expected : Kind) : Except Rejection Unit :=
  if Kind.of value = expected then .ok () else .error (mismatch value expected)

/-- The rejection of an array for its element at an index. -/
def atIndex (items : List Json) (index : Nat) (cause : Rejection) : Rejection :=
  .atIndex cause index (renderItems items)

/-- The rejection of an object for its member of a property. -/
def atProperty (object : Json) (presence : Presence) (key : String) (cause : Rejection) :
    Rejection :=
  match presence with
  | .required => .inProperty cause (renderKey key) (render (some object))
  | .optional => .inOptionalProperty cause (renderKey key) (render (some object))

/-- Examines elements in order and tells the index and the rejection of the first that
fails. -/
def firstFailure (examine : Json → Except Rejection Unit) :
    Nat → List Json → Except (Nat × Rejection) Unit
  | _, [] => .ok ()
  | index, v :: rest =>
    match examine v with
    | .ok () => firstFailure examine (index + 1) rest
    | .error cause => .error (index, cause)

namespace Schema

mutual

/-- Examines a value that may be absent, at a depth of the schema counted from one. -/
def examine (limit depth : Nat) (value : Option Json) (schema : Schema) :
    Except Rejection Unit :=
  if limit < depth then .error (.tooDeep limit)
  else match schema with
    | string => expectKind value .string
    | number => expectKind value .number
    | boolean => expectKind value .boolean
    | null => expectKind value .null
    | array item =>
      match value with
      | some (.array items) =>
        match firstFailure (fun v => examine limit (depth + 1) (some v) item) 0 items with
        | .ok () => .ok ()
        | .error (index, cause) => .error (atIndex items index cause)
      | _ => .error (mismatch value .array)
    | indexed entries =>
      match value with
      | some (.array items) => examineEntries limit depth items entries
      | _ => .error (mismatch value .array)
    | object properties =>
      match value with
      | some (.object members) => examineProperties limit depth (.object members) properties
      | _ => .error (mismatch value .object)
    | oneOf alternatives =>
      match examineAlternatives limit depth value alternatives with
      | none => .ok ()
      | some causes => .error (.noAlternative causes)

/-- Examines the listed elements of an array.  An element past the end is absent. -/
def examineEntries (limit depth : Nat) (items : List Json) :
    List (Entry Schema) → Except Rejection Unit
  | [] => .ok ()
  | e :: rest =>
    match examine limit (depth + 1) items[e.index]? e.schema with
    | .ok () => examineEntries limit depth items rest
    | .error cause => .error (atIndex items e.index cause)

/-- Examines the listed members of an object. -/
def examineProperties (limit depth : Nat) (object : Json) :
    List (Property Schema) → Except Rejection Unit
  | [] => .ok ()
  | p :: rest =>
    match object.member? p.key with
    | none =>
      match p.presence with
      | .optional => examineProperties limit depth object rest
      | .required => .error (.missingProperty (render (some object)) (renderKey p.key))
    | some v =>
      match examine limit (depth + 1) (some v) p.schema with
      | .ok () => examineProperties limit depth object rest
      | .error cause => .error (atProperty object p.presence p.key cause)

/-- Examines a value against every alternative and gives all rejections, if there is no
alternative that admits it. -/
def examineAlternatives (limit depth : Nat) (value : Option Json) :
    List Schema → Option (List Rejection)
  | [] => some []
  | s :: rest =>
    match examine limit (depth + 1) value s, examineAlternatives limit depth value rest with
    | .error cause, some causes => some (cause :: causes)
    | _, _ => none

end

/-- The number of levels that are visited unless told otherwise. -/
def defaultLimit : Nat := 128

/-- Validates a value, visiting at most `limit` levels of the schema. -/
def validate (schema : Schema) (limit : Nat) (value : Json) : Except Rejection Unit :=
  schema.examine limit 1 (some value)

/-- Whether a value is admitted, visiting at most `limit` levels of the schema. -/
def admits (schema : Schema) (limit : Nat) (value : Json) : Bool :=
  (schema.validate limit value).isOk

end Schema

end Assay

import Assay.Json.Reader

/-!
# Reading by shape

Reading a value of which the shape is known beforehand.  The text is checked against the
shape while it is read, so that a fault stands where the text departs from the shape.
What follows the value is not read.
-/

namespace Assay.Json

/-- A shape of values. -/
inductive Shape where
  | any
  | string
  /-- An integer from 0 to 255. -/
  | byte
  /-- An integer that fits 64 bits with a sign. -/
  | integer
  /-- A number, taken as a floating-point number. -/
  | float
  /-- A truth value or null. -/
  | flag
  | list (item : Shape)
  /-- An object, with the members sorted by name. -/
  | dictionary (item : Shape)
  | tuple (items : List Shape)

namespace Reader

variable {α β : Type} [Source α]

/-- Fails at a value that starts with `c` and is not what was expected.  A container is
not entered. -/
def failType (c : Char) (expected : String) : Reader α β := do
  if c = '[' then fail (.invalidType .sequence expected)
  else if c = '{' then fail (.invalidType .map expected)
  else
    match ← scalar c with
    | .boolean b => fail (.invalidType (.boolean b) expected)
    | .number n => fail (.invalidType (.number n) expected)
    | .string s => fail (.invalidType (.string s) expected)
    | _ => fail (.invalidType .null expected)

/-- Fails in the middle of an array, after a step towards its end. -/
def failInArray (cause : Cause) : Reader α β := do
  match ← next with
  | some ']' => do
    skip
    fail cause
  | some ',' => do
    skip
    let _ ← next
    fail cause
  | _ => fail cause

/-- Fails in the middle of an object, after a step towards its end. -/
def failInObject (cause : Cause) : Reader α β := do
  match ← next with
  | some '}' => do
    skip
    fail cause
  | _ => fail cause

/-- Reads what starts with the next unit that is not white space. -/
def starting (r : Char → Reader α β) : Reader α β := do
  match ← next with
  | none => fail .endInValue
  | some c => r c

/-- Reads a number, which is checked by a function. -/
def checkedNumber (expected : String) (check : Number → Except Cause Number) : Reader α Json :=
  starting fun c => do
    if c = '-' ∨ c.isDigit then
      if c = '-' then skip
      let n ← numberBody (c == '-')
      match check n with
      | .ok n => return .number n
      | .error cause => fail cause
    else failType c expected

/-- An integer between bounds. -/
def checkRange (expected : String) (low high : Int) : Number → Except Cause Number
  | .int i =>
    if low ≤ i ∧ i ≤ high then .ok (.int i)
    else .error (.invalidValue (.number (.int i)) expected)
  | n => .error (.invalidType (.number n) expected)

/-- Puts a member into a list of members sorted by name, in place of one of its name. -/
def insertSorted (name : String) (v : Json) : List (String × Json) → List (String × Json)
  | [] => [(name, v)]
  | (k, w) :: rest =>
    if name < k then (name, v) :: (k, w) :: rest
    else if name = k then (name, v) :: rest
    else (k, w) :: insertSorted name v rest

mutual

/-- Reads a value of a shape. -/
def ofShape (depth : Nat) : Shape → Reader α Json
  | .any => value depth
  | .string => starting fun c =>
    if c = '"' then do
      skip
      return .string (← stringBody)
    else failType c "a string"
  | .byte => checkedNumber "u8" (checkRange "u8" 0 255)
  | .integer => checkedNumber "i64" (checkRange "i64" Word.least Word.greatest)
  | .float => checkedNumber "f64" fun
    | .int i => .ok (.float (.ofInt i))
    | .float x => .ok (.float x)
  | .flag => starting fun c =>
    if c = 'n' ∨ c = 't' ∨ c = 'f' then scalar c else failType c "a boolean"
  | .list item => starting fun c =>
    if c = '[' then do
      skip
      return .array (← arrayBody (ofShape (depth - 1) item))
    else failType c "a sequence"
  | .dictionary item => starting fun c =>
    if c = '{' then do
      skip
      let ms ← objectBody (ofShape (depth - 1) item)
      return .object (ms.foldl (fun sorted m => insertSorted m.1 m.2 sorted) [])
    else failType c "a map"
  | .tuple items =>
    let expected := "a tuple of size " ++ toString items.length
    starting fun c =>
      if c = '[' then do
        skip
        let vs ← ofShapes (depth - 1) expected 0 items
        closeArray
        return .array vs
      else failType c expected

/-- Reads the elements of a tuple from the one at `index` on. -/
def ofShapes (depth : Nat) (expected : String) (index : Nat) :
    List Shape → Reader α (List Json)
  | [] => return []
  | item :: rest => do
    if ← toElement (index == 0) then
      let v ← within (.index index) (ofShape depth item)
      let vs ← ofShapes depth expected (index + 1) rest
      return v :: vs
    else failInArray (.invalidLength index expected)

end

end Reader

/-- Reads a value of a shape from the start of a text. -/
def Shape.read {α : Type} [Source α] (shape : Shape) (text : List α) : Except Fault Json :=
  ((Reader.ofShape Reader.maxDepth shape).onText text).map settled

end Assay.Json

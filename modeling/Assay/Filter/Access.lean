import Assay.Filter.Value

/-!
# Parts of filter values

Access to the parts of a value by an index or a range, and to all of them, and updates of
these parts.  An update maps a part by a function whose first result is the new part; if
there is no result the part is dropped.
-/

namespace Assay.Filter

/-- A step to parts of a value. -/
inductive Step where
  | index (i : Value)
  | range (start stop : Option Value)

namespace Value

/-- The place of an index, counted from the end if it is negative. -/
def place? (i : Int) (length : Nat) : Option Nat :=
  let j := if i < 0 then i + length else i
  if 0 ≤ j ∧ j < length then some j.toNat else none

/-- The place of a bound, counted from the end if it is negative, cut off at the start. -/
def bound (i : Int) (length : Nat) : Nat := (if i < 0 then i + length else i).toNat

/-- Where a range starts, and how many places it has. -/
def span (start stop : Option Int) (length : Nat) : Nat × Nat :=
  let a := (start.map (bound · length)).getD 0
  let b := (stop.map (bound · length)).getD length
  (min a length, min b length - min a length)

/-- The bounds of a range, which are integers. -/
def bounds (start stop : Option Value) : Except Error (Option Int × Option Int) := do
  let a ← start.mapM asInteger
  let b ← stop.mapM asInteger
  return (a, b)

/-- The part at an index; null if there is none. -/
def get (v i : Value) : Except Error Value :=
  match v, i with
  | object members, string name => .ok ((members.lookup name).getD null)
  | array items, int i => .ok (((place? i items.length).bind (items[·]?)).getD null)
  | array _, _ | object _, _ => .error (.badIndex v i)
  | _, _ => .error (.badUse v iterable)

/-- The elements with their indices. -/
def entries (v : Value) : Except Error (List (Value × Value)) :=
  match v with
  | array items => .ok (items.zipIdx.map fun e => (int e.2, e.1))
  | object members => .ok (members.map fun m => (string m.1, m.2))
  | v => .error (.badUse v iterable)

/-- The part of a range. -/
def slice (v : Value) (start stop : Option Value) : Except Error Value :=
  match v with
  | array items => do
    let (a, b) ← bounds start stop
    let (skip, count) := span a b items.length
    return array ((items.drop skip).take count)
  | string s => do
    let (a, b) ← bounds start stop
    let (skip, count) := span a b s.length
    return string (.ofList ((s.toList.drop skip).take count))
  | v => .error (.badUse v "rangeable (array or string)")

/-- The index that stands for a range in a path. -/
def rangeKey (start stop : Option Value) : Value :=
  object [("start", start.getD null), ("end", stop.getD null)]

/-- The parts that a step leads to, with their indices. -/
def follow (v : Value) : Step → Except Error (List (Value × Value))
  | .index i => do return [(i, ← v.get i)]
  | .range none none => v.entries
  | .range start stop => do return [(rangeKey start stop, ← v.slice start stop)]

end Value

/-! ## Updates -/

namespace Value

variable {ε : Type}

/-- The outcome of a step that cannot be taken: an error, unless errors are dropped. -/
def refuse (optional : Bool) (v : Value) (e : ε) : Except ε Value :=
  if optional then .ok v else .error e

/-- Maps the members of an object. -/
def mapMembers (f : Value → Except ε (Option Value)) :
    List (String × Value) → Except ε (List (String × Value))
  | [] => .ok []
  | (k, v) :: rest => do
    match ← f v with
    | some w => return (k, w) :: (← mapMembers f rest)
    | none => mapMembers f rest

/-- Maps the items of an array. -/
def mapItems (f : Value → Except ε (List Value)) : List Value → Except ε (List Value)
  | [] => .ok []
  | v :: rest => do
    let vs ← f v
    return vs ++ (← mapItems f rest)

/-- Maps the part at an index by the first result of a function. -/
def updateAt (v : Value) (lift : Error → ε) (optional : Bool) (i : Value)
    (first : Value → Except ε (Option Value)) : Except ε Value :=
  match v, i with
  | object members, string name => do
    match ← first ((members.lookup name).getD null) with
    | some w => return object (assign name w members)
    | none => return object (removeMember name members)
  | array items, int i =>
    match place? i items.length with
    | none =>
      refuse optional v (lift (.ofText
        ("index " ++ String.ofList (Decimal.intDigits i) ++ " out of bounds")))
    | some n => do
      match ← first (items[n]?.getD null) with
      | some w => return array (items.set n w)
      | none => return array (items.eraseIdx n)
  | array _, _ | object _, _ => refuse optional v (lift (.badIndex v i))
  | _, _ => refuse optional v (lift (.badUse v iterable))

/-- Maps the part of a range by the first result of a function, which is an array. -/
def updateSlice (v : Value) (lift : Error → ε) (optional : Bool)
    (start stop : Option Value) (first : Value → Except ε (Option Value)) :
    Except ε Value :=
  match v with
  | array items =>
    match bounds start stop with
    | .error e => refuse optional v (lift e)
    | .ok (a, b) => do
      let (skip, count) := span a b items.length
      let new ← match ← first (array ((items.drop skip).take count)) with
        | none => pure []
        | some w =>
          match w.asArray with
          | .ok ws => pure ws
          | .error e => .error (lift e)
      return array (items.take skip ++ new ++ items.drop (skip + count))
  | v => refuse optional v (lift (.badUse v "array"))

/-- Maps all elements: an item of an array by all results of a function, and a member of an
object by the first. -/
def updateAll (v : Value) (lift : Error → ε) (optional : Bool)
    (all : Value → Except ε (List Value)) (first : Value → Except ε (Option Value)) :
    Except ε Value :=
  match v with
  | array items => do return array (← mapItems all items)
  | object members => do return object (← mapMembers first members)
  | v => refuse optional v (lift (.badUse v iterable))

end Value

end Assay.Filter

import Assay.Filter.Access
import Assay.Filter.Builtin.Basic

/-!
# Built-in filters on arrays and objects

Sizes, membership, the places of parts, and order.
-/

namespace Assay.Filter.Builtin

open Value

/-- The number of elements or characters, and of a number the number without its sign. -/
def length (v : Value) : Except Error Value :=
  match v with
  | null => .ok (int 0)
  | boolean _ => .error (.ofText (v.text ++ " has no length"))
  | int i => .ok (int (Word.wrapped i.natAbs))
  | float x => .ok (float x.abs)
  | decimal t =>
    match floatOfText t with
    | float x => .ok (float x.abs)
    | w => .ok w
  | string s => .ok (int s.length)
  | array items => .ok (int items.length)
  | object members => .ok (int members.length)

/-- The indices of a value. -/
def keys (v : Value) : Except Error Value := do
  return array ((← v.entries).map Prod.fst)

/-- Whether there is a part at an index. -/
def has (v i : Value) : Except Error Value :=
  match v, i with
  | array items, int i => if i < 0 then .error (.badIndex v (int i)) else
    .ok (boolean (i < items.length))
  | object members, string name => .ok (boolean (members.lookup name).isSome)
  | _, _ => .error (.badIndex v i)

/-- Whether a list stands in another. -/
def isInfix (cs : List Char) : List Char → Bool
  | [] => cs.isEmpty
  | d :: ds => cs.isPrefixOf (d :: ds) || isInfix cs ds

/-- Whether a value contains another: strings and arrays by parts of them, objects by the
values of their members.  The fuel bounds the nesting. -/
def contains : Nat → Value → Value → Bool
  | _, string s, string t => isInfix t.toList s.toList
  | fuel + 1, array xs, array ys => ys.all fun y => xs.any fun x => contains fuel x y
  | fuel + 1, object ms, object ns => ns.all fun n =>
    ((ms.lookup n.1).map fun v => contains fuel v n.2).getD false
  | _, v, w => v == w

/-- The places at which a list starts in another, counted from `n`. -/
def places {α : Type} (same : List α → Bool) : Nat → List α → List Nat
  | _, [] => []
  | n, x :: xs => (if same (x :: xs) then [n] else []) ++ places same (n + 1) xs

/-- Whether a list of values starts with another. -/
def startsWith : List Value → List Value → Bool
  | _, [] => true
  | [], _ :: _ => false
  | x :: xs, y :: ys => x == y && startsWith xs ys

/-- The places of a part. -/
def indices (v w : Value) : Except Error Value :=
  let found (ns : List Nat) : Value := array (ns.map fun n => int (Int.ofNat n))
  match v, w with
  | string s, string t =>
    .ok (found (if t.isEmpty then [] else places (t.toList.isPrefixOf ·) 0 s.toList))
  | array xs, array ys =>
    .ok (found (if ys.isEmpty then [] else places (startsWith · ys) 0 xs))
  | array xs, w =>
    .ok (found (places (fun l => (l.head?.map (· == w)).getD false) 0 xs))
  | _, _ => .error (.badIndex v w)

/-- The place of a value among `size` sorted values from `base` on, or else where it would
be put in, as a negative number. -/
def bisect (xs : List Value) (w : Value) : Nat → Nat → Nat → Int
  | 0, _, _ => -1
  | fuel + 1, base, size =>
    if 1 < size then
      let half := size / 2
      let middle := base + half
      let below : Bool := match xs[middle]? with
        | some x => order x w != .gt
        | none => false
      bisect xs w fuel (if below then middle else base) (size - half)
    else match xs[base]?.map (order · w) with
      | some .eq => base
      | some .lt => -1 - (base + 1 : Int)
      | _ => -1 - (base : Int)

/-- The values in order. -/
def sorted (xs : List Value) : List Value := xs.mergeSort fun x y => order x y != .gt

/-- Puts an item into an array, with nulls before it if there are too few items. -/
def putItem (items : List Value) (n : Nat) (v : Value) : List Value :=
  items.take n ++ List.replicate (n - items.length) null ++ v :: items.drop (n + 1)

/-- Puts a value at the end of a path.  What is not there yet is made. -/
def put (new : Value) : List Value → Value → Except Error Value
  | [], _ => .ok new
  | string name :: path, object members => do
    let inner ← put new path ((members.lookup name).getD null)
    return object (assign name inner members)
  | string name :: path, null => do return object [(name, ← put new path null)]
  | int i :: path, array items =>
    if 0 ≤ i then do
      return array (putItem items i.toNat (← put new path (items[i.toNat]?.getD null)))
    else .error (.badIndex (array items) (int i))
  | int i :: path, null =>
    if 0 ≤ i then do return array (putItem [] i.toNat (← put new path null))
    else .error (.badIndex null (int i))
  | i :: _, v => .error (.badIndex v i)

/-- The built-in filters on arrays and objects. -/
def onCollections : List Builtin :=
  [plain "length" length,
   plain "keys_unsorted" keys,
   withOne "has" has,
   withOne "contains" fun v w => .ok (boolean (contains v.depth v w)),
   withOne "indices" indices,
   withOne "bsearch" fun v w => do
    let xs ← v.asArray
    return int (bisect xs w (xs.length + 1) 0 xs.length),
   withTwo "putpath" fun v path new => do put new (← path.asArray) v,
   plain "reverse" fun v => do return array (← v.asArray).reverse,
   plain "sort" fun v => do return array (sorted (← v.asArray))]

end Assay.Filter.Builtin

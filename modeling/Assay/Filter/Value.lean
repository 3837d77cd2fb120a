import Assay.Decimal.Digits
import Assay.Decimal.Parse
import Assay.Decimal.Shortest
import Assay.Filter.Term
import Assay.Json.Printer
import Assay.Text.Inspect

/-!
# Filter values

The values that filters work on.  Integers, floating-point numbers and numbers that are
kept as text are three kinds of numbers; a text is turned into a floating-point number
when it is computed with.  Errors are values, or texts with values in them.
-/

namespace Assay.Filter

open Decimal (Binary64)

/-- A value that filters work on. -/
inductive Value where
  | null
  | boolean (b : Bool)
  | int (i : Int)
  | float (x : Float)
  /-- A number as it is written. -/
  | decimal (text : String)
  | string (s : String)
  | array (items : List Value)
  | object (members : List (String × Value))
deriving Inhabited

/-- A part of the text of an error. -/
inductive Fragment where
  | text (s : String)
  | value (v : Value)

/-- Why a filter fails on a value. -/
inductive Error where
  | value (v : Value)
  | fragments (parts : List Fragment)

namespace Value

/-! ## Numbers -/

def ofBinary (x : Binary64) : Float := Float.ofBits x.bits

def toBinary (x : Float) : Binary64 := ⟨x.toBits⟩

/-- The floating-point number nearest to an integer. -/
def floatOfInt (i : Int) : Float := ofBinary (.ofInt i)

/-- The integer that a text spells, if it fits 64 bits with a sign. -/
def integer? (text : String) : Option Int :=
  let cs := text.toList
  let (negative, ds) := match cs with
    | '-' :: ds => (true, ds)
    | ds => (false, ds)
  if ds.isEmpty ∨ ¬ ds.all Char.isDigit then none
  else
    let n : Int := Decimal.value ds
    let i := if negative then -n else n
    if Word.isSigned i then some i else none

/-- The number that a text spells. -/
def ofNumberText (text : String) : Value :=
  match integer? text with
  | some i => int i
  | none => decimal text

/-- A number kept as text, as a floating-point number. -/
def floatOfText (text : String) : Value :=
  match Decimal.parse? text.toList with
  | some x => float (ofBinary x)
  | none => null

/-- Floating-point numbers are positional from `0.0001` up to below `10 ^ 16`. -/
def layout : Decimal.Layout where
  least := -4
  greatest := 16

/-! ## Texts -/

/-- The text of a floating-point number; there is none for infinity. -/
def floatText (x : Float) : String :=
  let b := toBinary x
  if b.isFinite then .ofList (layout.spell b) else "null"

mutual

/-- The JSON text of a value. -/
def text : Value → String
  | null => "null"
  | boolean b => if b then "true" else "false"
  | int i => .ofList (Decimal.intDigits i)
  | float x => floatText x
  | decimal t => t
  | string s => Json.quote s
  | array items => "[" ++ itemsText items ++ "]"
  | object members => "\x7b" ++ membersText members ++ "\x7d"

def itemsText : List Value → String
  | [] => ""
  | v :: rest =>
    text v ++ match rest with
      | [] => ""
      | _ :: _ => "," ++ itemsText rest

def membersText : List (String × Value) → String
  | [] => ""
  | (k, v) :: rest =>
    Json.quote k ++ ":" ++ text v ++ match rest with
      | [] => ""
      | _ :: _ => "," ++ membersText rest

end

/-- The inspected text of a floating-point number. -/
def inspectFloat (x : Float) : String :=
  let b := toBinary x
  if b.isFinite then .ofList (layout.spell b)
  else if b.fraction ≠ 0 then "NaN"
  else if b.negative then "-inf" else "inf"

mutual

/-- The text of a value that shows of which kind it is. -/
def inspect : Value → String
  | null => "Null"
  | boolean b => "Bool(" ++ (if b then "true" else "false") ++ ")"
  | int i => "Int(" ++ .ofList (Decimal.intDigits i) ++ ")"
  | float x => "Float(" ++ inspectFloat x ++ ")"
  | decimal t => "Num(" ++ Text.inspect t ++ ")"
  | string s => "Str(" ++ Text.inspect s ++ ")"
  | array items => "Arr([" ++ inspectItems items ++ "])"
  | object members => "Obj(\x7b" ++ inspectMembers members ++ "\x7d)"

def inspectItems : List Value → String
  | [] => ""
  | v :: rest =>
    inspect v ++ match rest with
      | [] => ""
      | _ :: _ => ", " ++ inspectItems rest

def inspectMembers : List (String × Value) → String
  | [] => ""
  | (k, v) :: rest =>
    Text.inspect k ++ ": " ++ inspect v ++ match rest with
      | [] => ""
      | _ :: _ => ", " ++ inspectMembers rest

end

/-! ## JSON -/

/-- The value of a JSON number.  What is no 64-bit integer with a sign is kept as it is
written. -/
def ofNumber : Number → Value
  | .int i => if Word.isSigned i then int i else decimal (.ofList (Decimal.intDigits i))
  | .float x => decimal (.ofList (Number.layout.spell x))

mutual

/-- The value of a JSON value. -/
def ofJson : Json → Value
  | .null => null
  | .boolean b => boolean b
  | .number n => ofNumber n
  | .string s => string s
  | .array items => array (ofJsonItems items)
  | .object members => object (ofJsonMembers members)

def ofJsonItems : List Json → List Value
  | [] => []
  | v :: rest => ofJson v :: ofJsonItems rest

def ofJsonMembers : List (String × Json) → List (String × Value)
  | [] => []
  | (k, v) :: rest => (k, ofJson v) :: ofJsonMembers rest

end

end Value

namespace Error

/-- The error of a text. -/
def ofText (s : String) : Error := value (.string s)

/-- The error of a value that is used as what it is not. -/
def badUse (v : Value) (as_ : String) : Error :=
  fragments [.text "cannot use ", .value v, .text " as ", .text as_]

/-- The error of a calculation that is not defined. -/
def badCalculation (l : Value) (op : Arithmetic) (r : Value) : Error :=
  fragments [.text "cannot calculate ", .value l, .text " ", .text op.sign, .text " ", .value r]

/-- The error of an index that does not fit. -/
def badIndex (v i : Value) : Error :=
  fragments [.text "cannot index ", .value v, .text " with ", .value i]

/-- The error of a term that is no path. -/
def badPath (v : Value) : Error :=
  fragments [.text "invalid path expression with input ", .value v]

/-- An error as a value. -/
def toValue : Error → Value
  | value v => v
  | fragments parts => .string (.join (parts.map fun
    | .text s => s
    | .value v => v.text))

/-- The inspected text of an error. -/
def inspect : Error → String
  | value v => "Error(Val(" ++ v.inspect ++ "))"
  | fragments parts =>
    "Error(Str([" ++ ", ".intercalate (parts.map fun
      | .text s => "Str(" ++ Text.inspect s ++ ")"
      | .value v => "Val(" ++ v.inspect ++ ")") ++ "]))"

end Error

namespace Value

/-! ## Kinds -/

/-- What counts as true: everything but null and false. -/
def truth : Value → Bool
  | null | boolean false => false
  | _ => true

def asString (v : Value) : Except Error String :=
  match v with
  | string s => .ok s
  | v => .error (.badUse v "string")

def asArray (v : Value) : Except Error (List Value) :=
  match v with
  | array items => .ok items
  | v => .error (.badUse v "array")

def asInteger (v : Value) : Except Error Int :=
  match v with
  | int i => .ok i
  | v => .error (.badUse v "integer")

def asFloat (v : Value) : Except Error Float :=
  match v with
  | int i => .ok (floatOfInt i)
  | float x => .ok x
  | decimal t =>
    match floatOfText t with
    | float x => .ok x
    | _ => .error (.badUse v "floating-point number")
  | v => .error (.badUse v "floating-point number")

/-- The name of the use of a value that has elements. -/
def iterable : String := "iterable (array or object)"

/-! ## Order -/

/-- Compares floating-point numbers.  A number that is none comes before all others. -/
def compareFloats (x y : Float) : Ordering :=
  if x.isNaN then .lt
  else if y.isNaN then .gt
  else if x < y then .lt
  else if y < x then .gt
  else .eq

/-- Values of different kinds are ordered by kind. -/
def rank : Value → Nat
  | null => 0
  | boolean _ => 1
  | int _ | float _ | decimal _ => 2
  | string _ => 3
  | array _ => 4
  | object _ => 5

/-- Puts a member into a list of members sorted by name. -/
def insertMember (m : String × Value) : List (String × Value) → List (String × Value)
  | [] => [m]
  | n :: rest => if n.1 < m.1 then n :: insertMember m rest else m :: n :: rest

/-- Members sorted by name. -/
def sortMembers (ms : List (String × Value)) : List (String × Value) :=
  ms.foldr insertMember []

/-- Compares lists of names. -/
def compareNames : List String → List String → Ordering
  | [], [] => .eq
  | [], _ :: _ => .lt
  | _ :: _, [] => .gt
  | a :: as, b :: bs => if a < b then .lt else if b < a then .gt else compareNames as bs

mutual

/-- The value with the members of its objects sorted by name, and with its texts of
numbers as floating-point numbers, at every depth. -/
def canonical : Value → Value
  | decimal t => floatOfText t
  | array items => array (canonicalItems items)
  | object members => object (sortMembers (canonicalMembers members))
  | v => v

def canonicalItems : List Value → List Value
  | [] => []
  | v :: rest => canonical v :: canonicalItems rest

def canonicalMembers : List (String × Value) → List (String × Value)
  | [] => []
  | (k, v) :: rest => (k, canonical v) :: canonicalMembers rest

end

mutual

/-- Compares canonical values.  Objects are compared by their names first. -/
def compareCanonical : Value → Value → Ordering
  | boolean a, boolean b => compare a.toNat b.toNat
  | int a, int b => compare a b
  | int a, float y => compareFloats (floatOfInt a) y
  | float x, int b => compareFloats x (floatOfInt b)
  | float x, float y => compareFloats x y
  | string s, string t => if s < t then .lt else if t < s then .gt else .eq
  | array xs, array ys => compareItems xs ys
  | object ms, object ns =>
    (compareNames (ms.map Prod.fst) (ns.map Prod.fst)).then (compareMembers ms ns)
  | v, w => compare v.rank w.rank
termination_by structural v => v

def compareItems : List Value → List Value → Ordering
  | [], [] => .eq
  | [], _ :: _ => .lt
  | _ :: _, [] => .gt
  | v :: vs, w :: ws => (compareCanonical v w).then (compareItems vs ws)
termination_by structural vs => vs

def compareMembers : List (String × Value) → List (String × Value) → Ordering
  | [], [] => .eq
  | [], _ :: _ => .lt
  | _ :: _, [] => .gt
  | (_, v) :: vs, (_, w) :: ws => (compareCanonical v w).then (compareMembers vs ws)
termination_by structural vs => vs

end

/-- Compares values. -/
def order (v w : Value) : Ordering := compareCanonical v.canonical w.canonical

instance : BEq Value := ⟨fun v w => order v w == .eq⟩

/-- Whether a comparison holds. -/
def compares (op : Comparison) (v w : Value) : Bool :=
  match op, order v w with
  | .lt, o => o == .lt
  | .le, o => o != .gt
  | .gt, o => o == .gt
  | .ge, o => o != .lt
  | .eq, o => o == .eq
  | .ne, o => o != .eq

/-! ## Members -/

/-- Sets a member, in its place if there is one and at the end otherwise. -/
def assign (name : String) (v : Value) : List (String × Value) → List (String × Value)
  | [] => [(name, v)]
  | (k, w) :: rest => if k = name then (k, v) :: rest else (k, w) :: assign name v rest

/-- Drops a member.  The last member takes its place. -/
def removeMember (name : String) (ms : List (String × Value)) : List (String × Value) :=
  match ms.getLast? with
  | none => []
  | some final =>
    if final.1 = name then ms.dropLast
    else if ms.any (·.1 = name) then
      (ms.dropLast).map fun m => if m.1 = name then final else m
    else ms

/-- The members of one object and then those of another, which win. -/
def extend (ms ns : List (String × Value)) : List (String × Value) :=
  ns.foldl (fun acc m => assign m.1 m.2 acc) ms

/-- The object of members that may be repeated. -/
def ofMembers (ms : List (String × Value)) : Value := object (extend [] ms)

/-- Merges objects, and the objects in them. -/
def merge : Nat → List (String × Value) → List (String × Value) → List (String × Value)
  | 0, ms, _ => ms
  | fuel + 1, ms, ns =>
    ns.foldl (fun acc n =>
      match acc.lookup n.1, n.2 with
      | some (object inner), object inner' => assign n.1 (object (merge fuel inner inner')) acc
      | _, v => assign n.1 v acc) ms

mutual

/-- The number of containers inside one another. -/
def depth : Value → Nat
  | array items => depthItems items + 1
  | object members => depthMembers members + 1
  | _ => 0

def depthItems : List Value → Nat
  | [] => 0
  | v :: rest => max (depth v) (depthItems rest)

def depthMembers : List (String × Value) → Nat
  | [] => 0
  | (_, v) :: rest => max (depth v) (depthMembers rest)

end

end Value

end Assay.Filter

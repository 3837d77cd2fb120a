import Assay.Decimal.Binary64

/-!
# JSON values

Values as trees.  The members of an object are a list in the order of the text.  A reader
keeps repeated members; `settled` leaves one of each name, with the last value in the
first place, and `member?` finds a member by name.
-/

namespace Assay

/-- A JSON number: an integer, or a floating-point number. -/
inductive Number where
  | int (value : Int)
  | float (value : Decimal.Binary64)
deriving DecidableEq

/-- A JSON value. -/
inductive Json where
  | null
  | boolean (value : Bool)
  | number (value : Number)
  | string (value : String)
  | array (items : List Json)
  | object (members : List (String × Json))
deriving Inhabited

namespace Json

/-- Sets the member of a name, in its place if there is one and at the end otherwise. -/
def assign (name : String) (value : Json) : List (String × Json) → List (String × Json)
  | [] => [(name, value)]
  | (k, v) :: rest =>
    if k = name then (k, value) :: rest else (k, v) :: assign name value rest

/-- The member of an object of a name. -/
def member? (name : String) : Json → Option Json
  | object members => members.lookup name
  | _ => none

mutual

/-- The value in which every object, at any depth, has one member of each name: the last
value given, in the place of the first. -/
def settled : Json → Json
  | array items => array (settledItems items)
  | object members => object ((settledMembers members).foldl (fun ms m => assign m.1 m.2 ms) [])
  | v => v

def settledItems : List Json → List Json
  | [] => []
  | v :: rest => settled v :: settledItems rest

def settledMembers : List (String × Json) → List (String × Json)
  | [] => []
  | (k, v) :: rest => (k, settled v) :: settledMembers rest

end

end Json

end Assay

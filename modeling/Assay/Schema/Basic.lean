import Assay.Kind

/-!
# Schemas

A schema is a tree.  It asks for a kind of scalar, for an array or an object with further
schemas for its parts, or for one of several alternatives.  The entries of a list are
taken in the order given; keys and positions may be repeated.
-/

namespace Assay

/-- Whether a property has to be there. -/
inductive Presence where
  | required
  | optional
deriving DecidableEq

/-- A declared property: what is asked of the member of a name. -/
structure Property (σ : Type) where
  presence : Presence
  key : String
  schema : σ
deriving DecidableEq

/-- A declared position: what is asked of the element at an index. -/
structure Entry (σ : Type) where
  index : Nat
  schema : σ
deriving DecidableEq

/-- What is asked of a value. -/
inductive Schema where
  | string
  | number
  | boolean
  | null
  /-- An array with every element as told. -/
  | array (item : Schema)
  /-- An array with the listed elements as told. -/
  | indexed (entries : List (Entry Schema))
  /-- An object with the listed members as told. -/
  | object (properties : List (Property Schema))
  /-- A value that some alternative admits. -/
  | oneOf (alternatives : List Schema)
deriving Inhabited

namespace Schema

/-- The kind that a value has to be of, if there is only one. -/
def declaredKind : Schema → Option Kind
  | string => some .string
  | number => some .number
  | boolean => some .boolean
  | null => some .null
  | array _ | indexed _ => some .array
  | object _ => some .object
  | oneOf _ => none

mutual

/-- The number of schemas on the longest way down. -/
def depth : Schema → Nat
  | array item => depth item + 1
  | indexed entries => entriesDepth entries + 1
  | object properties => propertiesDepth properties + 1
  | oneOf alternatives => alternativesDepth alternatives + 1
  | _ => 1

def entriesDepth : List (Entry Schema) → Nat
  | [] => 0
  | e :: rest => max (depth e.schema) (entriesDepth rest)

def propertiesDepth : List (Property Schema) → Nat
  | [] => 0
  | p :: rest => max (depth p.schema) (propertiesDepth rest)

def alternativesDepth : List Schema → Nat
  | [] => 0
  | s :: rest => max (depth s) (alternativesDepth rest)

end

mutual

/-- Whether two schemas are equal. -/
def beq : Schema → Schema → Bool
  | string, string => true
  | number, number => true
  | boolean, boolean => true
  | null, null => true
  | array s, array t => beq s t
  | indexed es, indexed fs => beqEntries es fs
  | object ps, object qs => beqProperties ps qs
  | oneOf ss, oneOf ts => beqAlternatives ss ts
  | _, _ => false
termination_by structural s => s

def beqEntries : List (Entry Schema) → List (Entry Schema) → Bool
  | [], [] => true
  | e :: es, f :: fs => e.index == f.index && beq e.schema f.schema && beqEntries es fs
  | _, _ => false
termination_by structural es => es

def beqProperties : List (Property Schema) → List (Property Schema) → Bool
  | [], [] => true
  | p :: ps, q :: qs =>
    p.presence == q.presence && p.key == q.key && beq p.schema q.schema && beqProperties ps qs
  | _, _ => false
termination_by structural ps => ps

def beqAlternatives : List Schema → List Schema → Bool
  | [], [] => true
  | s :: ss, t :: ts => beq s t && beqAlternatives ss ts
  | _, _ => false
termination_by structural ss => ss

end

instance : BEq Schema := ⟨beq⟩

end Schema

end Assay

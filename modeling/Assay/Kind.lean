import Assay.Json.Basic

/-!
# Kinds of values

The kind of a JSON value.  An absent value, such as an element past the end of an array,
is of the kind `undefined`.
-/

namespace Assay

/-- The kind of a value that may be absent. -/
inductive Kind where
  | string
  | number
  | boolean
  | null
  | array
  | object
  | undefined
deriving DecidableEq

namespace Kind

/-- The kind of a value, or of the absence of one. -/
def of : Option Json → Kind
  | none => undefined
  | some .null => null
  | some (.boolean _) => boolean
  | some (.number _) => number
  | some (.string _) => string
  | some (.array _) => array
  | some (.object _) => object

/-- The name of a kind. -/
def name : Kind → String
  | string => "string"
  | number => "number"
  | boolean => "boolean"
  | null => "null"
  | array => "array"
  | object => "object"
  | undefined => "undefined"

end Kind

end Assay

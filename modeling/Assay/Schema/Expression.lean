import Assay.Decimal.Digits
import Assay.Json.Printer
import Assay.Schema.Basic

/-!
# Schemas as expressions

The text of a schema as an expression of the combinators that build it, for instance
`array(object([property("id", number)]))`.
-/

namespace Assay.Schema

/-- The separator of a list in an expression. -/
def comma : List Char := [',', ' ']

mutual

/-- The characters of the expression of a schema. -/
def expressionChars : Schema → List Char
  | string => "string".toList
  | number => "number".toList
  | boolean => "boolean".toList
  | null => "null".toList
  | array item => "array(".toList ++ expressionChars item ++ [')']
  | indexed entries => "array([".toList ++ entriesChars entries ++ [']', ')']
  | object properties => "object([".toList ++ propertiesChars properties ++ [']', ')']
  | oneOf alternatives => "one_of([".toList ++ alternativesChars alternatives ++ [']', ')']

def entriesChars : List (Entry Schema) → List Char
  | [] => []
  | e :: rest =>
    "index(".toList ++ Decimal.digits e.index ++ comma ++ expressionChars e.schema ++ [')']
      ++ match rest with
        | [] => []
        | _ :: _ => comma ++ entriesChars rest

def propertiesChars : List (Property Schema) → List Char
  | [] => []
  | p :: rest =>
    (match p.presence with
      | .required => "property(".toList
      | .optional => "optional_property(".toList)
      ++ Json.quoteChars p.key.toList ++ comma ++ expressionChars p.schema ++ [')']
      ++ match rest with
        | [] => []
        | _ :: _ => comma ++ propertiesChars rest

def alternativesChars : List Schema → List Char
  | [] => []
  | s :: rest =>
    expressionChars s
      ++ match rest with
        | [] => []
        | _ :: _ => comma ++ alternativesChars rest

end

/-- The expression of a schema. -/
def expression (s : Schema) : String := .ofList s.expressionChars

end Assay.Schema

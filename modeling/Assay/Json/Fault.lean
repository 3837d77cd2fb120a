import Assay.Decimal.Shortest
import Assay.Json.Printer
import Assay.Text.Inspect

/-!
# Reading faults

Why a text cannot be read, where in the text the reader stood, and on the way to which
part of the value it was.
-/

namespace Assay.Json

/-- A place in a text: the line, counted from one, and the number of bytes before it on
that line. -/
structure Place where
  line : Nat
  column : Nat
deriving DecidableEq

/-- What a reader found in place of what it expected. -/
inductive Found where
  | null
  | boolean (value : Bool)
  | number (value : Number)
  | string (value : String)
  | sequence
  | map

/-- Why a text cannot be read. -/
inductive Cause where
  | endInValue
  | endInList
  | endInObject
  | endInString
  | expectedValue
  | expectedWord
  | expectedColon
  | expectedListEnd
  | expectedObjectEnd
  | trailingComma
  | trailingCharacters
  | keyNotString
  | invalidEscape
  | invalidNumber
  | numberOutOfRange
  | controlCharacter
  | loneSurrogate
  | endOfHexEscape
  | invalidCodePoint
  | tooNested
  | invalidType (found : Found) (expected : String)
  | invalidValue (found : Found) (expected : String)
  | invalidLength (length : Nat) (expected : String)
  | missingField (name : String)
  | duplicateField (name : String)
  | unknownVariant (name : String) (known : List String)
  | noVariant (type : String)

/-- A step towards a part of a value. -/
inductive Step where
  | key (name : String)
  | index (position : Nat)
  /-- A member whose name could not be read. -/
  | unknown

/-- A failed reading.  A fault found in a value that was read before has no place. -/
structure Fault where
  cause : Cause
  place : Option Place
  path : List Step

/-- A word between backticks. -/
def ticked (s : String) : String := "\x60" ++ s ++ "\x60"

def Found.describe : Found → String
  | null => "null"
  | boolean b => "boolean " ++ ticked (if b then "true" else "false")
  | number (.int i) => "integer " ++ ticked (.ofList (Decimal.intDigits i))
  | number (.float x) => "floating point " ++ ticked (.ofList (Number.layout.spell x))
  | string s => "string " ++ Text.inspect s
  | sequence => "sequence"
  | map => "map"

/-- The names a variant could have had. -/
def describeNames : List String → String
  | [] => "there are no variants"
  | [a] => "expected " ++ ticked a
  | [a, b] => "expected " ++ ticked a ++ " or " ++ ticked b
  | names => "expected one of " ++ ", ".intercalate (names.map ticked)

/-- The wording of a cause. -/
def Cause.message : Cause → String
  | endInValue => "EOF while parsing a value"
  | endInList => "EOF while parsing a list"
  | endInObject => "EOF while parsing an object"
  | endInString => "EOF while parsing a string"
  | expectedValue => "expected value"
  | expectedWord => "expected ident"
  | expectedColon => "expected " ++ ticked ":"
  | expectedListEnd => "expected " ++ ticked "," ++ " or " ++ ticked "]"
  | expectedObjectEnd => "expected " ++ ticked "," ++ " or " ++ ticked "\x7d"
  | trailingComma => "trailing comma"
  | trailingCharacters => "trailing characters"
  | keyNotString => "key must be a string"
  | invalidEscape => "invalid escape"
  | invalidNumber => "invalid number"
  | numberOutOfRange => "number out of range"
  | controlCharacter => "control character (\\u0000-\\u001F) found while parsing a string"
  | loneSurrogate => "lone leading surrogate in hex escape"
  | endOfHexEscape => "unexpected end of hex escape"
  | invalidCodePoint => "invalid unicode code point"
  | tooNested => "recursion limit exceeded"
  | invalidType found expected => "invalid type: " ++ found.describe ++ ", expected " ++ expected
  | invalidValue found expected => "invalid value: " ++ found.describe ++ ", expected " ++ expected
  | invalidLength n expected => "invalid length " ++ toString n ++ ", expected " ++ expected
  | missingField name => "missing field " ++ ticked name
  | duplicateField name => "duplicate field " ++ ticked name
  | unknownVariant name known => "unknown variant " ++ ticked name ++ ", " ++ describeNames known
  | noVariant type => "data did not match any variant of untagged enum " ++ type

/-- The wording of a fault, with its place if it has one. -/
def Fault.message (f : Fault) : String :=
  match f.place with
  | none => f.cause.message
  | some p =>
    f.cause.message ++ " at line " ++ toString p.line ++ " column " ++ toString p.column

/-- The rest of a path, after other steps. -/
def Step.tail : List Step → String
  | [] => ""
  | .index i :: rest => "[" ++ toString i ++ "]" ++ tail rest
  | .key k :: rest => "." ++ k ++ tail rest
  | .unknown :: rest => ".?" ++ tail rest

/-- The text of a path.  Keys are joined by dots, positions stand in brackets, and the
path of the whole value is a dot. -/
def Step.path : List Step → String
  | [] => "."
  | .index i :: rest => "[" ++ toString i ++ "]" ++ tail rest
  | .key k :: rest => k ++ tail rest
  | .unknown :: rest => "?" ++ tail rest

/-- The text of the path of a fault. -/
def Fault.pathText (f : Fault) : String := Step.path f.path

end Assay.Json

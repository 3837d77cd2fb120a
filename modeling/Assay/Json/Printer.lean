import Assay.Decimal.Shortest
import Assay.Json.Basic

/-!
# Printing JSON

Two spellings of a value.  `compact` has no blanks.  `pretty` puts every element and
member on a line of its own, two spaces further in than its container, and keeps an empty
container on one line.  In a string the quotation mark, the backslash and the control
characters below `U+0020` are escaped; every other character stands for itself.
-/

namespace Assay

/-- Floating-point numbers are positional from `0.00001` up to below `10 ^ 16`. -/
def Number.layout : Decimal.Layout where
  least := -5
  greatest := 16

/-- The spelling of a number. -/
def Number.chars : Number → List Char
  | int i => Decimal.intDigits i
  | float x => layout.spell x

namespace Json

/-! ## Strings -/

/-- The spelling of one character inside quotation marks. -/
def escapeChar (c : Char) : List Char :=
  if c = '"' then ['\\', '"']
  else if c = '\\' then ['\\', '\\']
  else if c.toNat < 0x20 then
    if c = '\n' then ['\\', 'n']
    else if c = '\r' then ['\\', 'r']
    else if c = '\t' then ['\\', 't']
    else if c = '\x08' then ['\\', 'b']
    else if c = '\x0c' then ['\\', 'f']
    else ['\\', 'u', '0', '0', Decimal.hexChar (c.toNat / 16), Decimal.hexChar (c.toNat % 16)]
  else [c]

/-- The characters of a quoted string. -/
def quoteChars (cs : List Char) : List Char := '"' :: cs.flatMap escapeChar ++ ['"']

/-- A string as JSON spells it. -/
def quote (s : String) : String := .ofList (quoteChars s.toList)

/-! ## Values -/

/-- The spelling of a value that is neither an array nor an object. -/
def scalarChars : Json → List Char
  | null => ['n', 'u', 'l', 'l']
  | boolean true => ['t', 'r', 'u', 'e']
  | boolean false => ['f', 'a', 'l', 's', 'e']
  | number n => n.chars
  | string s => quoteChars s.toList
  | array _ | object _ => []

mutual

/-- The compact spelling of a value. -/
def compactChars : Json → List Char
  | array items => '[' :: compactItems items ++ [']']
  | object members => '{' :: compactMembers members ++ ['}']
  | v => scalarChars v

def compactItems : List Json → List Char
  | [] => []
  | [v] => compactChars v
  | v :: rest => compactChars v ++ ',' :: compactItems rest

def compactMembers : List (String × Json) → List Char
  | [] => []
  | [(k, v)] => quoteChars k.toList ++ ':' :: compactChars v
  | (k, v) :: rest => quoteChars k.toList ++ ':' :: compactChars v ++ ',' :: compactMembers rest

end

/-- The start of a line at a depth. -/
def indentation (depth : Nat) : List Char := '\n' :: List.replicate (2 * depth) ' '

mutual

/-- The spelling of a value over several lines, inside containers to the given depth. -/
def prettyChars (depth : Nat) : Json → List Char
  | array [] => ['[', ']']
  | array items => '[' :: prettyItems (depth + 1) items ++ indentation depth ++ [']']
  | object [] => ['{', '}']
  | object members => '{' :: prettyMembers (depth + 1) members ++ indentation depth ++ ['}']
  | v => scalarChars v

def prettyItems (depth : Nat) : List Json → List Char
  | [] => []
  | [v] => indentation depth ++ prettyChars depth v
  | v :: rest => indentation depth ++ prettyChars depth v ++ ',' :: prettyItems depth rest

def prettyMembers (depth : Nat) : List (String × Json) → List Char
  | [] => []
  | [(k, v)] => indentation depth ++ quoteChars k.toList ++ ':' :: ' ' :: prettyChars depth v
  | (k, v) :: rest =>
    indentation depth ++ quoteChars k.toList ++ ':' :: ' ' :: prettyChars depth v
      ++ ',' :: prettyMembers depth rest

end

/-- The compact text of a value. -/
def compact (v : Json) : String := .ofList v.compactChars

/-- The text of a value over several lines. -/
def pretty (v : Json) : String := .ofList (v.prettyChars 0)

end Json

end Assay

import Assay.Decimal.Digits
import Assay.Text.Basic
import Assay.Text.Inspect

/-!
# Tokens of a filter

The text of a filter as tokens.  Text inside brackets is one token that holds the tokens
in it and the closing bracket; a string holds its parts, among them the blocks that are
interpolated.  Reading goes on after a fault, so that all faults are found.
-/

namespace Assay.Filter

/-- A part of a string: text as it stands, an escaped character, or an interpolation. -/
inductive Part (α : Type) where
  | text (s : String)
  | char (c : Char)
  | interpolation (x : α)

/-- A piece of the text of a filter, with the text itself. -/
inductive Token where
  | word (text : String)
  | var (text : String)
  | format (text : String)
  | number (text : String)
  | symbol (text : String)
  | string (text : String) (parts : List (Part Token))
  | block (text : String) (tokens : List Token)
deriving Inhabited

namespace Token

/-- The text of a token. -/
def text : Token → String
  | word s | var s | format s | number s | symbol s => s
  | string s _ => s
  | block s _ => s

/-- What would have been a token. -/
inductive Expected where
  | digit
  | identifier
  /-- What closes the delimiter. -/
  | closing (delimiter : String)
  | escape
  | unicode
  | token

/-- The inspected text of an expectation. -/
def Expected.inspect : Expected → String
  | digit => "Digit"
  | identifier => "Ident"
  | closing d => "Delim(" ++ Text.inspect d ++ ")"
  | escape => "Escape"
  | unicode => "Unicode"
  | token => "Token"

/-- An unmet expectation, with the text from there on. -/
structure Fault where
  expected : Expected
  rest : String

/-- The text that is left, and the faults so far, the last one first. -/
structure Scan where
  rest : List Char
  faults : List Fault

/-- Taking tokens off a text. -/
abbrev Scanner := StateM Scan

namespace Scanner

/-- Notes a fault at a text. -/
def note (expected : Expected) (at_ : List Char) : Scanner Unit :=
  modify fun s => { s with faults := ⟨expected, .ofList at_⟩ :: s.faults }

/-- Notes a fault at the text that is left. -/
def noteHere (expected : Expected) : Scanner Unit := do
  note expected (← get).rest

def setRest (rest : List Char) : Scanner Unit :=
  modify fun s => { s with rest := rest }

/-- Steps over the characters in front that satisfy a predicate. -/
def dropWhile (p : Char → Bool) : Scanner Unit :=
  modify fun s => { s with rest := s.rest.dropWhile p }

/-- Runs a scanner and tells which text it stepped over. -/
def consumed {α : Type} (scanner : Scanner α) : Scanner (String × α) := do
  let before := (← get).rest
  let x ← scanner
  let after := (← get).rest
  return (.ofList (before.take (before.length - after.length)), x)

def isLetter (c : Char) : Bool := c.isAlpha || c == '_'

def isNameChar (c : Char) : Bool := c.isAlphanum || c == '_'

def isOperator (c : Char) : Bool := "|=!<>+-*/%".toList.contains c

/-- The text after a comment.  A line feed ends it, unless an odd number of backslashes
stands before it. -/
def afterComment : Bool → List Char → List Char
  | _, [] => []
  | escaped, c :: rest =>
    if c = '\n' then
      if escaped then afterComment false rest else rest
    else if c = '\\' then afterComment (!escaped) rest
    else if c = '\r' ∧ rest.head? = some '\n' then afterComment escaped rest
    else afterComment false rest

/-- The text after white space and comments. -/
def afterSpace : Nat → List Char → List Char
  | 0, cs => cs
  | fuel + 1, cs =>
    match Text.trimStart cs with
    | '#' :: rest => afterSpace fuel (afterComment false rest)
    | cs => cs

/-- Steps over white space and comments. -/
def space : Scanner Unit :=
  modify fun s => { s with rest := afterSpace (s.rest.length + 1) s.rest }

/-- Steps over a name, which starts with a letter. -/
def name : Scanner Unit := do
  match (← get).rest with
  | c :: _ => if isLetter c then dropWhile isNameChar else noteHere .identifier
  | [] => noteHere .identifier

/-- Steps over at least one digit. -/
def someDigits : Scanner Unit := do
  match (← get).rest with
  | c :: _ => if c.isDigit then dropWhile Char.isDigit else noteHere .digit
  | [] => noteHere .digit

/-- Steps over a number. -/
def number : Scanner Unit := do
  dropWhile Char.isDigit
  if let '.' :: rest := (← get).rest then
    setRest rest
    dropWhile Char.isDigit
  match (← get).rest with
  | c :: rest =>
    if c = 'e' ∨ c = 'E' then do
      match rest with
      | d :: rest' => setRest (if d = '+' ∨ d = '-' then rest' else rest)
      | [] => setRest rest
      someDigits
  | [] => pure ()

/-- Steps over a word, the parts of which are joined by double colons. -/
def qualified : Nat → Scanner Unit
  | 0 => pure ()
  | fuel + 1 => do
    match (← get).rest with
    | ':' :: ':' :: rest => do
      setRest rest
      name
      qualified fuel
    | _ => pure ()

/-- The character of four hexadecimal digits. -/
def hexChar : Nat → Nat → List Char → List Char → Scanner (Option Char)
  | 0, value, start, rest =>
    if Nat.isValidChar value then do
      setRest rest
      return some (Char.ofNat value)
    else do
      setRest start
      note .unicode start
      return none
  | digits + 1, value, start, rest =>
    match rest with
    | c :: rest' =>
      match Decimal.hexValue? c with
      | some d => hexChar digits (16 * value + d) start rest'
      | none => refuse rest
    | [] => refuse rest
where
  refuse (rest : List Char) : Scanner (Option Char) := do
    setRest rest
    note .unicode rest
    return none

/-- Reads an escape that is a single character, after its backslash. -/
def escape : Scanner (Option Char) := do
  match (← get).rest with
  | 'u' :: rest => hexChar 4 0 rest rest
  | c :: rest =>
    let plain (d : Char) : Scanner (Option Char) := do
      setRest rest
      return some d
    if c = '\\' ∨ c = '/' ∨ c = '"' then plain c
    else if c = 'b' then plain '\x08'
    else if c = 'f' then plain '\x0c'
    else if c = 'n' then plain '\n'
    else if c = 'r' then plain '\r'
    else if c = 't' then plain '\t'
    else do
      noteHere .escape
      return none
  | [] => do
    noteHere .escape
    return none

/-- What closes an opening bracket. -/
def closingOf (c : Char) : Char :=
  if c = '(' then ')' else if c = '[' then ']' else '}'

mutual

/-- Reads tokens as long as there are any.  The fuel is the length of the text. -/
def tokens : Nat → Scanner (List Token)
  | 0 => return []
  | fuel + 1 => do
    match ← token fuel with
    | some t => return t :: (← tokens fuel)
    | none => return []

/-- Reads one token, if there is one. -/
def token : Nat → Scanner (Option Token)
  | 0 => return none
  | fuel + 1 => do
    space
    match (← get).rest with
    | [] => return none
    | c :: rest =>
      let plain (make : String → Token) (scanner : Scanner Unit) :
          Scanner (Option Token) := do
        return some (make (← consumed scanner).1)
      if isLetter c then plain .word (do dropWhile isNameChar; qualified fuel)
      else if c = '$' then plain .var (do setRest rest; name; qualified fuel)
      else if c = '@' then plain .format (do setRest rest; name)
      else if c.isDigit then plain .number number
      else if isOperator c then plain .symbol (dropWhile isOperator)
      else if c = '.' then
        match rest with
        | '.' :: rest' => plain .symbol (setRest rest')
        | d :: _ =>
          if isLetter d then plain .symbol (do setRest rest; dropWhile isNameChar)
          else plain .symbol (setRest rest)
        | [] => plain .symbol (setRest rest)
      else if c = ':' ∨ c = ';' ∨ c = ',' ∨ c = '?' then plain .symbol (setRest rest)
      else if c = '"' then do
        let (s, parts) ← consumed (do setRest rest; stringParts fuel)
        return some (.string s parts)
      else if c = '(' ∨ c = '[' ∨ c = '{' then do
        return some (← block fuel)
      else return none

/-- Reads a bracket and what is in it. -/
def block : Nat → Scanner Token
  | 0 => return .symbol ""
  | fuel + 1 => do
    let (s, ts) ← consumed do
      match (← get).rest with
      | [] => return []
      | c :: rest => do
        setRest rest
        let ts ← tokens fuel
        space
        match (← get).rest with
        | d :: rest' =>
          if d = closingOf c then do
            setRest rest'
            return ts ++ [.symbol d.toString]
          else do
            noteHere (.closing c.toString)
            return ts
        | [] => do
          noteHere (.closing c.toString)
          return ts
    return .block s ts

/-- Reads the parts of a string after its opening mark, up to and with the closing one. -/
def stringParts : Nat → Scanner (List (Part Token))
  | 0 => return []
  | fuel + 1 => do
    let plain := (← consumed (dropWhile fun c => c ≠ '\\' ∧ c ≠ '"')).1
    let before : List (Part Token) := if plain.isEmpty then [] else [.text plain]
    match (← get).rest with
    | '"' :: rest => do
      setRest rest
      return before
    | '\\' :: '(' :: rest => do
      setRest ('(' :: rest)
      let b ← block fuel
      return before ++ .interpolation b :: (← stringParts fuel)
    | '\\' :: rest => do
      setRest rest
      match ← escape with
      | some c => return before ++ .char c :: (← stringParts fuel)
      | none => return before ++ (← stringParts fuel)
    | _ => do
      noteHere (.closing "\"")
      return before

end

end Scanner

/-- The tokens of a text, or its faults in the order in which they were found. -/
def ofText (text : String) : Except (List Fault) (List Token) :=
  let cs := text.toList
  let (ts, scan) := (do
    let ts ← Scanner.tokens (2 * cs.length + 2)
    Scanner.space
    unless (← get).rest.isEmpty do Scanner.noteHere .token
    return ts : Scanner (List Token)).run ⟨cs, []⟩
  if scan.faults.isEmpty then .ok ts else .error scan.faults.reverse

end Token

end Assay.Filter

import Assay.Filter.Term

/-!
# Parsing filters

Terms from tokens.  The tokens of a block are parsed on their own, and a fault in them
does not keep the text around the block from being parsed; a fault outside of all blocks
ends the parsing.
-/

namespace Assay.Filter

/-- What would have been accepted. -/
inductive Wanted where
  | nothing
  | just (text : String)
  | elseOrEnd
  | commaOrBrace
  | var
  | term
  | key
  | identifier
  | argument
  | pattern
  | string

/-- The inspected text of what is wanted. -/
def Wanted.inspect : Wanted → String
  | nothing => "Nothing"
  | just s => "Just(" ++ Text.inspect s ++ ")"
  | elseOrEnd => "ElseOrEnd"
  | commaOrBrace => "CommaOrRBrace"
  | var => "Var"
  | term => "Term"
  | key => "Key"
  | identifier => "Ident"
  | argument => "Arg"
  | pattern => "Pattern"
  | string => "Str"

/-- What was wanted in the place of a token, or of the end. -/
structure ParseFault where
  wanted : Wanted
  found : Option Token

/-- The tokens that are left, and the faults of blocks so far, the last one first. -/
structure Parse where
  tokens : List Token
  faults : List ParseFault

/-- Parsing that may stop with a fault. -/
abbrev Parser := ExceptT ParseFault (StateM Parse)

namespace Parser

variable {α : Type}

/-- The text of the next token. -/
def peek : Parser (Option String) := do
  return (← get).tokens.head?.map Token.text

/-- Takes the next token. -/
def next : Parser (Option Token) := do
  let s ← get
  match s.tokens with
  | [] => return none
  | t :: rest => do
    set { s with tokens := rest }
    return some t

def fail (wanted : Wanted) (found : Option Token) : Parser α :=
  throw ⟨wanted, found⟩

/-- Takes the next token if its text is as given. -/
def accept (text : String) : Parser Bool := do
  if (← peek) = some text then do
    let _ ← next
    return true
  else return false

/-- Takes a token of a text. -/
def expect (text : String) : Parser Unit := do
  unless ← accept text do fail (.just text) (← next)

/-- Parses tokens of their own up to the closing text.  A fault is noted and replaced by
a default. -/
def inside (tokens : List Token) (last : String) (default : α) (p : Parser α) : Parser α := do
  let outer := (← get).tokens
  modify fun s => { s with tokens := tokens }
  let result ← try
      let x ← p
      if last.isEmpty then
        match ← next with
        | none => pure (some x)
        | some t => fail .nothing (some t)
      else
        match ← next with
        | none => fail (.just last) none
        | some t => if t.text = last then pure (some x) else fail (.just last) (some t)
    catch fault => do
      modify fun s => { s with faults := fault :: s.faults }
      pure none
  modify fun s => { s with tokens := outer }
  return result.getD default

/-- Parses one thing, and further ones after a separator. -/
def separated (sep : String) (p : Parser α) : Nat → Parser (List α)
  | 0 => return []
  | fuel + 1 => do
    let x ← p
    if ← accept sep then return x :: (← separated sep p fuel) else return [x]

/-- The number of tokens that are left, and one more. -/
def room : Parser Nat := do return (← get).tokens.length + 1

/-- Parses the arguments of a call or definition, if there are any. -/
def arguments (p : Parser α) : Parser (List α) := do
  match (← get).tokens with
  | .block text tokens :: rest =>
    if text.startsWith "(" then do
      modify fun s => { s with tokens := rest }
      inside tokens ")" [] (do separated ";" p (← room))
    else return []
  | _ => return []

/-- Parses the name of a variable. -/
def variableName : Parser String := do
  match ← next with
  | some (.var s) => return s
  | t => fail .var t

/-- Parses the marks after a step that drop its errors. -/
def marks : Nat → Parser Bool
  | 0 => return false
  | fuel + 1 => do
    if ← accept "?" then do
      let _ ← marks fuel
      return true
    else return false

/-- Wraps a term once for every mark after it. -/
def optional (t : Term) : Nat → Parser Term
  | 0 => return t
  | fuel + 1 => do
    if ← accept "?" then optional (.attempt t none) fuel else return t

/-- The groups of a chain of operators, of which those that bind at least as strongly as
`least` are taken. -/
def climb : Nat → Nat → Term → List (Operator × Term) → Term × List (Operator × Term)
  | 0, _, left, rest => (left, rest)
  | fuel + 1, least, left, rest =>
    match rest with
    | [] => (left, [])
    | (op, right) :: rest' =>
      if op.precedence < least then (left, rest)
      else
        let within := if op.rightAssociative then op.precedence else op.precedence + 1
        let (right, rest'') := climb fuel within right rest'
        climb fuel least (.binary left op right) rest''

/-- A chain of operators as a term. -/
def grouped (head : Term) (tail : List (Operator × Term)) : Term :=
  (climb (2 * tail.length + 1) 0 head tail).1

mutual

/-- Parses a term up to where it ends.  The fuel bounds the nesting. -/
def term (withComma : Bool) : Nat → Parser Term
  | 0 => fail .term none
  | fuel + 1 => do
    let head ← atom fuel
    let t := grouped head (← operands withComma fuel)
    if ← accept "as" then do
      let p ← pattern fuel
      expect "|"
      return .bind t p (← term withComma fuel)
    else if ← accept "|" then return .pipe t (← term withComma fuel)
    else return t

/-- Parses operators and the terms after them. -/
def operands (withComma : Bool) : Nat → Parser (List (Operator × Term))
  | 0 => fail .term none
  | fuel + 1 => do
    match (← peek).bind (Operator.ofText? withComma) with
    | none => return []
    | some op => do
      let _ ← next
      let t ← atom fuel
      return (op, t) :: (← operands withComma fuel)

/-- Parses a term without operators, with the steps after it. -/
def atom : Nat → Parser Term
  | 0 => fail .term none
  | fuel + 1 => do
    let t ← head fuel
    let t ← optional t (← room)
    match ← path fuel with
    | [] => return t
    | parts => return .path t parts

/-- Parses a term without operators and steps. -/
def head : Nat → Parser Term
  | 0 => fail .term none
  | fuel + 1 => do
    match ← next with
    | some (.word "def") => do
      let d ← definition fuel
      return .define d (← term true fuel)
    | some (.word "if") => do
      let first ← branch fuel
      branches [first] fuel
    | some (.word "try") => do
      let t ← atom fuel
      if ← accept "catch" then return .attempt t (some (← atom fuel))
      else return .attempt t none
    | some (.word "label") => do
      let name ← variableName
      expect "|"
      return .label name (← term true fuel)
    | some (.word "break") => return .leave (← variableName)
    | some (.word name) =>
      if name = "reduce" ∨ name = "foreach" then do
        let source ← atom fuel
        expect "as"
        let p ← pattern fuel
        return .fold name source p (← arguments (term true fuel))
      else return .call name (← arguments (term true fuel))
    | some (.var name) => return .var name
    | some (.number text) => return .number text
    | some (.format name) => do
      match (← get).tokens with
      | .string _ parts :: rest => do
        modify fun s => { s with tokens := rest }
        return .string (some name) (← stringParts parts fuel)
      | _ => return .call name []
    | some (.string _ parts) => return .string none (← stringParts parts fuel)
    | some (.symbol "-") => return .negate (← atom fuel)
    | some (.symbol "..") => return .recurse
    | some (.symbol ".") => do
      match (← get).tokens with
      | .string _ parts :: rest => do
        modify fun s => { s with tokens := rest }
        let key ← stringParts parts fuel
        return .path .identity [(.index (.string none key), ← marks (← room))]
      | _ => return .identity
    | some (.symbol s) =>
      if s.startsWith "." then
        return .path .identity [(.index (.text (s.drop 1).toString), ← marks (← room))]
      else fail .term (some (.symbol s))
    | some (.block text tokens) =>
      if text.startsWith "[" then
        match tokens with
        | [_] => return .array none
        | _ => return .array (some (← inside tokens "]" .identity (term true fuel)))
      else if text.startsWith "\x7b" then
        match tokens with
        | [_] => return .object []
        | _ => return .object (← inside tokens "" [] (entries fuel))
      else inside tokens ")" .identity (term true fuel)
    | none => fail .term none

/-- Parses the parts of a string. -/
def stringParts (parts : List (Part Token)) : Nat → Parser (List (Part Term))
  | 0 => return []
  | fuel + 1 => do
    match parts with
    | [] => return []
    | .text s :: rest => return .text s :: (← stringParts rest fuel)
    | .char c :: rest => return .char c :: (← stringParts rest fuel)
    | .interpolation (.block _ tokens) :: rest => do
      let t ← inside tokens ")" .identity (term true fuel)
      return .interpolation t :: (← stringParts rest fuel)
    | .interpolation _ :: rest => stringParts rest fuel

/-- Parses the condition and the consequence of a branch. -/
def branch : Nat → Parser (Term × Term)
  | 0 => fail .term none
  | fuel + 1 => do
    let condition ← term true fuel
    expect "then"
    return (condition, ← term true fuel)

/-- Parses the further branches of a choice. -/
def branches (cases : List (Term × Term)) : Nat → Parser Term
  | 0 => fail .term none
  | fuel + 1 => do
    match ← next with
    | some (.word "elif") => do
      let b ← branch fuel
      branches (cases ++ [b]) fuel
    | some (.word "else") => do
      let t ← term true fuel
      expect "end"
      return .choose cases (some t)
    | some (.word "end") => return .choose cases none
    | t => fail .elseOrEnd t

/-- Parses a definition after its keyword. -/
def definition : Nat → Parser (Definition Term)
  | 0 => fail .term none
  | fuel + 1 => do
    let name ← match ← next with
      | some (.word s) | some (.format s) => pure s
      | t => fail .identifier t
    let params ← arguments do
      match ← next with
      | some (.word s) | some (.var s) => return s
      | t => fail .argument t
    expect ":"
    let body ← term true fuel
    expect ";"
    return ⟨name, params, body⟩

/-- Parses the steps after a term. -/
def path : Nat → Parser (List (PathPart Term × Bool))
  | 0 => fail .term none
  | fuel + 1 => do
    match (← get).tokens with
    | .symbol s :: rest =>
      if s = "." then do
        modify fun p => { p with tokens := rest }
        match ← next with
        | some (.string _ parts) => do
          let key ← stringParts parts fuel
          let m ← marks (← room)
          return (.index (.string none key), m) :: (← path fuel)
        | t => fail .key t
      else if s.startsWith "." ∧ s ≠ ".." then do
        modify fun p => { p with tokens := rest }
        let m ← marks (← room)
        return (.index (.text (s.drop 1).toString), m) :: (← path fuel)
      else return []
    | .block text tokens :: rest =>
      if text.startsWith "[" then do
        modify fun p => { p with tokens := rest }
        let part ← inside tokens "]" (.range none none) (bracketed fuel)
        let m ← marks (← room)
        return (part, m) :: (← path fuel)
      else return []
    | _ => return []

/-- Parses what stands between the brackets of a step. -/
def bracketed : Nat → Parser (PathPart Term)
  | 0 => fail .term none
  | fuel + 1 => do
    if (← peek) = some "]" then return .range none none
    else if ← accept ":" then return .range none (some (← term true fuel))
    else do
      let t ← term true fuel
      if ← accept ":" then
        if (← peek) = some "]" then return .range (some t) none
        else return .range (some t) (some (← term true fuel))
      else return .index t

/-- Parses the entries of an object up to and with the closing brace. -/
def entries : Nat → Parser (List (Term × Option Term))
  | 0 => fail .term none
  | fuel + 1 => do
    let e ← entry fuel
    match ← next with
    | some (.symbol ",") => return e :: (← entries fuel)
    | some (.symbol "\x7d") => return [e]
    | t => fail .commaOrBrace t

/-- Parses an entry of an object. -/
def entry : Nat → Parser (Term × Option Term)
  | 0 => fail .term none
  | fuel + 1 => do
    match (← get).tokens with
    | .var name :: rest => do
      modify fun p => { p with tokens := rest }
      if ← accept ":" then return (.var name, some (← term false fuel))
      else return (.var name, none)
    | .block text tokens :: rest =>
      if text.startsWith "(" then do
        modify fun p => { p with tokens := rest }
        let k ← inside tokens ")" .identity (term true fuel)
        expect ":"
        return (k, some (← term false fuel))
      else fail .key (some (.block text tokens))
    | _ => do
      let k ← key fuel
      if ← accept ":" then return (k, some (← term false fuel))
      else return (k, none)

/-- Parses a key that is a word or a string. -/
def key : Nat → Parser Term
  | 0 => fail .key none
  | fuel + 1 => do
    match ← next with
    | some (.word s) => return .text s
    | some (.string _ parts) => return .string none (← stringParts parts fuel)
    | some (.format name) =>
      match ← next with
      | some (.string _ parts) => return .string (some name) (← stringParts parts fuel)
      | t => fail .string t
    | t => fail .key t

/-- Parses a pattern. -/
def pattern : Nat → Parser (Pattern Term)
  | 0 => fail .pattern none
  | fuel + 1 => do
    match ← next with
    | some (.var name) => return .var name
    | some (.block text tokens) =>
      if text.startsWith "[" then
        return .array (← inside tokens "]" [] (do separated "," (pattern fuel) (← room)))
      else if text.startsWith "\x7b" then
        return .object (← inside tokens "\x7d" [] (do separated "," (patternEntry fuel) (← room)))
      else fail .pattern (some (.block text tokens))
    | t => fail .pattern t

/-- Parses an entry of an object pattern. -/
def patternEntry : Nat → Parser (Term × Pattern Term)
  | 0 => fail .pattern none
  | fuel + 1 => do
    match (← get).tokens with
    | .var name :: rest => do
      modify fun p => { p with tokens := rest }
      return (.text (name.drop 1).toString, .var name)
    | .block text tokens :: rest =>
      if text.startsWith "(" then do
        modify fun p => { p with tokens := rest }
        let k ← inside tokens ")" .identity (term true fuel)
        expect ":"
        return (k, ← pattern fuel)
      else fail .key (some (.block text tokens))
    | _ => do
      let k ← key fuel
      expect ":"
      return (k, ← pattern fuel)

end

/-- Takes the paths of the modules that are included or imported in front of a term. -/
def imports : Nat → Parser (List String)
  | 0 => return []
  | fuel + 1 => do
    match (← get).tokens with
    | .word "include" :: _ => do
      let _ ← next
      let path ← modulePath
      expect ";"
      return path :: (← imports fuel)
    | .word "import" :: _ => do
      let _ ← next
      let path ← modulePath
      expect "as"
      match ← next with
      | some (.word _) | some (.var _) => do
        expect ";"
        return path :: (← imports fuel)
      | t => fail .identifier t
    | _ => return []
where
  /-- Takes a string without interpolations. -/
  modulePath : Parser String := do
    match ← next with
    | some (.string _ parts) => return .join (parts.map plain)
    | t => fail .string t
  plain : Part Token → String
    | .text s => s
    | .char c => c.toString
    | .interpolation _ => ""

/-- Parses a whole filter. -/
def program (fuel : Nat) : Parser (List String × Term) := do
  let paths ← imports fuel
  return (paths, ← term true fuel)

/-- Parses all of the tokens, or tells the faults in the order in which they were found. -/
def onTokens (tokens : List Token) (default : α) (p : Parser α) :
    Except (List ParseFault) α :=
  let (result, s) := (inside tokens "" default p).run.run ⟨[], []⟩
  match result, s.faults with
  | .ok x, [] => .ok x
  | _, faults => .error faults.reverse

end Parser

end Assay.Filter

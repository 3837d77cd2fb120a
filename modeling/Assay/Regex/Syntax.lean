import Assay.Decimal.Digits

/-!
# Regular expressions

Regular expressions with groups, classes, anchors and repetitions, and their syntax.  The
classes of digits, blanks and word characters hold ASCII characters only, and letters are
matched in either case within ASCII only.
-/

namespace Assay

/-- A condition on the place between two characters. -/
inductive Regex.Anchor where
  | start
  | stop
  | lineStart
  | lineStop
  | wordBoundary
  | noWordBoundary
  | wordStart
  | wordStop

/-- A regular expression. -/
inductive Regex where
  | empty
  /-- A character in one of the ranges, or in none of them. -/
  | oneOf (negated : Bool) (ranges : List (Char × Char))
  | anchor (a : Regex.Anchor)
  | group (index : Nat) (body : Regex)
  | repetition (least : Nat) (most : Option Nat) (greedy : Bool) (body : Regex)
  | sequence (parts : List Regex)
  | choice (branches : List Regex)
deriving Inhabited

namespace Regex

/-- The settings of a part of an expression. -/
structure Flags where
  ignoreCase : Bool
  multiLine : Bool
  dotAll : Bool
  swapGreed : Bool
  ignoreBlanks : Bool

/-- No settings. -/
def Flags.none : Flags := ⟨false, false, false, false, false⟩

/-- An expression with the names of its groups, from the first on. -/
structure Compiled where
  body : Regex
  names : List (Option String)

/-- What is left of an expression while it is read. -/
structure State where
  rest : List Char
  flags : Flags
  names : List (Option String)

/-- Reading an expression, which may fail with a message. -/
abbrev Reader := StateT State (Except String)

namespace Reader

def rest : Reader (List Char) := do return (← get).rest

def setRest (cs : List Char) : Reader Unit := modify fun s => { s with rest := cs }

def skip : Reader Unit := modify fun s => { s with rest := s.rest.drop 1 }

def peek : Reader (Option Char) := do return (← get).rest.head?

/-- The text after blanks and comments. -/
def afterBlanks : Bool → List Char → List Char
  | _, [] => []
  | true, c :: cs => afterBlanks (c ≠ '\n') cs
  | false, c :: cs =>
    if c.isWhitespace ∨ c = '\x0b' ∨ c = '\x0c' then afterBlanks false cs
    else if c = '#' then afterBlanks true cs
    else c :: cs

/-- Steps over blanks and comments, if they are to be ignored. -/
def blanks : Reader Unit := do
  if (← get).flags.ignoreBlanks then
    modify fun s => { s with rest := afterBlanks false s.rest }

/-- Steps over a character and blanks, and fails at the end. -/
def skipOr (message : String) : Reader Unit := do
  skip
  blanks
  if (← rest).isEmpty then throw message

/-- Steps over a text, if it is there. -/
def accept (text : String) : Reader Bool := do
  let cs ← rest
  if text.toList.isPrefixOf cs then
    setRest (cs.drop text.length)
    return true
  else return false

/-- The ranges with letters in the other case. -/
def foldCase (ranges : List (Char × Char)) : List (Char × Char) :=
  ranges ++ ranges.flatMap fun (a, b) =>
    let shift (low high : Char) (f : Nat → Nat) :=
      let a' := max a.toNat low.toNat
      let b' := min b.toNat high.toNat
      if a' ≤ b' then [(Char.ofNat (f a'), Char.ofNat (f b'))] else []
    shift 'a' 'z' (· - 32) ++ shift 'A' 'Z' (· + 32)

/-- A character in ranges. -/
def ofRanges (negated : Bool) (ranges : List (Char × Char)) : Reader Regex := do
  return .oneOf negated (if (← get).flags.ignoreCase then foldCase ranges else ranges)

/-- A character. -/
def ofChar (c : Char) : Reader Regex := ofRanges false [(c, c)]

/-- Reads a decimal number. -/
def decimal : Reader Nat := do
  blanks
  let cs ← rest
  let ds := cs.takeWhile Char.isDigit
  setRest (cs.dropWhile Char.isDigit)
  blanks
  if ds.isEmpty then throw "expected decimal number, but found no digits"
  if 4294967296 ≤ Decimal.value ds then throw "got invalid decimal number"
  return Decimal.value ds

def hexValue (ds : List Char) : Nat :=
  ds.foldl (fun n d => 16 * n + (Decimal.hexValue? d).getD 0) 0

/-- Reads a hexadecimal escape, from its letter on. -/
def hex : Reader Char := do
  let digits := match ← peek with
    | some 'x' => 2
    | some 'u' => 4
    | _ => 8
  skipOr "expected hexadecimal number, but saw end of pattern first"
  if (← peek) = some '{' then
    let body := (← rest).drop 1
    let ds := body.takeWhile (· ≠ '}')
    unless ds.all (fun d => (Decimal.hexValue? d).isSome) do
      throw "expected hexadecimal number in braces, but got non-hex digit"
    if ds.length = body.length then
      throw "expected hexadecimal number, but saw end of pattern before closing brace"
    setRest (body.drop (ds.length + 1))
    if ds.isEmpty then throw "expected hexadecimal number in braces, but got no digits"
    if Nat.isValidChar (hexValue ds) then return Char.ofNat (hexValue ds)
    else throw "got invalid hexadecimal number in braces"
  else
    let ds := (← rest).take digits
    unless ds.all (fun d => (Decimal.hexValue? d).isSome) do
      throw "expected fixed length hexadecimal number, but got non-hex digit"
    if ds.length < digits then
      throw "expected fixed length hexadecimal number, but saw end of pattern first"
    setRest ((← rest).drop digits)
    if Nat.isValidChar (hexValue ds) then return Char.ofNat (hexValue ds)
    else throw "got invalid fixed length hexadecimal number"

/-- The ranges of the class of a letter. -/
def letterClass (c : Char) : List (Char × Char) :=
  if c = 'd' ∨ c = 'D' then [('0', '9')]
  else if c = 's' ∨ c = 'S' then [('\t', '\r'), (' ', ' ')]
  else [('0', '9'), ('A', 'Z'), ('_', '_'), ('a', 'z')]

/-- Whether a character stands for itself after a backslash. -/
def isEscapable (c : Char) : Bool :=
  c.toNat < 0x80 && !c.isAlphanum && c != '<' && c != '>'

/-- The control character of a letter. -/
def control? (c : Char) : Option Char :=
  if c = 'a' then some '\x07'
  else if c = 'f' then some '\x0c'
  else if c = 't' then some '\t'
  else if c = 'n' then some '\n'
  else if c = 'r' then some '\r'
  else if c = 'v' then some '\x0b'
  else none

/-- What an escape stands for. -/
inductive Item where
  | char (c : Char)
  | set (negated : Bool) (ranges : List (Char × Char))
  | anchor (a : Anchor)

/-- Reads an escape, from its backslash on. -/
def escape : Reader Item := do
  skip
  match ← peek with
  | none => throw "saw start of escape sequence, but saw end of pattern before it finished"
  | some c =>
    if c.isDigit then throw "backreferences are not supported"
    else if c = 'p' ∨ c = 'P' then throw "Unicode character classes are not supported"
    else if c = 'x' ∨ c = 'u' ∨ c = 'U' then return .char (← hex)
    else do
      skip
      if "dsw".toList.contains c then return .set false (letterClass c)
      else if "DSW".toList.contains c then return .set true (letterClass c)
      else if isEscapable c then return .char c
      else match control? c with
        | some d => return .char d
        | none =>
          if c = 'A' then return .anchor .start
          else if c = 'z' then return .anchor .stop
          else if c = 'b' then
            if ← accept "\x7bstart\x7d" then return .anchor .wordStart
            else if ← accept "\x7bend\x7d" then return .anchor .wordStop
            else return .anchor .wordBoundary
          else if c = 'B' then return .anchor .noWordBoundary
          else if c = '<' then return .anchor .wordStart
          else if c = '>' then return .anchor .wordStop
          else throw "unrecognized escape sequence"

/-- The ranges of a named class of ASCII characters. -/
def namedClass? : String → Option (List (Char × Char))
  | "alnum" => some [('0', '9'), ('A', 'Z'), ('a', 'z')]
  | "alpha" => some [('A', 'Z'), ('a', 'z')]
  | "ascii" => some [('\x00', '\x7f')]
  | "blank" => some [('\t', '\t'), (' ', ' ')]
  | "cntrl" => some [('\x00', '\x1f'), ('\x7f', '\x7f')]
  | "digit" => some [('0', '9')]
  | "graph" => some [('!', '~')]
  | "lower" => some [('a', 'z')]
  | "print" => some [(' ', '~')]
  | "punct" => some [('!', '/'), (':', '@'), ('[', '\x60'), ('\x7b', '~')]
  | "space" => some [('\t', '\r'), (' ', ' ')]
  | "upper" => some [('A', 'Z')]
  | "word" => some [('0', '9'), ('A', 'Z'), ('_', '_'), ('a', 'z')]
  | "xdigit" => some [('0', '9'), ('A', 'F'), ('a', 'f')]
  | _ => none

/-- The ranges that hold what others do not. -/
def complement (ranges : List (Char × Char)) : List (Char × Char) :=
  let sorted := ranges.mergeSort fun a b => a.1.toNat ≤ b.1.toNat
  go 0 sorted
where
  /-- The ranges from a code point on. -/
  go (low : Nat) : List (Char × Char) → List (Char × Char)
    | [] => if low ≤ 0x10ffff then [(Char.ofNat low, Char.ofNat 0x10ffff)] else []
    | (a, b) :: rest =>
      (if low < a.toNat then [(Char.ofNat low, Char.ofNat (a.toNat - 1))] else [])
        ++ go (max low (b.toNat + 1)) rest

/-- Reads a named class in brackets, if there is one. -/
def namedClass : Reader (Option (List (Char × Char))) := do
  match ← rest with
  | '[' :: ':' :: cs =>
    let (negated, cs) := match cs with
      | '^' :: ds => (true, ds)
      | ds => (false, ds)
    let name := cs.takeWhile (· ≠ ':')
    match cs.drop name.length, namedClass? (.ofList name) with
    | ':' :: ']' :: after, some ranges => do
      setRest after
      return some (if negated then complement ranges else ranges)
    | _, _ => return none
  | _ => return none

/-- Reads an item of a class. -/
def classItem : Reader Item := do
  match ← peek with
  | some '\\' => escape
  | some c => do
    skip
    return .char c
  | none => throw "found unclosed character class"

/-- The ranges of an item of a class. -/
def itemRanges : Item → Reader (List (Char × Char))
  | .char c => return [(c, c)]
  | .set negated ranges => return if negated then complement ranges else ranges
  | .anchor _ => throw "invalid escape sequence in character class"

/-- The character of an end of a range. -/
def itemChar : Item → Reader Char
  | .char c => return c
  | _ => throw "character class ranges must start and end with a single character"

/-- The next character that is not ignored, after the one in front. -/
def peekAfter : Reader (Option Char) := do
  let s ← get
  let cs := s.rest.drop 1
  return (if s.flags.ignoreBlanks then afterBlanks false cs else cs).head?

/-- Reads an item or a range of a class. -/
def classRange : Reader (List (Char × Char)) := do
  let first ← classItem
  blanks
  match ← peek with
  | none => throw "non-empty character class has no closing bracket"
  | some c =>
    let after ← peekAfter
    if c ≠ '-' ∨ after = some ']' ∨ after = some '-' then itemRanges first
    else do
      skipOr "non-empty character class has no closing bracket after dash"
      let second ← classItem
      let a ← itemChar first
      let b ← itemChar second
      if b < a then throw "invalid range in character class"
      return [(a, b)]

/-- Reads the rest of a class. -/
def classRest (negated : Bool) : Nat → List (Char × Char) → Reader Regex
  | 0, _ => throw "found unclosed character class"
  | fuel + 1, ranges => do
    blanks
    match ← rest with
    | [] => throw "found unclosed character class"
    | '[' :: _ =>
      match ← namedClass with
      | some more => classRest negated fuel (ranges ++ more)
      | none => throw "nested character classes are not supported"
    | ']' :: _ => do
      skip
      ofRanges negated ranges
    | '&' :: '&' :: _ => throw "character class intersection is not supported"
    | '-' :: '-' :: _ => throw "character class difference is not supported"
    | '~' :: '~' :: _ => throw "character class symmetric difference is not supported"
    | _ => do classRest negated fuel (ranges ++ (← classRange))

/-- Reads the dashes that a class starts with. -/
def leadingDashes : Nat → List (Char × Char) → Reader (List (Char × Char))
  | 0, ranges => return ranges
  | fuel + 1, ranges => do
    if (← peek) = some '-' then
      skipOr "non-empty character class has no closing bracket after dash"
      leadingDashes fuel (('-', '-') :: ranges)
    else return ranges

/-- Reads a class, from its bracket on. -/
def charClass : Reader Regex := do
  skipOr "found unclosed character class"
  let negated := (← peek) = some '^'
  if negated then skipOr "negated character class has no closing bracket"
  let dashes ← leadingDashes (← rest).length []
  let first : List (Char × Char) ←
    if dashes.isEmpty ∧ (← peek) = some ']' then do
      skipOr "character class begins with literal ']' but has no closing bracket"
      pure [(']', ']')]
    else pure dashes
  classRest negated ((← rest).length + 1) first

/-- A repetition of the last part. -/
def repeated (message : String) (parts : List Regex) (least : Nat) (most : Option Nat)
    (greedy : Bool) : Reader (List Regex) := do
  match parts.getLast? with
  | none => throw message
  | some body =>
    let greedy := if (← get).flags.swapGreed then !greedy else greedy
    return parts.dropLast ++ [.repetition least most greedy body]

/-- Reads the mark that makes a repetition take as little as it can. -/
def greed : Reader Bool := do
  if (← peek) = some '?' then
    skip
    return false
  else return true

/-- Reads a repetition of the last part by a mark. -/
def uncounted (parts : List Regex) : Reader (List Regex) := do
  let message := "uncounted repetition operator must be applied to a sub-expression"
  if parts.isEmpty then throw message
  let mark ← peek
  skip
  let greedy ← greed
  let (least, most) := match mark with
    | some '?' => (0, some 1)
    | some '*' => (0, none)
    | _ => (1, none)
  repeated message parts least most greedy

/-- Reads a repetition of the last part between bounds. -/
def counted (parts : List Regex) : Reader (List Regex) := do
  let message := "counted repetition operator must be applied to a sub-expression"
  if parts.isEmpty then throw message
  skipOr "found unclosed counted repetition operator"
  let least ← decimal
  let most ← match ← peek with
    | none => throw "found incomplete and unclosed counted repetition operator"
    | some ',' => do
      skipOr "found counted repetition operator with a comma that is unclosed"
      let most ← if (← peek) = some '}' then pure none else do pure (some (← decimal))
      if (← rest).isEmpty then throw "found counted repetition with min and max that is unclosed"
      pure most
    | some _ => pure (some least)
  unless (← peek) = some '}' do
    throw "expected closing brace for counted repetition, but got something else"
  skip
  blanks
  let greedy ← greed
  if let some m := most then
    if m < least then throw "found counted repetition with a min bigger than its max"
  repeated message parts least most greedy

/-- Sets a flag by its letter. -/
def setFlag (flags : Flags) (value : Bool) (c : Char) : Option Flags :=
  if c = 'i' then some { flags with ignoreCase := value }
  else if c = 'm' then some { flags with multiLine := value }
  else if c = 's' then some { flags with dotAll := value }
  else if c = 'U' then some { flags with swapGreed := value }
  else if c = 'x' then some { flags with ignoreBlanks := value }
  else if c = 'R' then some flags
  else none

/-- Reads flags up to the character that ends them. -/
def inlineFlags : Nat → Bool → List Char → Flags → Reader Flags
  | 0, _, _, flags => return flags
  | fuel + 1, negated, seen, flags => do
    match ← peek with
    | none => throw "expected ':' or ')' to end inline flags, but got end of pattern"
    | some c =>
      if c = ':' ∨ c = ')' then
        if seen.head? = some '-' then throw "inline flags cannot end with negation directive"
        else return flags
      else if c = '-' then
        if negated then throw "inline flag negation cannot be repeated"
        else do
          skip
          inlineFlags fuel true ('-' :: seen) flags
      else if seen.contains c then throw "duplicate inline flag is not allowed"
      else match setFlag flags (!negated) c with
        | none => throw "unrecognized inline flag"
        | some flags => do
          skip
          inlineFlags fuel negated (c :: seen) flags

/-- Reads the name of a group, up to and with the bracket that ends it. -/
def groupName : Reader String := do
  if (← rest).isEmpty then throw "expected capture group name, but got end of pattern"
  let cs ← rest
  let name := cs.takeWhile (· ≠ '>')
  let valid := match name with
    | [] => true
    | c :: ds =>
      (c == '_' || c.isAlpha)
        && ds.all fun d => d == '_' || d == '.' || d == '[' || d == ']' || d.isAlphanum
  unless valid do throw "invalid group name"
  if name.length = cs.length then
    throw "expected end of capture group name, but got end of pattern"
  if name.isEmpty then throw "empty capture group names are not allowed"
  setRest (cs.drop (name.length + 1))
  let name := String.ofList name
  if (← get).names.contains (some name) then throw "duplicate capture group name"
  return name

/-- Whether a group looks around. -/
def looksAround (cs : List Char) : Bool :=
  ["?=".toList, "?!".toList, "?<=".toList, "?<!".toList].any (List.isPrefixOf · cs)

/-- The next index of a group with a name or without one. -/
def newGroup (name : Option String) : Reader Nat := do
  let s ← get
  set { s with names := s.names ++ [name] }
  return s.names.length + 1

/-- The expression of a line break or another character. -/
def dot : Reader Regex := do
  return if (← get).flags.dotAll then .oneOf true [] else .oneOf true [('\n', '\n')]

/-- Reads a part that is a single character or escape. -/
def primitive (c : Char) : Reader Regex := do
  if c = '\\' then
    match ← escape with
    | .char c => ofChar c
    | .set negated ranges => return .oneOf negated ranges
    | .anchor a => return .anchor a
  else do
    skip
    if c = '.' then dot
    else if c = '^' then
      return .anchor (if (← get).flags.multiLine then .lineStart else .start)
    else if c = '$' then
      return .anchor (if (← get).flags.multiLine then .lineStop else .stop)
    else ofChar c

/-- Reads branches up to the end or a closing bracket.  The parts are those of the current
branch, and the branches those before it. -/
def branches (nested : Bool) :
    Nat → List Regex → List Regex → Reader Regex
  | 0, _, _ => throw "pattern has too much nesting"
  | fuel + 1, done, parts => do
    blanks
    match ← peek with
    | none => return .choice (done ++ [.sequence parts])
    | some ')' =>
      if nested then return .choice (done ++ [.sequence parts])
      else throw "found closing ')' without matching '('"
    | some '|' => do
      skip
      branches nested fuel (done ++ [.sequence parts]) []
    | some '(' => do
      let flags := (← get).flags
      skip
      blanks
      if looksAround (← rest) then throw "look-around is not supported"
      let sub : Option Regex ←
        if (← accept "?P<") || (← accept "?<") then do
          let name ← groupName
          let index ← newGroup (some name)
          pure (some (.group index (← branches true fuel [] [])))
        else if ← accept "?" then do
          if (← rest).isEmpty then throw "expected closing ')', but got end of pattern"
          let before := (← rest).length
          let flags ← inlineFlags before false [] flags
          modify fun s => { s with flags := flags }
          if (← peek) = some ')' then
            if before = (← rest).length then
              throw "empty flag directive '(?)' is not allowed"
            pure none
          else do
            skip
            pure (some (← branches true fuel [] []))
        else do
          let index ← newGroup none
          pure (some (.group index (← branches true fuel [] [])))
      unless (← peek) = some ')' do throw "found open group without closing ')'"
      skip
      match sub with
      | some r => do
        modify fun s => { s with flags := flags }
        branches nested fuel done (parts ++ [r])
      | none => branches nested fuel done parts
    | some '[' => do branches nested fuel done (parts ++ [← charClass])
    | some '{' => do branches nested fuel done (← counted parts)
    | some c =>
      if c = '?' ∨ c = '*' ∨ c = '+' then do
        branches nested fuel done (← uncounted parts)
      else do branches nested fuel done (parts ++ [← primitive c])

end Reader

/-- Reads a text as an expression, or tells what is wrong with it. -/
def compile (flags : Flags) (text : String) : Except String Compiled :=
  match (Reader.branches false (2 * text.length + 2) [] []).run ⟨text.toList, flags, []⟩ with
  | .ok (body, s) => .ok ⟨body, s.names⟩
  | .error message => .error message

end Regex

end Assay

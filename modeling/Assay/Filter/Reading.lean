import Assay.Filter.Value

/-!
# Reading filter values

The value of a JSON text inside a filter.  Numbers other than 64-bit integers with a sign
are kept as they are written.  What is read goes together with the text after it.
-/

namespace Assay.Filter

/-- Why a text is no JSON. -/
inductive ReadingFault where
  /-- Something else should stand there. -/
  | expected (what : String)
  | digit
  | control
  | unclosed
  | escapeEnd
  | escapeKind
  | hexadecimal
  | character (n : Nat)
  | lowSurrogate

/-- The wording of a fault. -/
def ReadingFault.message : ReadingFault → String
  | expected what => what ++ " expected"
  | digit => "digit expected"
  | control => "invalid control character"
  | unclosed => "unterminated string"
  | escapeEnd => "unterminated escape sequence"
  | escapeKind => "unknown escape sequence type"
  | hexadecimal => "invalid hexadecimal sequence"
  | character n => "invalid character with index " ++ String.ofList (Decimal.digits n)
  | lowSurrogate => "expected low surrogate"

namespace Reading

/-- The text without the white space in front. -/
def skipSpace (cs : List Char) : List Char :=
  cs.dropWhile fun c => c == ' ' || c == '\t' || c == '\n' || c == '\r'

/-- At least one digit. -/
def someDigits (cs : List Char) : Except ReadingFault (List Char × List Char) :=
  match cs.takeWhile Char.isDigit with
  | [] => .error .digit
  | ds => .ok (ds, cs.dropWhile Char.isDigit)

/-- The digits before the point: a zero, or digits of which the first is not zero. -/
def wholeDigits : List Char → Except ReadingFault (List Char × List Char)
  | '0' :: cs => .ok (['0'], cs)
  | cs => someDigits cs

/-- The point and the digits after it, if there is one. -/
def fractionDigits : List Char → Except ReadingFault (List Char × List Char)
  | '.' :: cs => do
    let (ds, rest) ← someDigits cs
    return ('.' :: ds, rest)
  | cs => .ok ([], cs)

/-- The exponent, if there is one. -/
def exponentDigits : List Char → Except ReadingFault (List Char × List Char)
  | c :: cs =>
    if c = 'e' ∨ c = 'E' then
      let (sign, cs) := match cs with
        | '+' :: ds => (['+'], ds)
        | '-' :: ds => (['-'], ds)
        | ds => ([], ds)
      do
        let (ds, rest) ← someDigits cs
        return (c :: sign ++ ds, rest)
    else .ok ([], c :: cs)
  | [] => .ok ([], [])

/-- A number. -/
def number (cs : List Char) : Except ReadingFault (Value × List Char) := do
  let (sign, cs) := match cs with
    | '-' :: ds => (['-'], ds)
    | ds => ([], ds)
  let (whole, cs) ← wholeDigits cs
  let (fraction, cs) ← fractionDigits cs
  let (exponent, cs) ← exponentDigits cs
  return (Value.ofNumberText (.ofList (sign ++ whole ++ fraction ++ exponent)), cs)

/-- The number of four hexadecimal digits. -/
def hexNumber : Nat → Nat → List Char → Except ReadingFault (Nat × List Char)
  | 0, n, cs => .ok (n, cs)
  | _ + 1, _, [] => .error .escapeEnd
  | count + 1, n, c :: cs =>
    match Decimal.hexValue? c with
    | some d => hexNumber count (16 * n + d) cs
    | none => .error .hexadecimal

/-- The character of an escape by number. -/
def unicode (cs : List Char) : Except ReadingFault (Char × List Char) := do
  let (n, cs) ← hexNumber 4 0 cs
  if 0xd800 ≤ n ∧ n < 0xdc00 then
    match cs with
    | '\\' :: 'u' :: cs => do
      let (low, cs) ← hexNumber 4 0 cs
      if 0xdc00 ≤ low ∧ low < 0xe000 then
        return (Char.ofNat (0x10000 + (n - 0xd800) * 1024 + (low - 0xdc00)), cs)
      else throw .lowSurrogate
    | _ => throw .lowSurrogate
  else if Nat.isValidChar n then return (Char.ofNat n, cs)
  else throw (.character n)

/-- The character of an escape, after the backslash. -/
def escape : List Char → Except ReadingFault (Char × List Char)
  | [] => .error .escapeEnd
  | 'u' :: cs => unicode cs
  | c :: cs =>
    if c = '"' ∨ c = '\\' ∨ c = '/' then .ok (c, cs)
    else if c = 'b' then .ok ('\x08', cs)
    else if c = 'f' then .ok ('\x0c', cs)
    else if c = 'n' then .ok ('\n', cs)
    else if c = 'r' then .ok ('\r', cs)
    else if c = 't' then .ok ('\t', cs)
    else .error .escapeKind

/-- The characters of a string, after the opening mark. -/
def stringBody : Nat → List Char → Except ReadingFault (List Char × List Char)
  | 0, _ => .error .unclosed
  | _, [] => .error .unclosed
  | _ + 1, '"' :: cs => .ok ([], cs)
  | fuel + 1, '\\' :: cs => do
    let (c, cs) ← escape cs
    let (rest, cs) ← stringBody fuel cs
    return (c :: rest, cs)
  | fuel + 1, c :: cs =>
    if c.toNat < 0x20 then .error .control
    else do
      let (rest, cs) ← stringBody fuel cs
      return (c :: rest, cs)

/-- Drops a word in front of a text. -/
def afterWord (w : String) (cs : List Char) : Option (List Char) :=
  if w.toList.isPrefixOf cs then some (cs.drop w.length) else none

/-- What comes after an item: the rest of the items, or the end. -/
def afterItem (closing : Char) (cs : List Char) : Except ReadingFault (Bool × List Char) :=
  match skipSpace cs with
  | c :: cs =>
    if c = closing then .ok (false, cs)
    else if c = ',' then .ok (true, cs)
    else .error (.expected "comma or end of sequence")
  | [] => .error (.expected "comma or end of sequence")

mutual

/-- A value.  The fuel is the length of the text. -/
def value : Nat → List Char → Except ReadingFault (Value × List Char)
  | 0, _ => .error (.expected "value")
  | fuel + 1, cs =>
    match skipSpace cs with
    | '"' :: cs => do
      let (s, cs) ← stringBody (cs.length + 1) cs
      return (.string (.ofList s), cs)
    | '[' :: cs =>
      match skipSpace cs with
      | [] => .error (.expected "value or end of sequence")
      | ']' :: cs => .ok (.array [], cs)
      | cs => do
        let (vs, cs) ← items fuel cs
        return (.array vs, cs)
    | '{' :: cs =>
      match skipSpace cs with
      | [] => .error (.expected "value or end of sequence")
      | '}' :: cs => .ok (.object [], cs)
      | cs => do
        let (ms, cs) ← members fuel cs
        return (.ofMembers ms, cs)
    | cs =>
      match afterWord "null" cs, afterWord "true" cs, afterWord "false" cs with
      | some cs, _, _ => .ok (.null, cs)
      | _, some cs, _ => .ok (.boolean true, cs)
      | _, _, some cs => .ok (.boolean false, cs)
      | _, _, _ =>
        match cs with
        | c :: _ => if c.isDigit ∨ c = '-' then number cs else .error (.expected "value")
        | [] => .error (.expected "value")

/-- The items of an array, after its opening bracket. -/
def items : Nat → List Char → Except ReadingFault (List Value × List Char)
  | 0, _ => .error (.expected "value")
  | fuel + 1, cs => do
    let (v, cs) ← value fuel cs
    let (more, cs) ← afterItem ']' cs
    if more then
      let (vs, cs) ← items fuel cs
      return (v :: vs, cs)
    else return ([v], cs)

/-- The members of an object, after its opening brace. -/
def members : Nat → List Char → Except ReadingFault (List (String × Value) × List Char)
  | 0, _ => .error (.expected "value")
  | fuel + 1, cs =>
    match skipSpace cs with
    | [] => .error (.expected "value")
    | '"' :: cs => do
      let (name, cs) ← stringBody (cs.length + 1) cs
      match skipSpace cs with
      | ':' :: cs => do
        let (v, cs) ← value fuel cs
        let (more, cs) ← afterItem '}' cs
        if more then
          let (ms, cs) ← members fuel cs
          return ((.ofList name, v) :: ms, cs)
        else return ([(.ofList name, v)], cs)
      | _ => .error (.expected "colon")
    | _ => .error (.expected "string")

end

end Reading

/-- The value of a text that is one JSON document. -/
def Value.read (s : String) : Except ReadingFault Value := do
  let (v, rest) ← Reading.value (2 * s.length + 2) s.toList
  if (Reading.skipSpace rest).isEmpty then return v else throw (.expected "end of file")

end Assay.Filter

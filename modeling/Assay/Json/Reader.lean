import Assay.Decimal.Digits
import Assay.Json.Cursor

/-!
# Reading JSON

The reader of JSON texts.  `value` reads one value with at most `depth` containers inside
one another and keeps repeated members; `parse` reads a whole text and settles them.

Numbers without a fraction and an exponent that fit 64 bits are integers.  Other numbers
are read fast rather than exactly: the digits that fit an unsigned 64-bit word make a
significand, which is rounded to a floating-point number and then multiplied or divided
once by a power of ten.
-/

namespace Assay.Json.Reader

open Decimal (Binary64)

variable {α β : Type} [Source α]

/-! ## Words and numbers -/

/-- Reads the rest of a word. -/
def word : List Char → Reader α Unit
  | [] => pure ()
  | w :: ws => do
    match ← peek with
    | none => fail .endInValue
    | some c => if c = w then do skip; word ws else failNext .expectedWord

/-- The digits in front of the cursor, and the cursor after them. -/
def takeDigits : List α → Place → List Char × Cursor α
  | [], p => ([], ⟨[], p⟩)
  | u :: rest, p =>
    if (glyph u).isDigit then
      let r := takeDigits rest (p.after (glyph u) (Source.width u))
      (glyph u :: r.1, r.2)
    else ([], ⟨u :: rest, p⟩)

/-- Reads the digits in front of the cursor. -/
def digitRun : Reader α (List Char) := do
  let c ← get
  let r := takeDigits c.rest c.place
  set r.2
  return r.1

/-- Takes digits into a word as long as it does not overflow.  The second part is the
number of digits that were not taken. -/
def intoWord (start : Nat) : List Char → Nat × Nat
  | [] => (start, 0)
  | c :: cs =>
    let n := 10 * start + Decimal.digitValue c
    if n < Word.count then intoWord n cs else (start, (c :: cs).length)

/-- The floating-point number nearest to `10 ^ n`. -/
def powerOfTen (n : Nat) : Binary64 := .ofNat (Nat.pow 10 n)

/-- Multiplies by a power of ten, if the result is finite.  Exponents below `-308` are
divided off in steps of `308`. -/
def scale : Nat → Binary64 → Int → Option Binary64
  | 0, x, _ => some x
  | fuel + 1, x, exponent =>
    if exponent.natAbs ≤ 308 then
      if 0 ≤ exponent then
        let y := x.mul (powerOfTen exponent.natAbs)
        if y.isFinite then some y else none
      else some (x.div (powerOfTen exponent.natAbs))
    else if x.isZero then some x
    else if 0 ≤ exponent then none
    else scale fuel (x.div (powerOfTen 308)) (exponent + 308)

/-- The floating-point number `± significand · 10 ^ exponent`. -/
def scaled (negative : Bool) (significand : Nat) (exponent : Int) : Reader α Number := do
  -- Three steps of 308 bring every number to zero.
  match scale 5 (.ofNat significand) exponent with
  | none => fail .numberOutOfRange
  | some x => return .float (if negative then x.neg else x)

/-- The limits of the exponent of a number, which is kept in 32 bits. -/
def clampExponent (e : Int) : Int := max (-2147483648) (min 2147483647 e)

/-- Reads the digits of an exponent after the first, up to the one that makes it exceed 31
bits. -/
def exponentDigits : List α → Place → Nat → Cursor α × Option Nat
  | [], p, n => (⟨[], p⟩, some n)
  | u :: rest, p, n =>
    if (glyph u).isDigit then
      let p' := p.after (glyph u) (Source.width u)
      let n' := 10 * n + Decimal.digitValue (glyph u)
      if n' < 2147483648 then exponentDigits rest p' n' else (⟨rest, p'⟩, none)
    else (⟨u :: rest, p⟩, some n)

/-- Reads an exponent, from its `e` on. -/
def exponentPart (negative : Bool) (significand : Nat) (start : Int) : Reader α Number := do
  skip
  let down ← match ← peek with
    | some '+' => do skip; pure false
    | some '-' => do skip; pure true
    | _ => pure false
  match ← peek with
  | none => fail .endInValue
  | some c =>
    if c.isDigit then do
      skip
      let cursor ← get
      let r := exponentDigits cursor.rest cursor.place (Decimal.digitValue c)
      set r.1
      match r.2 with
      | some e =>
        scaled negative significand (clampExponent (if down then start - e else start + e))
      | none =>
        if significand ≠ 0 ∧ ¬ down then fail .numberOutOfRange
        else do
          let _ ← digitRun
          return .float (.withSign negative 0)
    else failNext .invalidNumber

/-- Reads a fraction, from its point on. -/
def fractionPart (negative : Bool) (significand : Nat) (start : Int) : Reader α Number := do
  skip
  let ds ← digitRun
  if ds.isEmpty then
    match ← peek with
    | none => fail .endInValue
    | some _ => failNext .invalidNumber
  else
    let (n, untaken) := intoWord significand ds
    let exponent := start - (ds.length - untaken : Nat)
    match ← peek with
    | some 'e' | some 'E' => exponentPart negative n exponent
    | _ => scaled negative n exponent

/-- The integer of a sign and a word; minus zero and what does not fit 64 bits are
floating-point numbers. -/
def integer (negative : Bool) (n : Nat) : Number :=
  if negative then
    if n = 0 ∨ -n < Word.least then .float (Binary64.ofNat n).neg else .int (-n)
  else .int n

/-- Reads a number, after its sign. -/
def numberBody (negative : Bool) : Reader α Number := do
  match ← peek with
  | none => fail .endInValue
  | some c =>
    if ¬ c.isDigit then failNext .invalidNumber
    else if c = '0' then do
      skip
      match ← peek with
      | some '.' => fractionPart negative 0 0
      | some 'e' | some 'E' => exponentPart negative 0 0
      | some d => if d.isDigit then failNext .invalidNumber else return integer negative 0
      | none => return integer negative 0
    else do
      let ds ← digitRun
      let (n, untaken) := intoWord 0 ds
      match ← peek with
      | some '.' => fractionPart negative n untaken
      | some 'e' | some 'E' => exponentPart negative n untaken
      | _ => if untaken = 0 then return integer negative n else scaled negative n untaken

/-! ## Strings -/

/-- Reads the four digits of a hexadecimal escape. -/
def hexEscape : Reader α Nat := do
  let c ← get
  match c.rest with
  | a :: b :: d :: e :: rest =>
    match Decimal.hexValue? (glyph a), Decimal.hexValue? (glyph b),
      Decimal.hexValue? (glyph d), Decimal.hexValue? (glyph e) with
    | some x, some y, some z, some w => do
      set (⟨rest, ⟨c.place.line, c.place.column + 4⟩⟩ : Cursor α)
      return 4096 * x + 256 * y + 16 * z + w
    | _, _, _, _ => failBytes c
  | _ => failBytes c
where
  /-- Fails four bytes on, or at the end of a shorter text. -/
  failBytes {γ : Type} (c : Cursor α) : Reader α γ :=
    match placeAfter 4 c.rest c.place with
    | some p => failAt p .invalidEscape
    | none => failAt (endPlace c.rest c.place) .endInString

/-- Steps over one unit inside the escape of a second surrogate. -/
def surrogateMark (mark : Char) : Reader α Unit := do
  match ← peek with
  | none => fail .endInString
  | some c => if c = mark then skip else failNext .endOfHexEscape

/-- Reads a `u` escape after its `u`: a code point, or a pair of surrogates that are each
escaped. -/
def unicodeEscape : Reader α Char := do
  let n ← hexEscape
  if 0xdc00 ≤ n ∧ n ≤ 0xdfff then fail .loneSurrogate
  else if n < 0xd800 ∨ 0xdbff < n then return Char.ofNat n
  else do
    surrogateMark '\\'
    surrogateMark 'u'
    let m ← hexEscape
    if m < 0xdc00 ∨ 0xdfff < m then fail .loneSurrogate
    else return Char.ofNat (0x10000 + (n - 0xd800) * 0x400 + (m - 0xdc00))

/-- Reads an escape after its backslash. -/
def escape : Reader α Char := do
  match ← peek with
  | none => fail .endInString
  | some '"' => do skip; return '"'
  | some '\\' => do skip; return '\\'
  | some '/' => do skip; return '/'
  | some 'b' => do skip; return '\x08'
  | some 'f' => do skip; return '\x0c'
  | some 'n' => do skip; return '\n'
  | some 'r' => do skip; return '\r'
  | some 't' => do skip; return '\t'
  | some 'u' => do skip; unicodeEscape
  | some _ => failNext .invalidEscape

/-- Reads the pieces of a string up to and with the closing mark.  The fuel is the number
of units that are left. -/
def stringPieces : Nat → List (α ⊕ Char) → Reader α (List (α ⊕ Char))
  | 0, _ => fail .endInString
  | fuel + 1, pieces => do
    match (← get).rest with
    | [] => fail .endInString
    | u :: _ =>
      let c := glyph u
      if c = '"' then do
        skip
        return pieces.reverse
      else if c = '\\' then do
        skip
        let e ← escape
        stringPieces fuel (.inr e :: pieces)
      else if c.toNat < 0x20 then failNext .controlCharacter
      else do
        skip
        stringPieces fuel (.inl u :: pieces)

/-- Reads a string after its opening mark. -/
def stringBody : Reader α String := do
  let pieces ← stringPieces ((← get).rest.length + 1) []
  match Source.decode pieces with
  | some cs => return .ofList cs
  | none => fail .invalidCodePoint

/-! ## Containers -/

/-- Steps to the next element of an array, over a comma unless it is the first.  Tells
whether there is one. -/
def toElement (first : Bool) : Reader α Bool := do
  match ← next with
  | none => fail .endInList
  | some ']' => return false
  | some c =>
    if first then return true
    else if c = ',' then do
      skip
      match ← next with
      | none => fail .endInValue
      | some ']' => failNext .trailingComma
      | some _ => return true
    else failNext .expectedListEnd

/-- Steps over the end of an array. -/
def closeArray : Reader α Unit := do
  match ← next with
  | none => fail .endInList
  | some ']' => skip
  | some ',' => do
    skip
    match ← next with
    | some ']' => failNext .trailingComma
    | _ => failNext .trailingCharacters
  | some _ => failNext .trailingCharacters

/-- Steps to the next member of an object, over a comma unless it is the first.  Tells
whether there is one. -/
def toMember (first : Bool) : Reader α Bool := do
  match ← next with
  | none => fail .endInObject
  | some '}' => return false
  | some c =>
    if first then atKey (some c)
    else if c = ',' then do
      skip
      atKey (← next)
    else failNext .expectedObjectEnd
where
  /-- A member starts with a quotation mark. -/
  atKey : Option Char → Reader α Bool
    | none => fail .endInValue
    | some '"' => return true
    | some '}' => failNext .trailingComma
    | some _ => failNext .keyNotString

/-- Steps over the end of an object. -/
def closeObject : Reader α Unit := do
  match ← next with
  | none => fail .endInObject
  | some '}' => skip
  | some ',' => failNext .trailingComma
  | some _ => failNext .trailingCharacters

/-- Steps to the name of the next member and reads it. -/
def memberName (first : Bool) : Reader α (Option String) :=
  within .unknown do
    if ← toMember first then do
      skip
      return some (← stringBody)
    else return none

/-- Steps over the colon of a member. -/
def colon : Reader α Unit := do
  match ← next with
  | none => fail .endInObject
  | some ':' => skip
  | some _ => failNext .expectedColon

/-- Reads the elements of an array, from the one at `index` on, up to the closing
bracket. -/
def elements (item : Reader α β) : Nat → Nat → List β → Reader α (List β)
  | 0, _, _ => fail .endInList
  | fuel + 1, index, items => do
    if ← toElement (index == 0) then do
      let x ← within (.index index) item
      elements item fuel (index + 1) (x :: items)
    else return items.reverse

/-- Reads the members of an object up to the closing brace. -/
def members (item : Reader α β) :
    Nat → Bool → List (String × β) → Reader α (List (String × β))
  | 0, _, _ => fail .endInObject
  | fuel + 1, first, items => do
    match ← memberName first with
    | none => return items.reverse
    | some name => do
      colon
      let x ← within (.key name) item
      members item fuel false ((name, x) :: items)

/-- The number of elements or members that the rest of a text can hold at most, and one
more. -/
def room : Reader α Nat := do
  return (← get).rest.length + 1

/-- Reads an array after its opening bracket. -/
def arrayBody (item : Reader α β) : Reader α (List β) := do
  let xs ← elements item (← room) 0 []
  closeArray
  return xs

/-- Reads an object after its opening brace. -/
def objectBody (item : Reader α β) : Reader α (List (String × β)) := do
  let xs ← members item (← room) true []
  closeObject
  return xs

/-! ## Values -/

/-- Reads a value that is not a container and looks like it starts with `c`. -/
def scalar (c : Char) : Reader α Json := do
  if c = 'n' then do skip; word ['u', 'l', 'l']; return .null
  else if c = 't' then do skip; word ['r', 'u', 'e']; return .boolean true
  else if c = 'f' then do skip; word ['a', 'l', 's', 'e']; return .boolean false
  else if c = '-' then do skip; return .number (← numberBody true)
  else if c.isDigit then return .number (← numberBody false)
  else if c = '"' then do skip; return .string (← stringBody)
  else failNext .expectedValue

/-- Reads a value with at most `depth` containers inside one another. -/
def value (depth : Nat) : Reader α Json := do
  match ← next with
  | none => fail .endInValue
  | some '[' =>
    match depth with
    | 0 => failNext .tooNested
    | depth + 1 => do
      skip
      return .array (← arrayBody (value depth))
  | some '{' =>
    match depth with
    | 0 => failNext .tooNested
    | depth + 1 => do
      skip
      return .object (← objectBody (value depth))
  | some c => scalar c

/-- The greatest number of containers inside one another. -/
def maxDepth : Nat := 127

/-- Reads a value and nothing after it but white space. -/
def document : Reader α Json := do
  let v ← value maxDepth
  match ← next with
  | none => return v
  | some _ => failNext .trailingCharacters

/-- Reads from the start of a text. -/
def onText (r : Reader α β) (text : List α) : Except Fault β :=
  (r.run (.start text)).map Prod.fst

end Reader

/-- The value of a whole text. -/
def parse (text : String) : Except Fault Json :=
  (Reader.document.onText text.toList).map settled

end Assay.Json

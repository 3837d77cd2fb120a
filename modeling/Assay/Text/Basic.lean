/-!
# Texts

Blanks and lines of texts, and the text that a list of bytes encodes.  A line ends with a line
feed, which may follow a carriage return; after the last line feed there is a further line only
if characters follow it.
-/

namespace Assay.Text

/-! ## Blanks -/

/-- Whether a character is white space. -/
def isBlank (c : Char) : Bool :=
  let n := c.toNat
  (9 ≤ n && n ≤ 13) || n == 32 || n == 0x85 || n == 0xa0 || n == 0x1680
    || (0x2000 ≤ n && n ≤ 0x200a) || n == 0x2028 || n == 0x2029 || n == 0x202f
    || n == 0x205f || n == 0x3000

/-- Drops the blanks at the start. -/
def trimStart (cs : List Char) : List Char := cs.dropWhile isBlank

/-- Drops the blanks at the end. -/
def trimEnd (cs : List Char) : List Char := (cs.reverse.dropWhile isBlank).reverse

/-! ## Lines -/

/-- Drops one carriage return at the end. -/
def dropReturn (cs : List Char) : List Char :=
  match cs.getLast? with
  | some '\r' => cs.dropLast
  | _ => cs

/-- The lines among the pieces between line feeds. -/
def linesOfPieces : List (List Char) → List (List Char)
  | [] => []
  | [last] => if last.isEmpty then [] else [last]
  | piece :: rest => dropReturn piece :: linesOfPieces rest

/-- The lines of a text. -/
def lines (cs : List Char) : List (List Char) := linesOfPieces (cs.splitOn '\n')

/-! ## UTF-8 -/

/-- A place at which bytes are no UTF-8. -/
structure Utf8Fault where
  position : Nat
  /-- The number of bytes that cannot be read; nothing if the end comes too early. -/
  length : Option Nat
deriving DecidableEq

/-- The ranges of the bytes that may follow a first byte; nothing if it is no first byte. -/
def utf8Tail (b : UInt8) : Option (List (UInt8 × UInt8)) :=
  let any : UInt8 × UInt8 := (0x80, 0xbf)
  if b < 0x80 then some []
  else if b < 0xc2 then none
  else if b < 0xe0 then some [any]
  else if b = 0xe0 then some [(0xa0, 0xbf), any]
  else if b = 0xed then some [(0x80, 0x9f), any]
  else if b < 0xf0 then some [any, any]
  else if b = 0xf0 then some [(0x90, 0xbf), any, any]
  else if b < 0xf4 then some [any, any, any]
  else if b = 0xf4 then some [(0x80, 0x8f), any, any]
  else none

/-- Where bytes stop being UTF-8.  The first position is that of the next byte, the second
that of the character that is being read, and the ranges those of its further bytes. -/
def utf8Scan : Nat → Nat → List (UInt8 × UInt8) → List UInt8 → Option Utf8Fault
  | _, _, [], [] => none
  | _, start, _ :: _, [] => some ⟨start, none⟩
  | position, _, [], b :: rest =>
    match utf8Tail b with
    | some ranges => utf8Scan (position + 1) position ranges rest
    | none => some ⟨position, some 1⟩
  | position, start, (low, high) :: ranges, b :: rest =>
    if low ≤ b ∧ b ≤ high then utf8Scan (position + 1) start ranges rest
    else some ⟨start, some (position - start)⟩

/-- Where bytes stop being UTF-8, if they do. -/
def utf8Fault? (bytes : List UInt8) : Option Utf8Fault := utf8Scan 0 0 [] bytes

/-- The text that bytes encode, if they are UTF-8. -/
def decodeUtf8? (bytes : List UInt8) : Option String :=
  (ByteArray.mk bytes.toArray).utf8Decode?.map fun cs => .ofList cs.toList

end Assay.Text

import Assay.Decimal.Digits
import Assay.Text.Basic

/-!
# Text encodings

Replacement of characters, percent encoding and the base 64 encoding with padding.
-/

namespace Assay.Filter

/-- Replaces characters by texts. -/
def replaceChars (table : List (Char × String)) (s : String) : String :=
  .join (s.toList.map fun c => (table.lookup c).getD c.toString)

/-- What stands for a character in a table row of comma-separated values. -/
def csvEscapes : List (Char × String) := [('"', "\"\"")]

/-- What stands for a character in a row of tab-separated values. -/
def tsvEscapes : List (Char × String) :=
  [('\n', "\\n"), ('\r', "\\r"), ('\t', "\\t"), ('\\', "\\\\")]

/-- What stands for a character in a quoted word of a shell. -/
def shellEscapes : List (Char × String) := [('\'', "'\\''")]

/-- What stands for a character in a hypertext. -/
def htmlEscapes : List (Char × String) :=
  [('<', "&lt;"), ('>', "&gt;"), ('&', "&amp;"), ('\'', "&#39;"), ('"', "&quot;")]

/-- The text with every byte but letters, digits and four marks written as a percent sign
and two hexadecimal digits. -/
def percentEncode (s : String) : String :=
  .ofList (s.toUTF8.toList.flatMap fun b =>
    let c := Char.ofNat b.toNat
    if c.isAlphanum ∨ c = '-' ∨ c = '_' ∨ c = '.' ∨ c = '~' then [c]
    else '%' :: [b.toNat / 16, b.toNat % 16].map fun d => (Decimal.hexChar d).toUpper)

/-! ## Base 64 -/

/-- The digit of a number below 64. -/
def base64Digit (n : Nat) : Char :=
  if n < 26 then Char.ofNat (65 + n)
  else if n < 52 then Char.ofNat (71 + n)
  else if n < 62 then Char.ofNat (n - 4)
  else if n = 62 then '+' else '/'

/-- The number of a digit. -/
def base64Value? (b : UInt8) : Option Nat :=
  let n := b.toNat
  if 65 ≤ n ∧ n ≤ 90 then some (n - 65)
  else if 97 ≤ n ∧ n ≤ 122 then some (n - 71)
  else if 48 ≤ n ∧ n ≤ 57 then some (n + 4)
  else if n = 43 then some 62
  else if n = 47 then some 63
  else none

/-- Three bytes as four digits. -/
def base64Encode : List UInt8 → List Char
  | a :: b :: c :: rest =>
    let n := a.toNat * 65536 + b.toNat * 256 + c.toNat
    [n / 262144, n / 4096 % 64, n / 64 % 64, n % 64].map base64Digit ++ base64Encode rest
  | [a, b] =>
    let n := a.toNat * 256 + b.toNat
    [n / 1024, n / 16 % 64, n * 4 % 64].map base64Digit ++ ['=']
  | [a] => [a.toNat / 4, a.toNat * 16 % 64].map base64Digit ++ ['=', '=']
  | [] => []

/-- Why a text is no base 64 encoding. -/
inductive Base64Fault where
  | symbol (byte : UInt8) (offset : Nat)
  | lastSymbol (byte : UInt8) (offset : Nat)
  | length (n : Nat)
  | padding

/-- The wording of a fault. -/
def Base64Fault.message : Base64Fault → String
  | symbol b i => "Invalid symbol " ++ spell b.toNat ++ ", offset " ++ spell i ++ "."
  | lastSymbol b i => "Invalid last symbol " ++ spell b.toNat ++ ", offset " ++ spell i ++ "."
  | length n => "Invalid input length: " ++ spell n
  | padding => "Invalid padding"
where
  spell (n : Nat) : String := .ofList (Decimal.digits n)

/-- The sign that fills up the last four digits. -/
def base64Fill : UInt8 := 61

/-- The digits before the padding of the last group of at most four, and the padding. -/
def base64Last (start : Nat) :
    Nat → List UInt8 → List (Nat × UInt8) → Option Nat → Nat →
      Except Base64Fault (List (Nat × UInt8) × Nat)
  | _, [], digits, _, fill => .ok (digits.reverse, fill)
  | i, b :: rest, digits, firstFill, fill =>
    if b = base64Fill then
      if i < 2 then .error (.symbol b (start + i))
      else base64Last start (i + 1) rest digits (some (firstFill.getD i)) (fill + 1)
    else match firstFill with
      | some j => .error (.symbol base64Fill (start + j))
      | none =>
        match base64Value? b with
        | none => .error (.symbol b (start + i))
        | some n => base64Last start (i + 1) rest ((n, b) :: digits) none fill

/-- The bytes of the last group. -/
def base64Tail (start : Nat) (bs : List UInt8) :
    Except Base64Fault (List UInt8) := do
  let (digits, fill) ← base64Last start 0 bs [] none 0
  if digits.length < 2 then throw (.length (start + digits.length))
  if (fill + digits.length) % 4 ≠ 0 then throw .padding
  let n := digits.foldl (fun n d => n * 64 + d.1) 0 * Nat.pow 64 (4 - digits.length)
  let count := digits.length * 6 / 8
  if n % Nat.pow 256 (3 - count) ≠ 0 then
    throw (.lastSymbol (digits.getLast?.map Prod.snd |>.getD 0) (start + digits.length - 1))
  return ([n / 65536, n / 256 % 256, n % 256].take count).map UInt8.ofNat

/-- The bytes of groups of four digits, of which the last may be shorter and padded. -/
def base64Groups : Nat → List UInt8 → Except Base64Fault (List UInt8)
  | start, a :: b :: c :: d :: rest =>
    if rest.isEmpty then base64Tail start [a, b, c, d]
    else do
      let w ← digit start a
      let x ← digit (start + 1) b
      let y ← digit (start + 2) c
      let z ← digit (start + 3) d
      let n := ((w * 64 + x) * 64 + y) * 64 + z
      let bytes := [n / 65536, n / 256 % 256, n % 256].map UInt8.ofNat
      return bytes ++ (← base64Groups (start + 4) rest)
  | start, bs => base64Tail start bs
where
  digit (i : Nat) (b : UInt8) : Except Base64Fault Nat :=
    match base64Value? b with
    | some n => .ok n
    | none => .error (.symbol b i)

/-- The bytes of a base 64 encoding. -/
def base64Decode (bs : List UInt8) : Except Base64Fault (List UInt8) :=
  match bs.getLast? with
  | none => .ok []
  | some b =>
    if bs.length % 4 = 1 ∧ b ≠ base64Fill ∧ (base64Value? b).isNone then
      .error (.symbol b (bs.length - 1))
    else base64Groups 0 bs

/-- The wording of a fault in UTF-8. -/
def utf8Message (f : Text.Utf8Fault) : String :=
  let spell (n : Nat) : String := .ofList (Decimal.digits n)
  match f.length with
  | some n =>
    "invalid utf-8 sequence of " ++ spell n ++ " bytes from index " ++ spell f.position
  | none => "incomplete utf-8 byte sequence from index " ++ spell f.position

/-- The text that is encoded in base 64, or what is wrong with it. -/
def decodeBase64Text (s : String) : Except String String :=
  match base64Decode s.toUTF8.toList with
  | .error fault => .error fault.message
  | .ok bytes =>
    match Text.utf8Fault? bytes with
    | some fault => .error (utf8Message fault)
    | none => .ok ((Text.decodeUtf8? bytes).getD "")

end Assay.Filter

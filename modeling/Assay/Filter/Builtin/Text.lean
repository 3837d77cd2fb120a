import Assay.Filter.Builtin.Basic
import Assay.Filter.Encoding
import Assay.Filter.Reading
import Assay.Text.Basic

/-!
# Built-in filters on strings

Characters, cases, trimming, escaping and encoding, and the JSON text of values.
-/

namespace Assay.Filter.Builtin

open Value

/-- Maps a string to a string. -/
def mapText (f : String → String) (v : Value) : Except Error Value := do
  return string (f (← v.asString))

/-- The characters of numbers. -/
def charsOf : List Value → Except Error (List Char)
  | [] => .ok []
  | v :: rest => do
    let i ← v.asInteger
    if 0 ≤ i ∧ Nat.isValidChar i.toNat then
      return Char.ofNat i.toNat :: (← charsOf rest)
    else throw (.ofText ("cannot use " ++ v.text ++ " as character"))

/-- Tests two strings. -/
def test (p : List Char → List Char → Bool) (v w : Value) : Except Error Value := do
  let s ← v.asString
  let t ← w.asString
  return boolean (p s.toList t.toList)

/-- Drops a part of a string if it is there. -/
def strip (there : List Char → List Char → Bool) (drop : Nat → List Char → List Char)
    (v w : Value) : Except Error Value := do
  let s ← v.asString
  let t ← w.asString
  return string (if there t.toList s.toList then .ofList (drop t.length s.toList) else s)

/-- Maps the characters of a string. -/
def mapChars (f : List Char → List Char) : Value → Except Error Value :=
  mapText fun s => .ofList (f s.toList)

/-- The built-in filters on strings. -/
def onTexts : List Builtin :=
  [plain "utf8bytelength" fun v => do return int ((← v.asString).utf8ByteSize : Nat),
   plain "explode" fun v => do
    return array ((← v.asString).toList.map fun c => int (c.toNat : Int)),
   plain "implode" fun v => do return string (.ofList (← charsOf (← v.asArray))),
   plain "ascii_downcase" (mapChars (List.map Char.toLower)),
   plain "ascii_upcase" (mapChars (List.map Char.toUpper)),
   plain "trim" (mapChars fun cs => Text.trimEnd (Text.trimStart cs)),
   plain "ltrim" (mapChars Text.trimStart),
   plain "rtrim" (mapChars Text.trimEnd),
   withOne "startswith" (test fun s t => t.isPrefixOf s),
   withOne "endswith" (test fun s t => t.isSuffixOf s),
   withOne "ltrimstr" (strip List.isPrefixOf fun n cs => cs.drop n),
   withOne "rtrimstr" (strip List.isSuffixOf fun n cs => cs.take (cs.length - n)),
   plain "escape_csv" (mapText (replaceChars csvEscapes)),
   plain "escape_tsv" (mapText (replaceChars tsvEscapes)),
   plain "escape_sh" (mapText (replaceChars shellEscapes)),
   plain "escape_html" (mapText (replaceChars htmlEscapes)),
   plain "encode_uri" (mapText percentEncode),
   plain "encode_base64" (mapText fun s => .ofList (base64Encode s.toUTF8.toList)),
   plain "decode_base64" fun v => do
    match decodeBase64Text (← v.asString) with
    | .ok s => return string s
    | .error message => throw (.ofText message),
   plain "tojson" fun v => .ok (string v.text),
   plain "fromjson" fun v => do
    let s ← v.asString
    match Value.read s with
    | .ok v => return v
    | .error fault => throw (.ofText ("cannot parse " ++ s ++ " as JSON: " ++ fault.message))]

end Assay.Filter.Builtin

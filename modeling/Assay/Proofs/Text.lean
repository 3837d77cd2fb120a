import Assay.Text.Basic
import Mathlib.Data.List.Basic
import Mathlib.Tactic.Common

/-!
# Lines and bytes of texts

A line is cut off in front of a line feed (`lines_append`), and a text is decoded from its bytes
(`decodeUtf8?_utf8Bytes`).
-/

namespace Assay.Text

/-! ## Lines -/

section

variable {line rest : List Char}

theorem dropReturn_append_return (line : List Char) :
  dropReturn (line ++ ['\r']) = line
  := by
  simp [dropReturn]

theorem dropReturn_of_notMem (h : '\r' ∉ line) :
  dropReturn line = line
  := by
  rw [dropReturn]
  split
  next hlast => apply absurd (List.mem_of_getLast? hlast) h
  next => rfl

theorem dropReturn_subset (line : List Char) :
  dropReturn line ⊆ line
  := by
  rw [dropReturn]
  split
  · apply List.dropLast_subset
  · apply List.Subset.refl

/-- A line is cut off in front of a line feed. -/
theorem lines_append (h : '\n' ∉ line) :
  lines (line ++ '\n' :: rest) = dropReturn line :: lines rest
  := by
  obtain ⟨piece, pieces, hpieces⟩ := List.exists_cons_of_ne_nil (List.splitOn_ne_nil '\n' rest)
  rw [lines, List.splitOn_append_cons_self_of_not_mem h, hpieces, linesOfPieces, ← hpieces,
    ← lines]
  apply List.cons_ne_nil

/-- What follows the last line feed is a line unless it is empty. -/
theorem lines_of_notMem (h : '\n' ∉ line) :
  lines line = if line = [] then [] else [line]
  := by
  rw [lines, List.splitOn_eq_singleton h, linesOfPieces]
  simp only [List.isEmpty_iff]

end

/-! ## Bytes -/

/-- The bytes of a text. -/
def utf8Bytes (text : String) : List UInt8 := text.toUTF8.data.toList

/-- A text is decoded from its bytes. -/
theorem decodeUtf8?_utf8Bytes (text : String) :
  decodeUtf8? (utf8Bytes text) = some text
  := by
  have hbytes : ByteArray.mk (utf8Bytes text).toArray = text.toList.utf8Encode :=
    String.utf8Encode_toList.symm
  rw [decodeUtf8?, hbytes, List.utf8Decode?_utf8Encode, Option.map_some, List.toList_toArray,
    String.ofList_toList]

end Assay.Text

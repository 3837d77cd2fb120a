import Assay.Proofs.Json.Compact
import Assay.Proofs.Json.Lookahead
import Assay.Proofs.Schema.Document.Root

/-!
# What follows a document

The text of a schema is read up to the end of its document, and what follows is not looked at.
Hence a text that is read as a schema starts with a document that is read as that schema, and
may go on with anything (`exists_document_of_read`).  The text is a document itself only if
white space is all that follows.
-/

namespace Assay.Schema.Document

open Json (Place Source)
open Json.Reader

variable {α : Type} [Source α]

/-- What stands for a schema is an object or an array. -/
theorem object_or_array_of_schemaOf {j : Json} {schema : Schema} (h : schemaOf j = .ok schema) :
  (∃ members, j = .object members) ∨ ∃ items, j = .array items
  := by
  cases j with
  | object members => exact .inl ⟨members, rfl⟩
  | array items => exact .inr ⟨items, rfl⟩
  | null | boolean | number | string =>
      rw [schemaOf] at h
      · cases h
      all_goals simp

/-- A value that stands for a schema is read in front of any text. -/
theorem exists_of_value {depth : Nat} {j : Json} {schema : Schema} {us rest : List α}
    {p p' : Place} (h : value depth ⟨us, p⟩ = .ok (j, ⟨rest, p'⟩))
    (hschema : schemaOf j = .ok schema) :
  ∃ used, us = used ++ rest ∧
    ∀ rest' q, ∃ q', value depth ⟨used ++ rest', q⟩ = .ok (j, ⟨rest', q'⟩)
  := by
  obtain ⟨members, rfl⟩ | ⟨items, rfl⟩ := object_or_array_of_schemaOf hschema
  · apply exists_of_value_object h
  · apply exists_of_value_array h

/-- A text that is read as a schema starts with a document.  The schema is read from the
document, whatever follows, and the text is a document if only white space follows. -/
theorem exists_document_of_read {text : List α} {schema : Schema} (h : read text = .ok schema) :
  ∃ doc rest, text = doc ++ rest ∧ (∃ j, document.onText doc = .ok j) ∧
    (∀ more, read (doc ++ more) = .ok schema) ∧
    ((∃ j, document.onText text = .ok j) ↔ ∀ u ∈ rest, isSpace (Json.glyph u) = true)
  := by
  obtain ⟨j, ⟨rest, p⟩, hvalue, hnamed, hschema⟩ := read_eq_ok_iff.mp h
  obtain ⟨doc, rfl, hdoc⟩ := exists_of_value hvalue hschema
  use doc, rest, rfl
  and_intros
  · obtain ⟨q, hend⟩ := hdoc [] ⟨1, 0⟩
    rw [List.append_nil] at hend
    exact (exists_document_iff hend).mpr (List.forall_mem_nil _)
  · intro more
    obtain ⟨q, hmore⟩ := hdoc more ⟨1, 0⟩
    apply read_eq_ok_iff.mpr ⟨j, ⟨more, q⟩, hmore, hnamed, hschema⟩
  · exact exists_document_iff hvalue

/-- A document, and a word after it. -/
def stringTrailing : List Char := "\x7b\"type\":\"string\"\x7d trailing".toList

theorem exists_document_stringTrailing :
  read stringTrailing = .ok .string ∧
    ∃ doc rest, stringTrailing = doc ++ rest ∧ (∃ j, document.onText doc = .ok j) ∧
      (∀ more, read (doc ++ more) = .ok .string) ∧
      ((∃ j, document.onText stringTrailing = .ok j) ↔
        ∀ u ∈ rest, isSpace (Json.glyph u) = true)
  := by
  have hread : read stringTrailing = .ok .string := by
    rfl
  exact ⟨hread, exists_document_of_read hread⟩

/-- The word is not a part of the schema, nor of any document. -/
theorem read_stringTrailing :
  read stringTrailing = .ok .string ∧ ¬ ∃ j, document.onText stringTrailing = .ok j
  := by
  have hintegral : (Json.object [("type", .string "string")]).Integral :=
    .object (List.forall_mem_singleton.mpr (.string _))
  have hlevels : (Json.object [("type", .string "string")]).levels ≤ maxDepth := by decide
  have hdoc := ReadsDelimited.value_compactChars hintegral hlevels
  have htext : stringTrailing
      = (Json.object [("type", .string "string")]).compactChars ++ ' ' :: 't' :: "railing".toList := by
    decide +kernel
  have hvalue := hdoc (' ' :: 't' :: "railing".toList) ⟨1, 0⟩ (delimited_cons (by decide) _)
  rw [← htext] at hvalue
  use rfl
  rw [exists_document_iff hvalue]
  intro hspaces
  cases hspaces 't' (List.mem_cons_of_mem _ List.mem_cons_self)

end Assay.Schema.Document

import Assay.Filter.Value
import Assay.Proofs.Json.Induction
import Assay.Proofs.Json.Settled

/-!
# Texts of filter values

A filter writes its results as JSON texts, with numbers outside the signed words as they were
given to it.  The text of what a JSON value is to a filter is the compact text of that value
(`text_ofJson`), whatever its numbers are.
-/

namespace Assay.Filter.Value

/-- A number keeps its digits when it is given to a filter. -/
theorem text_ofNumber (n : Number) :
  (ofNumber n).text = .ofList n.chars
  := by
  cases n with
  | int i =>
      rw [ofNumber]
      split_ifs <;> rw [text, Number.chars]
  | float x => rw [ofNumber, text, Number.chars]

theorem itemsText_cons_cons (v w : Value) (rest : List Value) :
  itemsText (v :: w :: rest) = v.text ++ ("," ++ itemsText (w :: rest))
  := rfl

/-- The items of an array are separated as in compact text. -/
theorem toList_itemsText {items : List Json}
    (h : ∀ v ∈ items, (ofJson v).text.toList = v.compactChars) :
  (itemsText (ofJsonItems items)).toList = Json.compactItems items
  := by
  induction items with
  | nil => rfl
  | cons v rest ih =>
      obtain ⟨hv, hrest⟩ := List.forall_mem_cons.mp h
      have ih := ih hrest
      cases rest with
      | nil => simp [ofJsonItems, itemsText, Json.compactItems, hv]
      | cons w rest =>
          rw [ofJsonItems] at ih
          rw [ofJsonItems, ofJsonItems, itemsText_cons_cons, Json.compactItems]
          · simp [hv, ih]
          · simp

theorem membersText_cons_cons (m n : String × Value) (rest : List (String × Value)) :
  membersText (m :: n :: rest)
    = Json.quote m.1 ++ ":" ++ m.2.text ++ ("," ++ membersText (n :: rest))
  := rfl

/-- The members of an object are separated as in compact text. -/
theorem toList_membersText {members : List (String × Json)}
    (h : ∀ m ∈ members, (ofJson m.2).text.toList = m.2.compactChars) :
  (membersText (ofJsonMembers members)).toList = Json.compactMembers members
  := by
  induction members with
  | nil => rfl
  | cons m rest ih =>
      obtain ⟨hm, hrest⟩ := List.forall_mem_cons.mp h
      have ih := ih hrest
      cases rest with
      | nil => simp [ofJsonMembers, membersText, Json.compactMembers, Json.quote, hm]
      | cons n rest =>
          rw [ofJsonMembers] at ih
          rw [ofJsonMembers, ofJsonMembers, membersText_cons_cons, Json.compactMembers]
          · simp [Json.quote, hm, ih]
          · simp

/-- The text of what a JSON value is to a filter is the compact text of the JSON value. -/
theorem text_ofJson (v : Json) :
  (ofJson v).text = v.compact
  := by
  apply String.toList_injective
  rw [Json.compact, String.toList_ofList]
  induction v using Json.induction with
  | null => rfl
  | boolean b => cases b <;> rfl
  | number n =>
      rw [ofJson, text_ofNumber, String.toList_ofList]
      rfl
  | string s =>
      rw [ofJson, text, Json.quote, String.toList_ofList]
      rfl
  | array items ih =>
      simp [ofJson, text, Json.compactChars, toList_itemsText ih]
  | object members ih =>
      simp [ofJson, text, Json.compactChars, toList_membersText ih]

end Assay.Filter.Value

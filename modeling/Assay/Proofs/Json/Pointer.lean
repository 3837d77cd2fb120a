import Assay.Json.Pointer
import Assay.Proofs.Decimal.Digits
import Mathlib.Data.List.Basic

/-!
# Pointers read back

The spelling of a token has no slash and stands for the token (`slash_notMem_escape`,
`unescape_escape`), so that one more token in front of the text of a pointer is one more
token read (`tokens?_step`).  A position is read back from its digits if it is a word
(`position?_digits`); hence a pointer finds the elements of every array whose positions
are words (`child?_digits`).
-/

namespace Assay

namespace Json

namespace Pointer

/-! ## Tokens -/

theorem slash_notMem_escape (cs : List Char) :
  '/' ∉ cs.flatMap escapeChar
  := by
  intro h
  obtain ⟨c, -, hc⟩ := List.mem_flatMap.mp h
  rw [escapeChar] at hc
  split_ifs at hc with htilde hslash
  · revert hc
    decide
  · revert hc
    decide
  · apply hslash (List.mem_singleton.mp hc).symm

theorem replaceEscape_cons {digit c x : Char} (h : x ≠ '~') (cs : List Char) :
  replaceEscape digit c (x :: cs) = x :: replaceEscape digit c cs
  := by
  rw [replaceEscape.eq_def]
  split
  next heq =>
    cases heq
    apply absurd rfl h
  next heq =>
    cases heq
    rfl
  next heq => cases heq

theorem replaceEscape_tilde {digit c d : Char} (cs : List Char) :
  replaceEscape digit c ('~' :: d :: cs)
    = if d = digit then c :: replaceEscape digit c cs
      else '~' :: replaceEscape digit c (d :: cs)
  := by
  rw [replaceEscape]

/-- Reading `~1` leaves the tildes of a spelling escaped. -/
theorem replaceEscape_slash (cs : List Char) :
  replaceEscape '1' '/' (cs.flatMap escapeChar)
    = cs.flatMap fun c => if c = '~' then ['~', '0'] else [c]
  := by
  induction cs with
  | nil => rfl
  | cons c cs ih =>
      rw [List.flatMap_cons, List.flatMap_cons, escapeChar]
      split_ifs with htilde hslash
      · rw [List.cons_append, List.singleton_append, replaceEscape_tilde, if_neg (by decide),
          replaceEscape_cons (by decide), ih]
        rfl
      · rw [List.cons_append, List.singleton_append, replaceEscape_tilde, if_pos rfl, ih, hslash]
        rfl
      · rw [List.singleton_append, replaceEscape_cons htilde, ih]
        rfl

/-- Reading `~0` restores the tildes. -/
theorem replaceEscape_tildes (cs : List Char) :
  replaceEscape '0' '~' (cs.flatMap fun c => if c = '~' then ['~', '0'] else [c]) = cs
  := by
  induction cs with
  | nil => rfl
  | cons c cs ih =>
      rw [List.flatMap_cons]
      split_ifs with htilde
      · rw [List.cons_append, List.singleton_append, replaceEscape_tilde, if_pos rfl, ih, htilde]
      · rw [List.singleton_append, replaceEscape_cons htilde, ih]

/-- The spelling of a token stands for the token. -/
theorem unescape_escape (cs : List Char) :
  unescape (cs.flatMap escapeChar) = String.ofList cs
  := by
  rw [unescape, replaceEscape_slash, replaceEscape_tildes]

/-- The text of a pointer with one more token in front. -/
theorem tokens?_step (token : String) {text : String} {tokens : List String}
    (h : tokens? text = some tokens) :
  tokens? ("/" ++ escape token ++ text) = some (token :: tokens)
  := by
  have htext : ("/" ++ escape token ++ text).toList
      = '/' :: (token.toList.flatMap escapeChar ++ text.toList) := by
    simp [escape]
  have hslash := slash_notMem_escape token.toList
  rw [tokens?] at h
  rw [tokens?, htext]
  split at h
  next hnil =>
    cases h
    rw [hnil, List.append_nil]
    show some (((token.toList.flatMap escapeChar).splitOn '/').map unescape) = _
    rw [List.splitOn_eq_singleton hslash, List.map_singleton, unescape_escape,
      String.ofList_toList]
  next rest hrest =>
    cases h
    rw [hrest]
    show some (((token.toList.flatMap escapeChar ++ '/' :: rest).splitOn '/').map unescape) = _
    rw [List.splitOn_append_cons_self_of_not_mem hslash, List.map_cons, unescape_escape,
      String.ofList_toList]
  next => cases h

/-- The digits of a position are the spelling of their token. -/
theorem escape_digits (i : Nat) :
  escape (String.ofList (Decimal.digits i)) = String.ofList (Decimal.digits i)
  := by
  have hchar : ∀ c ∈ Decimal.digits i, escapeChar c = [c] := by
    intro c hc
    have hdigit := Decimal.isDigit_of_mem_digits hc
    rw [escapeChar, if_neg, if_neg]
    · rintro rfl
      cases hdigit
    · rintro rfl
      cases hdigit
  rw [escape, String.toList_ofList, List.flatMap_congr hchar, List.flatMap_singleton']

/-- A position is read back from its digits if it is a word. -/
theorem position?_digits (i : Nat) :
  position? (String.ofList (Decimal.digits i)) = if i < Word.count then some i else none
  := by
  have hall : (Decimal.digits i).all Char.isDigit = true :=
    List.all_eq_true.mpr fun _ => Decimal.isDigit_of_mem_digits
  have hhead : (Decimal.digits i).head? = some '0' → (Decimal.digits i).length = 1 := by
    intro h
    rw [Decimal.eq_zero_of_head?_digits h, Decimal.digits_of_lt (by decide)]
    rfl
  rw [position?, String.toList_ofList]
  split
  next hnil => exact absurd hnil (Decimal.digits_ne_nil i)
  next => simp only [hall, Decimal.value_digits, and_iff_right hhead, true_and]

end Pointer

/-! ## Parts -/

/-- The digits of an index select what stands there, if the positions of the array are
words. -/
theorem child?_digits {items : List Json} (h : items.length ≤ Word.count) (i : Nat) :
  child? (String.ofList (Decimal.digits i)) (.array items) = items[i]?
  := by
  rw [child?, Pointer.position?_digits]
  split_ifs with hi
  · rfl
  · rw [List.getElem?_eq_none (by omega)]
    rfl

theorem pointer?_eq_descend? {text : String} {tokens : List String}
    (h : Pointer.tokens? text = some tokens) (v : Json) :
  pointer? text v = descend? tokens v
  := by
  rw [pointer?, h]
  rfl

theorem exists_tokens?_of_pointer? {text : String} {v w : Json} (h : pointer? text v = some w) :
  ∃ tokens, Pointer.tokens? text = some tokens
  := by
  obtain ⟨tokens, htokens, -⟩ := Option.bind_eq_some_iff.mp h
  exact ⟨tokens, htokens⟩

theorem descend?_cons {token : String} {v w : Json} (h : child? token v = some w)
    (tokens : List String) :
  descend? (token :: tokens) v = descend? tokens w
  := by
  rw [descend?, h]
  rfl

/-- One more token in front of the text of a pointer selects from the part that the token
selects. -/
theorem pointer?_step {token text : String} {tokens : List String} {v w : Json}
    (htext : Pointer.tokens? text = some tokens) (hchild : child? token v = some w) :
  pointer? ("/" ++ Pointer.escape token ++ text) v = pointer? text w
  := by
  rw [pointer?_eq_descend? (Pointer.tokens?_step token htext), descend?_cons hchild,
    pointer?_eq_descend? htext]

end Json

end Assay

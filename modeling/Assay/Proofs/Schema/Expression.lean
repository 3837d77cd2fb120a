import Assay.Proofs.Decimal.Digits
import Assay.Proofs.Json.Reading
import Assay.Proofs.Schema.Induction
import Assay.Schema.Expression

/-!
# Reading expressions

A schema can be told from its expression (`expression_inj`).  An expression, and each part of
one, shows where it ends: a text that starts with what is written for one schema starts with
what is written for no other (`SplitsOff`).  This holds of keys, because quoted strings can be
read back, of indices, because a comma follows them, and of lists, because a bracket does.
-/

namespace Assay

/-! ## Texts that show where they end -/

/-- A text that starts with what is written for `x` starts with what is written for nothing
else. -/
def SplitsOff {α : Type} (f : α → List Char) (x : α) : Prop :=
  ∀ y rest rest', f x ++ rest = f y ++ rest' → x = y ∧ rest = rest'

namespace SplitsOff

variable {α β : Type} {f : α → List Char} {g : β → List Char} {x : α}

/-- What a reader tells apart splits off. -/
theorem of_reads {r : Json.Reader Char β} {value : α → β} (hvalue : Function.Injective value)
    (h : ∀ x, Json.Reader.Reads r (f x) (value x)) (x : α) :
  SplitsOff f x
  := by
  intro y rest rest' heq
  have hx := h x rest ⟨1, 0⟩
  rw [heq, h y rest' ⟨1, 0⟩, Except.ok.injEq, Prod.mk.injEq, Json.Cursor.mk.injEq] at hx
  use hvalue hx.1.symm, hx.2.1.symm

theorem opened (h : SplitsOff f x) (us : List Char) :
  SplitsOff (fun x => us ++ f x) x
  := by
  intro y rest rest' heq
  rw [List.append_assoc, List.append_assoc] at heq
  apply h y rest rest' (List.append_cancel_left heq)

theorem closed (h : SplitsOff f x) (us : List Char) :
  SplitsOff (fun x => f x ++ us) x
  := by
  intro y rest rest' heq
  rw [List.append_assoc, List.append_assoc] at heq
  obtain ⟨hxy, heq⟩ := h y _ _ heq
  use hxy, List.append_cancel_left heq

theorem pair {y : β} (hx : SplitsOff f x) (hy : SplitsOff g y) :
  SplitsOff (fun p : α × β => f p.1 ++ g p.2) (x, y)
  := by
  rintro ⟨x', y'⟩ rest rest' heq
  rw [List.append_assoc, List.append_assoc] at heq
  obtain ⟨rfl, heq⟩ := hx x' _ _ heq
  obtain ⟨rfl, heq⟩ := hy y' _ _ heq
  use rfl

/-- What can be told from a part that splits off splits off. -/
theorem comp {part : β → α} (hpart : Function.Injective part) {y : β}
    (h : SplitsOff f (part y)) :
  SplitsOff (fun y => f (part y)) y
  := by
  intro z rest rest' heq
  obtain ⟨hyz, heq⟩ := h (part z) rest rest' heq
  use hpart hyz, heq

/-- If what is written for everything splits off, nothing else is written alike. -/
theorem injective (h : ∀ x, SplitsOff f x) :
  Function.Injective f
  := by
  intro x y hxy
  apply (h x y [] [] (congrArg (· ++ []) hxy)).1

end SplitsOff

/-! ## Keys, indices and lists -/

theorem splitsOff_quoteChars (key : String) :
  SplitsOff (fun key : String => Json.quoteChars key.toList) key
  := by
  have hread : ∀ key : String, Json.Reader.Reads (Json.Reader.value 0)
      (Json.quoteChars key.toList) (.string key) := by
    intro key
    have hread := Json.Reader.Reads.value_quoteChars 0 key.toList
    rw [String.ofList_toList] at hread
    exact hread
  apply SplitsOff.of_reads (fun _ _ => Json.string.inj) hread

/-- Digits end where a comma follows. -/
theorem takeWhile_isDigit_digits (n : Nat) (rest : List Char) :
  (Decimal.digits n ++ (Schema.comma ++ rest)).takeWhile Char.isDigit = Decimal.digits n
  := by
  have hcomma : (Schema.comma ++ rest).takeWhile Char.isDigit = [] := rfl
  rw [List.takeWhile_append_of_pos fun c => Decimal.isDigit_of_mem_digits, hcomma,
    List.append_nil]

/-- Digits split off with the comma after them. -/
theorem splitsOff_digits (us : List Char) (n : Nat) :
  SplitsOff (fun n => us ++ Decimal.digits n ++ Schema.comma) n
  := by
  intro m rest rest' heq
  rw [List.append_assoc, List.append_assoc, List.append_assoc, List.append_assoc] at heq
  have heq := List.append_cancel_left heq
  have hnm : n = m := by
    rw [← Decimal.value_digits n, ← takeWhile_isDigit_digits n rest, heq,
      takeWhile_isDigit_digits, Decimal.value_digits]
  subst hnm
  use rfl, List.append_cancel_left (List.append_cancel_left heq)

section

variable {α : Type} {f : α → List Char}

/-- What is written for a list, up to the closing bracket. -/
def listChars (f : α → List Char) (xs : List α) : List Char :=
  Schema.comma.intercalate (xs.map f) ++ [']']

/-- What is written for a list after an item. -/
def moreChars (f : α → List Char) : List α → List Char
  | [] => [']']
  | x :: rest => Schema.comma ++ listChars f (x :: rest)

theorem listChars_cons (x : α) (xs : List α) :
  listChars f (x :: xs) = f x ++ moreChars f xs
  := by
  cases xs with
  | nil => rw [listChars, List.map_cons, List.map_nil, List.intercalate_singleton, moreChars]
  | cons y ys =>
      rw [listChars, List.map_cons, List.map_cons, List.intercalate_cons_cons, moreChars,
        listChars, List.map_cons, List.append_assoc, List.append_assoc]

/-- What is written item by item, with commas in between, is written for a list. -/
theorem listChars_of_cons {write : List α → List Char} (nil : write [] = [])
    (singleton : ∀ x, write [x] = f x)
    (cons : ∀ x y rest, write (x :: y :: rest) = f x ++ (Schema.comma ++ write (y :: rest)))
    (xs : List α) :
  write xs ++ [']'] = listChars f xs
  := by
  induction xs with
  | nil => rw [nil, listChars, List.map_nil, List.intercalate_nil]
  | cons x rest ih =>
      rw [listChars_cons]
      cases rest with
      | nil => rw [singleton, moreChars]
      | cons y rest => rw [cons, moreChars, ← ih, List.append_assoc, List.append_assoc]

theorem splitsOff_moreChars {xs : List α} (h : SplitsOff (listChars f) xs) :
  SplitsOff (moreChars f) xs
  := by
  intro ys rest rest' heq
  cases xs with
  | nil =>
      cases ys with
      | nil => use rfl, (List.cons.inj heq).2
      | cons y ys => cases (List.cons.inj heq).1
  | cons x xs =>
      cases ys with
      | nil => cases (List.cons.inj heq).1
      | cons y ys =>
          rw [moreChars, moreChars, List.append_assoc, List.append_assoc] at heq
          apply h (y :: ys) _ _ (List.append_cancel_left heq)

/-- A list splits off if its items do and do not look like the end of a list. -/
theorem splitsOff_listChars (hstart : ∀ x, ∃ c cs, f x = c :: cs ∧ c ≠ ']') {xs : List α}
    (h : ∀ x ∈ xs, SplitsOff f x) :
  SplitsOff (listChars f) xs
  := by
  have hend : ∀ x xs rest rest', ']' :: rest ≠ listChars f (x :: xs) ++ rest' := by
    intro x xs rest rest' heq
    obtain ⟨c, cs, hcs, hc⟩ := hstart x
    rw [listChars_cons, hcs] at heq
    apply hc (List.cons.inj heq).1.symm
  induction xs with
  | nil =>
      intro ys rest rest' heq
      cases ys with
      | nil => use rfl, (List.cons.inj heq).2
      | cons y ys => cases hend y ys rest rest' heq
  | cons x xs ih =>
      obtain ⟨hx, hxs⟩ := List.forall_mem_cons.mp h
      intro ys rest rest' heq
      cases ys with
      | nil => cases hend x xs rest' rest heq.symm
      | cons y ys =>
          rw [listChars_cons, listChars_cons, List.append_assoc, List.append_assoc] at heq
          obtain ⟨rfl, hmore⟩ := hx y _ _ heq
          obtain ⟨rfl, hrest⟩ := splitsOff_moreChars (ih hxs) ys _ _ hmore
          use rfl, hrest

end

namespace Schema

/-! ## Expressions -/

/-- What is written for an entry. -/
def entryChars (e : Entry Schema) : List Char :=
  "index(".toList ++ Decimal.digits e.index ++ comma ++ expressionChars e.schema ++ [')']

/-- What is written in front of the key of a property. -/
def presenceChars : Presence → List Char
  | .required => "property(".toList
  | .optional => "optional_property(".toList

/-- What is written for a property. -/
def propertyChars (p : Property Schema) : List Char :=
  presenceChars p.presence ++ Json.quoteChars p.key.toList ++ comma
    ++ expressionChars p.schema ++ [')']

/-- The bracket after a list stands in front of the parenthesis after an expression. -/
theorem append_closing (us vs : List Char) :
  us ++ vs ++ [']', ')'] = us ++ (vs ++ [']']) ++ [')']
  := by
  rw [List.append_assoc, List.append_assoc, List.append_assoc]
  rfl

theorem expressionChars_indexed (entries : List (Entry Schema)) :
  expressionChars (indexed entries) = "array([".toList ++ listChars entryChars entries ++ [')']
  := by
  have hlist : entriesChars entries ++ [']'] = listChars entryChars entries := by
    apply listChars_of_cons rfl
    · intro e
      apply List.append_nil (entryChars e)
    · intro e f rest
      rfl
  rw [← hlist]
  apply append_closing

theorem expressionChars_object (properties : List (Property Schema)) :
  expressionChars (object properties)
    = "object([".toList ++ listChars propertyChars properties ++ [')']
  := by
  have hlist : propertiesChars properties ++ [']'] = listChars propertyChars properties := by
    apply listChars_of_cons rfl
    · intro p
      apply List.append_nil (propertyChars p)
    · intro p q rest
      rfl
  rw [← hlist]
  apply append_closing

theorem expressionChars_oneOf (alternatives : List Schema) :
  expressionChars (oneOf alternatives)
    = "one_of([".toList ++ listChars expressionChars alternatives ++ [')']
  := by
  have hlist : alternativesChars alternatives ++ [']']
      = listChars expressionChars alternatives := by
    apply listChars_of_cons rfl
    · intro s
      apply List.append_nil (expressionChars s)
    · intro s t rest
      rfl
  rw [← hlist]
  apply append_closing

/-! ## Clauses -/

theorem entryChars_eq_cons (e : Entry Schema) :
  ∃ c cs, entryChars e = c :: cs ∧ c ≠ ']'
  := ⟨_, _, rfl, by decide⟩

theorem propertyChars_eq_cons (p : Property Schema) :
  ∃ c cs, propertyChars p = c :: cs ∧ c ≠ ']'
  := by
  obtain ⟨presence, key, schema⟩ := p
  cases presence <;> exact ⟨_, _, rfl, by decide⟩

theorem splitsOff_presenceChars (presence : Presence) :
  SplitsOff presenceChars presence
  := by
  intro presence' rest rest' heq
  cases presence with
  | required =>
      cases presence' with
      | required => use rfl, List.append_cancel_left heq
      | optional => cases (List.cons.inj heq).1
  | optional =>
      cases presence' with
      | required => cases (List.cons.inj heq).1
      | optional => use rfl, List.append_cancel_left heq

theorem splitsOff_entryChars {e : Entry Schema} (h : SplitsOff expressionChars e.schema) :
  SplitsOff entryChars e
  := by
  have hparts : Function.Injective fun e : Entry Schema => (e.index, e.schema) := by
    rintro ⟨i, s⟩ ⟨j, t⟩ ⟨⟩
    rfl
  have hindex := splitsOff_digits "index(".toList e.index
  exact ((hindex.pair h).comp hparts).closed [')']

theorem splitsOff_propertyChars {p : Property Schema}
    (h : SplitsOff expressionChars p.schema) :
  SplitsOff propertyChars p
  := by
  have hparts : Function.Injective
      fun p : Property Schema => ((p.presence, p.key), p.schema) := by
    rintro ⟨_, _, _⟩ ⟨_, _, _⟩ ⟨⟩
    rfl
  have hkey := ((splitsOff_presenceChars p.presence).pair (splitsOff_quoteChars p.key)).closed
    comma
  exact ((hkey.pair h).comp hparts).closed [')']

/-! ## Schemas -/

/-- The characters by which the kinds of expressions are told apart, but for the two kinds of
arrays. -/
def headChars : Schema → List Char
  | string => ['s', 't', 'r']
  | number => ['n', 'u', 'm']
  | boolean => ['b', 'o', 'o']
  | null => ['n', 'u', 'l']
  | array _ | indexed _ => ['a', 'r', 'r']
  | object _ => ['o', 'b', 'j']
  | oneOf _ => ['o', 'n', 'e']

theorem take_expressionChars (s : Schema) (rest : List Char) :
  (expressionChars s ++ rest).take 3 = headChars s
  := by
  cases s <;> rfl

theorem headChars_eq {s t : Schema} {rest rest' : List Char}
    (h : expressionChars s ++ rest = expressionChars t ++ rest') :
  headChars s = headChars t
  := by
  rw [← take_expressionChars s rest, h, take_expressionChars]

/-- An expression starts with a letter. -/
theorem expressionChars_eq_cons (s : Schema) :
  ∃ c cs, expressionChars s = c :: cs ∧ c ≠ '[' ∧ c ≠ ']'
  := by
  cases s <;> exact ⟨_, _, rfl, by decide, by decide⟩

/-- An array with every element as told starts with a letter where the other one has a
bracket. -/
theorem array_ne_indexed {item : Schema} {entries : List (Entry Schema)}
    {rest rest' : List Char} :
  expressionChars (array item) ++ rest ≠ expressionChars (indexed entries) ++ rest'
  := by
  intro h
  obtain ⟨c, cs, hcs, hc, -⟩ := expressionChars_eq_cons item
  have harray : expressionChars (array item) = "array(".toList ++ c :: (cs ++ [')']) := by
    rw [← List.cons_append, ← hcs]
    rfl
  have hindexed : expressionChars (indexed entries)
      = "array(".toList ++ '[' :: (entriesChars entries ++ [']', ')']) := rfl
  rw [harray, hindexed, List.append_assoc, List.append_assoc] at h
  apply hc (List.cons.inj (List.append_cancel_left h)).1

theorem splitsOff_expressionChars (s : Schema) :
  SplitsOff expressionChars s
  := by
  induction s using induction with
  | scalar s kind hkind =>
      intro t rest rest' h
      have hhead := headChars_eq h
      have hst : s = t := by
        cases s with
        | array | indexed | object | oneOf => cases hkind
        | string | number | boolean | null =>
            cases t <;> first | rfl | simp [headChars] at hhead
      subst hst
      use rfl, List.append_cancel_left h
  | array item ih =>
      intro t rest rest' h
      have hhead := headChars_eq h
      cases t with
      | array item' =>
          obtain ⟨rfl, hrest⟩ := (ih.opened "array(".toList).closed [')'] item' _ _ h
          use rfl, hrest
      | indexed => cases array_ne_indexed h
      | _ => simp [headChars] at hhead
  | indexed entries ih =>
      have hlist : SplitsOff (listChars entryChars) entries := by
        apply splitsOff_listChars entryChars_eq_cons
        intro e he
        apply splitsOff_entryChars (ih e he)
      intro t rest rest' h
      have hhead := headChars_eq h
      cases t with
      | array => cases array_ne_indexed h.symm
      | indexed entries' =>
          rw [expressionChars_indexed, expressionChars_indexed] at h
          obtain ⟨rfl, hrest⟩ := (hlist.opened "array([".toList).closed [')'] entries' _ _ h
          use rfl, hrest
      | _ => simp [headChars] at hhead
  | object properties ih =>
      have hlist : SplitsOff (listChars propertyChars) properties := by
        apply splitsOff_listChars propertyChars_eq_cons
        intro p hp
        apply splitsOff_propertyChars (ih p hp)
      intro t rest rest' h
      have hhead := headChars_eq h
      cases t with
      | object properties' =>
          rw [expressionChars_object, expressionChars_object] at h
          obtain ⟨rfl, hrest⟩ := (hlist.opened "object([".toList).closed [')'] properties' _ _ h
          use rfl, hrest
      | _ => simp [headChars] at hhead
  | oneOf alternatives ih =>
      have hlist : SplitsOff (listChars expressionChars) alternatives := by
        apply splitsOff_listChars _ ih
        intro s
        obtain ⟨c, cs, hcs, -, hc⟩ := expressionChars_eq_cons s
        use c, cs, hcs, hc
      intro t rest rest' h
      have hhead := headChars_eq h
      cases t with
      | oneOf alternatives' =>
          rw [expressionChars_oneOf, expressionChars_oneOf] at h
          obtain ⟨rfl, hrest⟩ :=
            (hlist.opened "one_of([".toList).closed [')'] alternatives' _ _ h
          use rfl, hrest
      | _ => simp [headChars] at hhead

/-- Two schemas with the same expression are the same. -/
theorem expression_inj {s t : Schema} :
  s.expression = t.expression ↔ s = t
  := by
  constructor
  · intro h
    apply SplitsOff.injective splitsOff_expressionChars (String.ofList_injective h)
  · rintro rfl
    rfl

end Schema

end Assay

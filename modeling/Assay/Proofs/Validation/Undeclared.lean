import Assay.Proofs.Validation.Conformance
import Assay.Proofs.Validation.Lookalike
import Mathlib.Data.List.Perm.Basic
import Mathlib.Logic.Relation

/-!
# Undeclared members

What a schema does not ask for decides nothing.  An `Edit` changes one object somewhere in a
value: it puts the members into another order, or adds or removes a member of a key that is not
declared.  One edit leaves a validation as it is but for the texts in rejections
(`validate_edit`), and therefore so does any series of edits (`validate_edited`).
-/

namespace Assay

namespace Json

/-- One edit of an object at some depth of a value. -/
inductive Edit (declared : String → Prop) : Json → Json → Prop where
  /-- The members of an object, which have different names, are put into another order. -/
  | reorder {members members' : List (String × Json)} (names : (members.map Prod.fst).Nodup)
    (perm : members.Perm members') : Edit declared (.object members) (.object members')
  | add {name : String} (undeclared : ¬ declared name) (v : Json)
    (before after : List (String × Json)) :
    Edit declared (.object (before ++ after)) (.object (before ++ (name, v) :: after))
  | remove {name : String} (undeclared : ¬ declared name) (v : Json)
    (before after : List (String × Json)) :
    Edit declared (.object (before ++ (name, v) :: after)) (.object (before ++ after))
  | element {v w : Json} (edit : Edit declared v w) (before after : List Json) :
    Edit declared (.array (before ++ v :: after)) (.array (before ++ w :: after))
  | member {v w : Json} (edit : Edit declared v w) (name : String)
    (before after : List (String × Json)) :
    Edit declared (.object (before ++ (name, v) :: after)) (.object (before ++ (name, w) :: after))

/-! ## Looking up -/

/-- Of members of different names, each is found by its name. -/
theorem lookup_eq_some_iff {members : List (String × Json)}
    (h : (members.map Prod.fst).Nodup) {k : String} {v : Json} :
  members.lookup k = some v ↔ (k, v) ∈ members
  := by
  induction members with
  | nil => simp
  | cons m rest ih =>
      obtain ⟨l, w⟩ := m
      obtain ⟨hl, hrest⟩ := List.nodup_cons.mp h
      rw [List.lookup_cons, List.mem_cons]
      split
      next hk =>
        obtain rfl : k = l := eq_of_beq hk
        have habsent : (k, v) ∉ rest := fun hv => hl (List.mem_map.mpr ⟨_, hv, rfl⟩)
        simp [habsent, eq_comm]
      next hk =>
        rw [ih hrest]
        simp [ne_of_beq_false hk]

/-- The order of members of different names does not matter. -/
theorem lookup_perm {members members' : List (String × Json)}
    (hnames : (members.map Prod.fst).Nodup) (hperm : members.Perm members') (k : String) :
  members.lookup k = members'.lookup k
  := by
  have hnames' := (hperm.map Prod.fst).nodup_iff.mp hnames
  apply Option.ext
  intro v
  rw [lookup_eq_some_iff hnames, lookup_eq_some_iff hnames', hperm.mem_iff]

end Json

namespace Schema

open Json (Edit)

variable {declared : String → Prop} {schema : Schema} {limit : Nat} {v w : Json}

/-- A value and what one edit makes of it, or the value itself, look alike. -/
theorem lookalike_edit :
  Lookalike declared (fun _ => "") fun v w => v = w ∨ Edit declared v w
  where
  kind := by
    rintro v w (rfl | h)
    · rfl
    · cases h <;> rfl
  text := fun _ => rfl
  elements := by
    rintro items items' h
    have hrefl : ∀ items : List Json,
        List.Forall₂ (fun v w => v = w ∨ Edit declared v w) items items :=
      fun items => List.forall₂_same.mpr fun v _ => .inl rfl
    obtain ⟨⟨⟩⟩ | h := h
    · apply hrefl
    · cases h with
      | element edit before after =>
          apply List.rel_append (hrefl before) (.cons (.inr edit) (hrefl after))
  members := by
    rintro members members' h k hk
    have hrefl : ∀ v : Option Json, Option.Rel (fun v w => v = w ∨ Edit declared v w) v v := by
      rintro (_ | v)
      · apply Option.Rel.none
      · apply Option.Rel.some (.inl rfl)
    obtain ⟨⟨⟩⟩ | h := h
    · apply hrefl
    · cases h with
      | reorder names perm =>
          rw [Json.lookup_perm names perm]
          apply hrefl
      | @add name undeclared v before after =>
          have hne : (k == name) = false := beq_false_of_ne fun h => undeclared (h ▸ hk)
          rw [List.lookup_append, List.lookup_append, List.lookup_cons, hne]
          apply hrefl
      | @remove name undeclared v before after =>
          have hne : (k == name) = false := beq_false_of_ne fun h => undeclared (h ▸ hk)
          rw [List.lookup_append, List.lookup_append, List.lookup_cons, hne]
          apply hrefl
      | member edit name before after =>
          rw [List.lookup_append, List.lookup_append, List.lookup_cons, List.lookup_cons]
          cases before.lookup k with
          | some => apply hrefl
          | none =>
              cases k == name with
              | true => apply Option.Rel.some (.inr edit)
              | false => apply hrefl

/-- One edit leaves a validation as it is but for the texts. -/
theorem validate_edit (h : Edit (· ∈ schema.keys) v w) :
  (schema.validate limit v).mapError Rejection.outline
    = (schema.validate limit w).mapError Rejection.outline
  := examine_lookalike lookalike_edit (fun _ hk => hk) (.some (.inr h))

/-- A series of edits leaves a validation as it is but for the texts. -/
theorem validate_edits (h : Relation.ReflTransGen (Edit (· ∈ schema.keys)) v w) :
  (schema.validate limit v).mapError Rejection.outline
    = (schema.validate limit w).mapError Rejection.outline
  := by
  induction h with
  | refl => rfl
  | tail _ edit ih => rw [ih, validate_edit edit]

/-- Members that no property asks for and the order of members do not decide whether a value is
admitted, nor the category, the path and the steps of a rejection. -/
theorem validate_edited (h : Relation.ReflTransGen (Edit (· ∈ schema.keys)) v w) (limit : Nat) :
  schema.admits limit v = schema.admits limit w ∧
    ∀ e e', schema.validate limit v = .error e → schema.validate limit w = .error e' →
      e.category = e'.category ∧ e.path = e'.path ∧ e.outline = e'.outline
  := by
  have hsame := @validate_edits schema limit v w h
  constructor
  · rw [Bool.eq_iff_iff, admits_eq_true_iff, admits_eq_true_iff,
      ← mapError_eq_ok_iff, hsame, mapError_eq_ok_iff]
  · intro e e' he he'
    rw [he, he'] at hsame
    have houtline : e.outline = e'.outline := Except.error.inj hsame
    and_intros
    · rw [← Rejection.category_mapTexts e, ← Rejection.category_mapTexts e']
      exact congrArg Rejection.category houtline
    · rw [← Rejection.path_mapTexts e, ← Rejection.path_mapTexts e']
      exact congrArg Rejection.path houtline
    · exact houtline

/-- A list of objects with a number each. -/
def listing : Schema := .object [⟨.required, "a", .array (.object [⟨.required, "id", .number⟩])⟩]

/-- What `listing` rejects, with the member at fault in front of an undeclared one. -/
def listed : Json :=
  .object [("a", .array [.object [("id", .string "2"), ("t", .null)]]), ("x", .boolean true)]

/-- The same, with the members of the element in another order, `z` added to them and `x`
removed. -/
def relisted : Json :=
  .object [("a", .array [.object [("z", .array []), ("t", .null), ("id", .string "2")]])]

/-- Edits of an element and of the whole value leave the rejection at its place. -/
theorem validate_edited_listed :
  Relation.ReflTransGen (Edit (· ∈ listing.keys)) listed relisted ∧
    listing.admits 4 listed = listing.admits 4 relisted ∧
    ∀ e e', listing.validate 4 listed = .error e → listing.validate 4 relisted = .error e' →
      e.category = e'.category ∧ e.path = e'.path ∧ e.outline = e'.outline
  := by
  have hinside : ∀ {v w}, Edit (· ∈ listing.keys) v w → Edit (· ∈ listing.keys)
      (.object [("a", .array [v]), ("x", .boolean true)])
      (.object [("a", .array [w]), ("x", .boolean true)]) :=
    fun edit => .member (.element edit [] []) "a" [] _
  have hreorder : Edit (· ∈ listing.keys) (.object [("id", .string "2"), ("t", .null)])
      (.object [("t", .null), ("id", .string "2")]) :=
    .reorder (by decide) (.swap _ _ [])
  have hadd : Edit (· ∈ listing.keys) (.object [("t", .null), ("id", .string "2")])
      (.object [("z", .array []), ("t", .null), ("id", .string "2")]) :=
    .add (by decide) _ [] _
  have hremove : Edit (· ∈ listing.keys)
      (.object [("a", .array [.object [("z", .array []), ("t", .null), ("id", .string "2")]]),
        ("x", .boolean true)])
      relisted :=
    .remove (by decide) _ [_] []
  have hedits : Relation.ReflTransGen (Edit (· ∈ listing.keys)) listed relisted :=
    ((Relation.ReflTransGen.single (hinside hreorder)).tail (hinside hadd)).tail hremove
  use hedits, (validate_edited hedits 4).1, (validate_edited hedits 4).2

end Schema

end Assay

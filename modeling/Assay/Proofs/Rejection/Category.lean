import Assay.Proofs.Rejection.Induction
import Assay.Proofs.Rejection.Path
import Mathlib.Data.List.Perm.Basic
import Mathlib.Logic.Relation

/-!
# The category of a rejection

That a schema is too deep decides the category of whatever encloses it: a rejection is too deep
exactly if one that it is put together from is (`category_eq_tooDeep_iff_causes`), and therefore
exactly if that is said anywhere in it (`category_eq_tooDeep_iff`).  All other rejections are of
the category of their reason, and a union is of its own, whatever its alternatives are.

`Reorders` puts the alternatives of one union somewhere in a rejection into another order.  This
keeps the category (`Reorders.category_eq`), and so does any series of reorderings.
-/

namespace Assay.Rejection

/-! ## Rejections that are too deep -/

theorem anyTooDeep_eq_true_iff {causes : List Rejection} :
  anyTooDeep causes = true ↔ ∃ c ∈ causes, c.category = .tooDeep
  := by
  induction causes with
  | nil => simp [anyTooDeep]
  | cons c rest ih => simp [anyTooDeep, ih]

/-- A union is too deep exactly if the rejection of one of its alternatives is. -/
theorem category_noAlternative_eq_tooDeep_iff {causes : List Rejection} :
  (noAlternative causes).category = .tooDeep ↔ ∃ c ∈ causes, c.category = .tooDeep
  := by
  rw [category, ← anyTooDeep_eq_true_iff]
  cases anyTooDeep causes <;> simp

/-- A rejection is too deep if it says so itself, or if one that it is put together from is. -/
theorem category_eq_tooDeep_iff_causes {e : Rejection} :
  e.category = .tooDeep ↔ (∃ limit, e = .tooDeep limit) ∨ ∃ c ∈ e.causes, c.category = .tooDeep
  := by
  cases e with
  | typeMismatch | missingProperty => simp [category, causes]
  | inProperty | inOptionalProperty | atIndex => simp [category, causes]
  | noAlternative alternatives => simp [category_noAlternative_eq_tooDeep_iff, causes]
  | tooDeep => simp [category]

/-- What encloses a rejection that is too deep is too deep. -/
theorem Encloses.category_eq_tooDeep {e part : Rejection} {n : Nat} (h : e.Encloses n part)
    (hpart : part.category = .tooDeep) :
  e.category = .tooDeep
  := by
  induction h with
  | whole => exact hpart
  | cause mem inner ih => exact category_eq_tooDeep_iff_causes.mpr (.inr ⟨_, mem, ih hpart⟩)

/-- A rejection is too deep exactly if that is said anywhere in it. -/
theorem category_eq_tooDeep_iff {e : Rejection} :
  e.category = .tooDeep ↔ ∃ n limit, e.Encloses n (.tooDeep limit)
  := by
  constructor
  -- Of what a rejection is put together from, one is too deep; it is followed down.
  · induction e using causes_induction with
    | step e ih =>
        intro h
        obtain ⟨limit, rfl⟩ | ⟨c, hc, hcategory⟩ := category_eq_tooDeep_iff_causes.mp h
        · exact ⟨0, limit, .whole⟩
        · obtain ⟨n, limit, hpart⟩ := ih c hc hcategory
          exact ⟨n + 1, limit, .cause hc hpart⟩
  · rintro ⟨n, limit, h⟩
    apply h.category_eq_tooDeep rfl

/-! ## The reason -/

/-- Steps do not change the category. -/
theorem category_reason :
  ∀ e : Rejection, e.reason.category = e.category
  | inProperty cause _ _ => category_reason cause
  | inOptionalProperty cause _ _ => category_reason cause
  | atIndex cause _ _ => category_reason cause
  | typeMismatch .. => rfl
  | missingProperty .. => rfl
  | noAlternative .. => rfl
  | tooDeep .. => rfl

theorem isReason_reason :
  ∀ e : Rejection, e.reason.IsReason
  | inProperty cause _ _ => isReason_reason cause
  | inOptionalProperty cause _ _ => isReason_reason cause
  | atIndex cause _ _ => isReason_reason cause
  | typeMismatch .. => trivial
  | missingProperty .. => trivial
  | noAlternative .. => trivial
  | tooDeep .. => trivial

/-- A union is of no other category than these two. -/
theorem category_noAlternative_of_ne {causes : List Rejection}
    (h : (noAlternative causes).category ≠ .tooDeep) :
  (noAlternative causes).category = .unionExhausted
  := by
  rw [category] at h ⊢
  split_ifs at h ⊢
  · exact absurd rfl h
  · rfl

/-- A reason that is not too deep is of the category that is named after it. -/
theorem IsReason.category_cases {e : Rejection} (h : e.IsReason) (hne : e.category ≠ .tooDeep) :
  (∃ causes, e = .noAlternative causes ∧ e.category = .unionExhausted) ∨
    (∃ object key, e = .missingProperty object key ∧ e.category = .missingProperty) ∨
    ∃ value expected, e = .typeMismatch value expected ∧ e.category = .typeMismatch
  := by
  cases e with
  | inProperty | inOptionalProperty | atIndex => cases h
  | noAlternative causes => exact .inl ⟨causes, rfl, category_noAlternative_of_ne hne⟩
  | missingProperty object key => exact .inr (.inl ⟨object, key, rfl, rfl⟩)
  | typeMismatch value expected => exact .inr (.inr ⟨value, expected, rfl, rfl⟩)
  | tooDeep limit => exact absurd rfl hne

/-! ## The order of alternatives -/

/-- One union somewhere in a rejection has its alternatives put into another order. -/
inductive Reorders : Rejection → Rejection → Prop where
  | union {causes causes' : List Rejection} (perm : causes.Perm causes') :
    Reorders (.noAlternative causes) (.noAlternative causes')
  | alternative {c c' : Rejection} (inner : Reorders c c') (before after : List Rejection) :
    Reorders (.noAlternative (before ++ c :: after)) (.noAlternative (before ++ c' :: after))
  | inProperty {c c' : Rejection} (inner : Reorders c c') (key object : String) :
    Reorders (.inProperty c key object) (.inProperty c' key object)
  | inOptionalProperty {c c' : Rejection} (inner : Reorders c c') (key object : String) :
    Reorders (.inOptionalProperty c key object) (.inOptionalProperty c' key object)
  | atIndex {c c' : Rejection} (inner : Reorders c c') (index : Nat) (array : String) :
    Reorders (.atIndex c index array) (.atIndex c' index array)

/-- Of the alternatives of a union, only those that are too deep decide its category. -/
theorem category_noAlternative_congr {causes causes' : List Rejection}
    (h : (∃ c ∈ causes, c.category = .tooDeep) ↔ ∃ c ∈ causes', c.category = .tooDeep) :
  (noAlternative causes).category = (noAlternative causes').category
  := by
  rw [← anyTooDeep_eq_true_iff, ← anyTooDeep_eq_true_iff, ← Bool.eq_iff_iff] at h
  rw [category, category, h]

/-- One reordering keeps the category. -/
theorem Reorders.category_eq {e e' : Rejection} (h : Reorders e e') :
  e.category = e'.category
  := by
  induction h with
  | union perm =>
      apply category_noAlternative_congr
      simp only [perm.mem_iff]
  | alternative inner before after ih =>
      apply category_noAlternative_congr
      simp only [List.mem_append, List.mem_cons, or_and_right, exists_or, exists_eq_left, ih]
  | inProperty inner key object ih => exact ih
  | inOptionalProperty inner key object ih => exact ih
  | atIndex inner index array ih => exact ih

/-- A series of reorderings keeps the category. -/
theorem category_eq_of_reorders {e e' : Rejection} (h : Relation.ReflTransGen Reorders e e') :
  e.category = e'.category
  := by
  induction h with
  | refl => rfl
  | tail _ reorders ih => exact ih.trans reorders.category_eq

/-- A rejection is too deep exactly if that is said anywhere in it, and otherwise of the category of
its reason, the steps around it left aside.  The order of the alternatives of the unions in it does
not matter. -/
theorem category_tooDeep_or_reason (e : Rejection) :
  (e.category = .tooDeep ↔ ∃ n limit, e.Encloses n (.tooDeep limit)) ∧
    ((∀ n limit, ¬ e.Encloses n (.tooDeep limit)) →
      (∃ causes, e.reason = .noAlternative causes ∧ e.category = .unionExhausted) ∨
      (∃ object key, e.reason = .missingProperty object key ∧ e.category = .missingProperty) ∨
      ∃ value expected, e.reason = .typeMismatch value expected ∧ e.category = .typeMismatch) ∧
    ∀ e', Relation.ReflTransGen Reorders e e' → e'.category = e.category
  := by
  and_intros
  · exact category_eq_tooDeep_iff
  · intro hnone
    have hne : e.reason.category ≠ .tooDeep := by
      rw [category_reason]
      intro htooDeep
      obtain ⟨n, limit, hpart⟩ := category_eq_tooDeep_iff.mp htooDeep
      apply hnone n limit hpart
    rw [← category_reason e]
    apply (isReason_reason e).category_cases hne
  · intro e' h
    exact (category_eq_of_reorders h).symm

/-- A property whose value no alternative admits: in the last of them, the last alternative of
another union is too deep. -/
def buriedLimit : Rejection :=
  .inProperty (.noAlternative [.missingProperty "[1]" "\"id\"",
    .atIndex (.noAlternative [.typeMismatch "1" "\"string\"", .tooDeep 3]) 0 "[1]"]) "\"a\"" "{}"

/-- The same with the alternatives of both unions the other way round. -/
def raisedLimit : Rejection :=
  .inProperty (.noAlternative [
    .atIndex (.noAlternative [.tooDeep 3, .typeMismatch "1" "\"string\""]) 0 "[1]",
    .missingProperty "[1]" "\"id\""]) "\"a\"" "{}"

theorem reorders_buriedLimit :
  Relation.ReflTransGen Reorders buriedLimit raisedLimit
  := by
  have hinner : Reorders (.noAlternative [.typeMismatch "1" "\"string\"", .tooDeep 3])
      (.noAlternative [.tooDeep 3, .typeMismatch "1" "\"string\""]) :=
    .union (.swap _ _ [])
  have houter := Reorders.alternative (hinner.atIndex 0 "[1]") [.missingProperty "[1]" "\"id\""] []
  exact (Relation.ReflTransGen.single (houter.inProperty "\"a\"" "{}")).tail
    (.inProperty (.union (.swap _ _ [])) _ _)

/-- The limit decides the category from behind two other reasons and in front of them.  A union at
an element, in which no limit is told, is exhausted. -/
theorem category_buriedLimit :
  (∃ n limit, buriedLimit.Encloses n (.tooDeep limit)) ∧
    Relation.ReflTransGen Reorders buriedLimit raisedLimit ∧
    raisedLimit.category = buriedLimit.category ∧
    (∀ n limit, ¬ (atIndex (.noAlternative [.noAlternative []]) 0 "[1]").Encloses n
      (.tooDeep limit)) ∧
    (atIndex (.noAlternative [.noAlternative []]) 0 "[1]").category = .unionExhausted
  := by
  have hnone : ∀ n limit, ¬ (atIndex (.noAlternative [.noAlternative []]) 0 "[1]").Encloses n
      (.tooDeep limit) := by
    intro n limit hpart
    have htooDeep := (category_tooDeep_or_reason _).1.mpr ⟨n, limit, hpart⟩
    cases htooDeep
  and_intros
  · exact (category_tooDeep_or_reason buriedLimit).1.mp rfl
  · exact reorders_buriedLimit
  · exact (category_tooDeep_or_reason buriedLimit).2.2 _ reorders_buriedLimit
  · exact hnone
  · obtain ⟨_, -, hcategory⟩ | ⟨_, _, ⟨⟩, -⟩ | ⟨_, _, ⟨⟩, -⟩ :=
      (category_tooDeep_or_reason _).2.1 hnone
    exact hcategory

end Assay.Rejection

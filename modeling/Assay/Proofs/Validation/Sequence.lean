import Assay.Proofs.Validation.Checks
import Mathlib.Data.List.Perm.Basic

/-!
# Checks in sequence

The properties of an object are checks one after the other, and so are the entries of an array.
Those of a second list are looked at only if the first list has nothing to reject
(`examine_object_append`, `examine_indexed_append`).  Hence each of them has to be met on its own,
also where a key or a position is repeated, and their order decides nothing but which failure is
told (`sequential_object_indexed`).
-/

namespace Assay.Schema

variable {limit depth : Nat} {value : Option Json}

/-! ## One list behind another -/

/-- A schema is examined as two others in turn if this holds where there is room for them and the
value is of the declared kind; otherwise the first of the two rejects it as the schema does. -/
theorem examine_eq_bind_of {schema first second : Schema}
    (hkind : first.declaredKind = schema.declaredKind)
    (h : depth ≤ limit → (∀ kind, schema.declaredKind = some kind → Kind.of value = kind) →
      examine limit depth value schema =
        examine limit depth value first >>= fun _ => examine limit depth value second) :
  examine limit depth value schema =
    examine limit depth value first >>= fun _ => examine limit depth value second
  := by
  obtain below | ⟨within, kind, declared, other⟩ | ⟨within, hvalue⟩ :=
    below_or_other_or_fits limit depth value schema
  · rw [examine_tooDeep below, examine_tooDeep below]
    rfl
  · rw [examine_mismatch within declared other,
      examine_mismatch within (hkind.trans declared) other]
    rfl
  · apply h within hvalue

theorem examine_object_append (ps qs : List (Property Schema)) :
  examine limit depth value (object (ps ++ qs)) =
    examine limit depth value (object ps) >>= fun _ => examine limit depth value (object qs)
  := by
  apply examine_eq_bind_of
  · rfl
  · intro within hvalue
    obtain ⟨members, rfl⟩ := Kind.of_eq_object_iff.mp (hvalue .object rfl)
    rw [examine_object within, examine_object within, examine_object within, List.forM_append]

theorem examine_indexed_append (es fs : List (Entry Schema)) :
  examine limit depth value (indexed (es ++ fs)) =
    examine limit depth value (indexed es) >>= fun _ => examine limit depth value (indexed fs)
  := by
  apply examine_eq_bind_of
  · rfl
  · intro within hvalue
    obtain ⟨items, rfl⟩ := Kind.of_eq_array_iff.mp (hvalue .array rfl)
    rw [examine_indexed within, examine_indexed within, examine_indexed within, List.forM_append]

/-! ## Sequences of checks -/

/-- Schemas that are made of lists of checks, which run in order. -/
structure Sequential {α : Type} (make : List α → Schema) : Prop where
  /-- What the first of two lists rejects is rejected in the same way, and all else is left to the
  second list. -/
  append (limit : Nat) (v : Json) (xs ys : List α) :
    (make (xs ++ ys)).validate limit v =
      (make xs).validate limit v >>= fun _ => (make ys).validate limit v
  /-- A list admits what the empty list and each of its items admit. -/
  each (limit : Nat) (v : Json) (xs : List α) :
    (make xs).validate limit v = .ok () ↔
      (make []).validate limit v = .ok () ∧ ∀ x ∈ xs, (make [x]).validate limit v = .ok ()
  /-- The order of a list does not decide what is admitted. -/
  perm (limit : Nat) (v : Json) {xs ys : List α} (h : xs.Perm ys) :
    (make xs).validate limit v = .ok () ↔ (make ys).validate limit v = .ok ()
  /-- The order of a list may decide how a value is rejected. -/
  order : ∃ (limit : Nat) (v : Json) (xs ys : List α) (e e' : Rejection),
    xs.Perm ys ∧ (make xs).validate limit v = .error e ∧
      (make ys).validate limit v = .error e' ∧ e ≠ e'

/-- Lists that are looked at one after the other are sequences of checks if the order of some list
decides how a value is rejected. -/
theorem Sequential.of_append {α : Type} {make : List α → Schema}
    (append : ∀ limit v xs ys, (make (xs ++ ys)).validate limit v =
      (make xs).validate limit v >>= fun _ => (make ys).validate limit v)
    (order : ∃ limit v xs ys e e', xs.Perm ys ∧ (make xs).validate limit v = .error e ∧
      (make ys).validate limit v = .error e' ∧ e ≠ e') :
  Sequential make
  := by
  have each : ∀ limit v xs, (make xs).validate limit v = .ok () ↔
      (make []).validate limit v = .ok () ∧ ∀ x ∈ xs, (make [x]).validate limit v = .ok () := by
    intro limit v xs
    induction xs with
    | nil => simp
    | cons x rest ih =>
        rw [← List.singleton_append, append, bind_eq_ok_iff, ih, List.singleton_append,
          List.forall_mem_cons]
        constructor
        · rintro ⟨⟨⟩, hx, hnil, hrest⟩
          exact ⟨hnil, hx, hrest⟩
        · rintro ⟨hnil, hx, hrest⟩
          exact ⟨(), hx, hnil, hrest⟩
  apply Sequential.mk append each _ order
  intro limit v xs ys h
  rw [each limit v xs, each limit v ys]
  simp only [h.mem_iff]

/-- A key that is there with a value at fault, and one that is not there. -/
theorem exists_order_object :
  ∃ limit v ps qs e e', ps.Perm qs ∧ (object ps).validate limit v = .error e ∧
    (object qs).validate limit v = .error e' ∧ e ≠ e'
  := by
  use 2, .object [("a", .null)], [⟨.required, "a", .number⟩, ⟨.required, "b", .number⟩],
    [⟨.required, "b", .number⟩, ⟨.required, "a", .number⟩]
  refine ⟨_, _, List.Perm.swap _ _ [], rfl, rfl, ?_⟩
  rintro ⟨⟩

/-- Two positions past the end. -/
theorem exists_order_indexed :
  ∃ limit v es fs e e', es.Perm fs ∧ (indexed es).validate limit v = .error e ∧
    (indexed fs).validate limit v = .error e' ∧ e ≠ e'
  := by
  use 2, .array [], [⟨0, .number⟩, ⟨1, .number⟩], [⟨1, .number⟩, ⟨0, .number⟩]
  refine ⟨_, _, List.Perm.swap _ _ [], rfl, rfl, ?_⟩
  rintro ⟨⟩

/-- Properties and entries are sequences of checks. -/
theorem sequential_object_indexed :
  Sequential object ∧ Sequential indexed
  := by
  constructor
  · apply Sequential.of_append _ exists_order_object
    intro limit v ps qs
    apply examine_object_append
  · apply Sequential.of_append _ exists_order_indexed
    intro limit v es fs
    apply examine_indexed_append

end Assay.Schema

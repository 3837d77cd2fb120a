import Assay.Json.Basic
import Mathlib.Tactic.Common

/-!
# Induction on values

`induction` is induction on values with one case for each kind of value, whose hypotheses
speak of the elements of an array and of the members of an object.  `levels` is the number
of containers on the longest way down; a container has one level more than it leaves room
for its parts (`levels_array_le_iff`, `levels_object_le_iff`).
-/

namespace Assay.Json

/-- A property that holds of the scalars and is inherited from the parts of a container
holds of every value. -/
theorem induction {motive : Json → Prop}
    (null : motive .null)
    (boolean : ∀ b, motive (.boolean b))
    (number : ∀ n, motive (.number n))
    (string : ∀ s, motive (.string s))
    (array : ∀ items : List Json, (∀ v ∈ items, motive v) → motive (.array items))
    (object : ∀ members : List (String × Json),
      (∀ m ∈ members, motive m.2) → motive (.object members))
    (v : Json) :
  motive v
  := by
  refine @Json.rec motive (fun items => ∀ v ∈ items, motive v)
    (fun members => ∀ m ∈ members, motive m.2) (fun m => motive m.2)
    null boolean number string array object ?_ ?_ ?_ ?_ ?_ v
  all_goals simp_all

mutual

/-- The number of containers on the longest way down. -/
def levels : Json → Nat
  | array items => levelsOfItems items + 1
  | object members => levelsOfMembers members + 1
  | _ => 0

/-- The most levels that an item of a list has. -/
def levelsOfItems : List Json → Nat
  | [] => 0
  | v :: rest => max (levels v) (levelsOfItems rest)

/-- The most levels that the value of a member has. -/
def levelsOfMembers : List (String × Json) → Nat
  | [] => 0
  | (_, v) :: rest => max (levels v) (levelsOfMembers rest)

end

/-- The levels of items are those of the item that has most. -/
theorem levelsOfItems_le_iff {items : List Json} {n : Nat} :
  levelsOfItems items ≤ n ↔ ∀ v ∈ items, v.levels ≤ n
  := by
  induction items with
  | nil => simp [levelsOfItems]
  | cons v rest ih => rw [levelsOfItems, Nat.max_le, ih, List.forall_mem_cons]

/-- The levels of members are those of the value that has most. -/
theorem levelsOfMembers_le_iff {members : List (String × Json)} {n : Nat} :
  levelsOfMembers members ≤ n ↔ ∀ m ∈ members, m.2.levels ≤ n
  := by
  induction members with
  | nil => simp [levelsOfMembers]
  | cons m rest ih => rw [levelsOfMembers, Nat.max_le, ih, List.forall_mem_cons]

/-- An array has one more level than its items. -/
theorem levels_array_le_iff {items : List Json} {n : Nat} :
  (array items).levels ≤ n + 1 ↔ ∀ v ∈ items, v.levels ≤ n
  := by
  rw [levels, Nat.add_le_add_iff_right, levelsOfItems_le_iff]

theorem levels_object_le_iff {members : List (String × Json)} {n : Nat} :
  (object members).levels ≤ n + 1 ↔ ∀ m ∈ members, m.2.levels ≤ n
  := by
  rw [levels, Nat.add_le_add_iff_right, levelsOfMembers_le_iff]

/-- Room for an array is room for one container more than for its elements. -/
theorem exists_of_levels_array_le {items : List Json} {depth : Nat}
    (h : (array items).levels ≤ depth) :
  ∃ d, depth = d + 1 ∧ ∀ v ∈ items, v.levels ≤ d
  := by
  obtain ⟨d, rfl⟩ : ∃ d, depth = d + 1 := Nat.exists_eq_add_one.mpr (by
    rw [levels] at h
    omega)
  use d, rfl, levels_array_le_iff.mp h

/-- Room for an object is room for one container more than for its members. -/
theorem exists_of_levels_object_le {members : List (String × Json)} {depth : Nat}
    (h : (object members).levels ≤ depth) :
  ∃ d, depth = d + 1 ∧ ∀ m ∈ members, m.2.levels ≤ d
  := by
  obtain ⟨d, rfl⟩ : ∃ d, depth = d + 1 := Nat.exists_eq_add_one.mpr (by
    rw [levels] at h
    omega)
  use d, rfl, levels_object_le_iff.mp h

/-- An item has fewer levels than its array, so that recursion may go on with it. -/
theorem levels_item_lt {v : Json} {items : List Json} (h : v ∈ items) :
  v.levels < (array items).levels
  := by
  rw [levels]
  apply Nat.lt_succ_of_le (levelsOfItems_le_iff.mp (Nat.le_refl _) v h)

/-- A value of a member has fewer levels than its object. -/
theorem levels_member_lt {m : String × Json} {members : List (String × Json)}
    (h : m ∈ members) :
  m.2.levels < (object members).levels
  := by
  rw [levels]
  apply Nat.lt_succ_of_le (levelsOfMembers_le_iff.mp (Nat.le_refl _) m h)

end Assay.Json

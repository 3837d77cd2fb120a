import Mathlib.Data.List.Forall2
import Mathlib.Tactic.Common

/-!
# Results that may be errors

A computation in two steps succeeds when both do (`bind_eq_ok_iff`).  A list of
computations succeeds when all of them do (`mapM_eq_ok_iff`), and fails with the error of the
first one that fails (`mapM_eq_error_iff`).  Two computations of lists are put together by `concat`.
-/

namespace Assay

variable {α β ε δ : Type}

theorem bind_eq_ok_iff {x : Except ε α} {f : α → Except ε β} {y : β} :
  (x >>= f) = .ok y ↔ ∃ a, x = .ok a ∧ f a = .ok y
  := by
  cases x with
  | error e => simp [bind, Except.bind]
  | ok a => simp [bind, Except.bind]

theorem bind_eq_error_iff {x : Except ε α} {f : α → Except ε β} {e : ε} :
  (x >>= f) = .error e ↔ x = .error e ∨ ∃ a, x = .ok a ∧ f a = .error e
  := by
  cases x with
  | error e => simp [bind, Except.bind]
  | ok a => simp [bind, Except.bind]

theorem map_eq_ok_iff {x : Except ε α} {f : α → β} {y : β} :
  x.map f = .ok y ↔ ∃ a, x = .ok a ∧ f a = y
  := by
  cases x with
  | error e => simp [Except.map]
  | ok a => simp [Except.map]

theorem map_eq_error_iff {x : Except ε α} {f : α → β} {e : ε} :
  x.map f = .error e ↔ x = .error e
  := by
  cases x with
  | error e => simp [Except.map]
  | ok a => simp [Except.map]

theorem mapError_eq_ok_iff {x : Except ε α} {f : ε → δ} {a : α} :
  x.mapError f = .ok a ↔ x = .ok a
  := by
  cases x with
  | ok => simp [Except.mapError]
  | error => simp [Except.mapError]

theorem mapError_eq_error_iff {x : Except ε α} {f : ε → δ} {cause : δ} :
  x.mapError f = .error cause ↔ ∃ c, x = .error c ∧ cause = f c
  := by
  cases x with
  | ok => simp [Except.mapError]
  | error => simp [Except.mapError, eq_comm]

theorem mapError_mapError {γ : Type} {f : γ → ε} {g : ε → δ} {x : Except γ α} :
  (x.mapError f).mapError g = x.mapError fun e => g (f e)
  := by
  cases x <;> rfl

/-- Errors that agree after `f` agree after functions that agree where `f` does. -/
theorem mapError_congr {γ : Type} {x x' : Except ε α} {f : ε → δ}
    (h : x.mapError f = x'.mapError f) {F F' : ε → γ} (hF : ∀ e e', f e = f e' → F e = F' e') :
  x.mapError F = x'.mapError F'
  := by
  cases x with
  | ok a =>
      cases x' with
      | ok a' => exact congrArg Except.ok (Except.ok.inj h)
      | error e' => cases h
  | error e =>
      cases x' with
      | ok a' => cases h
      | error e' => exact congrArg Except.error (hF e e' (Except.error.inj h))

/-- What does not fail succeeds. -/
theorem exists_eq_ok_iff {x : Except ε α} :
  (∃ a, x = .ok a) ↔ ¬ ∃ e, x = .error e
  := by
  cases x with
  | error e => simp
  | ok a => simp

theorem mapM_congr {f g : α → Except ε β} {xs : List α} (h : ∀ x ∈ xs, f x = g x) :
  xs.mapM f = xs.mapM g
  := by
  induction xs with
  | nil => rfl
  | cons x xs ih =>
      obtain ⟨hx, hxs⟩ := List.forall_mem_cons.mp h
      rw [List.mapM_cons, List.mapM_cons, hx, ih hxs]

/-- A list of computations succeeds with the results of all of them, in order. -/
theorem mapM_eq_ok_iff {f : α → Except ε β} {xs : List α} {ys : List β} :
  xs.mapM f = .ok ys ↔ List.Forall₂ (fun x y => f x = .ok y) xs ys
  := by
  induction xs generalizing ys with
  | nil => simp [pure, Except.pure, eq_comm]
  | cons x xs ih =>
      rw [List.mapM_cons, bind_eq_ok_iff, List.forall₂_cons_left_iff]
      simp only [bind_eq_ok_iff, ih]
      constructor
      · rintro ⟨y, hy, ys', hys, ⟨⟩⟩
        exact ⟨y, ys', hy, hys, rfl⟩
      · rintro ⟨y, ys', hy, hys, rfl⟩
        exact ⟨y, hy, ys', hys, rfl⟩

/-- What is related to a list item by item has for each of its items one of that list. -/
theorem exists_of_forall₂ {R : α → β → Prop} {xs : List α} {ys : List β}
    (h : List.Forall₂ R xs ys) {y : β} (hy : y ∈ ys) :
  ∃ x ∈ xs, R x y
  := by
  induction h with
  | nil => cases hy
  | cons hxy _ ih =>
      obtain rfl | hy := List.mem_cons.mp hy
      · exact ⟨_, List.mem_cons_self, hxy⟩
      · obtain ⟨x, hx, h⟩ := ih hy
        use x, List.mem_cons_of_mem _ hx, h

/-- If a list of computations succeeds, each of them does, and gives one of the results. -/
theorem exists_of_mapM_eq_ok {f : α → Except ε β} {xs : List α} {ys : List β}
    (h : xs.mapM f = .ok ys) {x : α} (hx : x ∈ xs) :
  ∃ y ∈ ys, f x = .ok y
  := exists_of_forall₂ (mapM_eq_ok_iff.mp h).flip hx

/-- The results of a list of computations are those that one of them gives. -/
theorem mem_iff_of_mapM_eq_ok {f : α → Except ε β} {xs : List α} {ys : List β}
    (h : xs.mapM f = .ok ys) {y : β} :
  y ∈ ys ↔ ∃ x ∈ xs, f x = .ok y
  := by
  constructor
  · apply exists_of_forall₂ (mapM_eq_ok_iff.mp h)
  · rintro ⟨x, hx, hy⟩
    obtain ⟨y', hy', hxy'⟩ := exists_of_mapM_eq_ok h hx
    cases hy.symm.trans hxy'
    exact hy'

/-- A list of computations fails with the error of the first one that fails. -/
theorem mapM_eq_error_iff {f : α → Except ε β} {xs : List α} {e : ε} :
  xs.mapM f = .error e ↔
    ∃ before x after, xs = before ++ x :: after ∧ (∀ y ∈ before, ∃ z, f y = .ok z) ∧
      f x = .error e
  := by
  constructor
  · intro h
    induction xs with
    | nil => cases h
    | cons x xs ih =>
        rw [List.mapM_cons, bind_eq_error_iff] at h
        obtain h | ⟨y, hx, h⟩ := h
        · exact ⟨[], x, xs, rfl, nofun, h⟩
        · obtain h | ⟨ys, -, h⟩ := bind_eq_error_iff.mp h
          · obtain ⟨before, x', after, rfl, hbefore, hx'⟩ := ih h
            exact ⟨x :: before, x', after, rfl, List.forall_mem_cons.mpr ⟨⟨y, hx⟩, hbefore⟩, hx'⟩
          · cases h
  · rintro ⟨before, x, after, rfl, hbefore, hx⟩
    induction before with
    | nil =>
        rw [List.nil_append, List.mapM_cons]
        exact bind_eq_error_iff.mpr (.inl hx)
    | cons y before ih =>
        obtain ⟨⟨z, hz⟩, hbefore⟩ := List.forall_mem_cons.mp hbefore
        rw [List.cons_append, List.mapM_cons]
        exact bind_eq_error_iff.mpr (.inr ⟨z, hz, bind_eq_error_iff.mpr (.inl (ih hbefore))⟩)

/-- The error of a list of computations is that of one of them. -/
theorem exists_of_mapM_eq_error {f : α → Except ε β} {xs : List α} {e : ε}
    (h : xs.mapM f = .error e) :
  ∃ x ∈ xs, f x = .error e
  := by
  obtain ⟨before, x, after, rfl, -, hx⟩ := mapM_eq_error_iff.mp h
  use x, List.mem_append_right _ List.mem_cons_self, hx

/-- If every computation of a list succeeds, and one of them is replaced by one that fails, the
list fails with that error. -/
theorem mapM_modify_eq_error {f : α → Except ε β} {g : α → α} {xs : List α} {i : Nat} {x : α}
    {e : ε} (hxs : ∀ x ∈ xs, ∃ y, f x = .ok y) (hx : xs[i]? = some x) (he : f (g x) = .error e) :
  (xs.modify i g).mapM f = .error e
  := by
  obtain ⟨hi, rfl⟩ := List.getElem?_eq_some_iff.mp hx
  rw [List.modify_eq_take_cons_drop hi]
  exact mapM_eq_error_iff.mpr
    ⟨_, _, _, rfl, fun y hy => hxs y (List.mem_of_mem_take hy), he⟩

/-! ## Lists of results -/

/-- The results of two computations, those of the second behind those of the first. -/
def concat (x y : Except ε (List α)) : Except ε (List α) := x >>= fun as => y.map (as ++ ·)

theorem concat_eq_ok_iff {x y : Except ε (List α)} {cs : List α} :
  concat x y = .ok cs ↔ ∃ as bs, x = .ok as ∧ y = .ok bs ∧ cs = as ++ bs
  := by
  simp only [concat, bind_eq_ok_iff, map_eq_ok_iff]
  constructor
  · rintro ⟨as, hx, bs, hy, rfl⟩
    use as, bs, hx, hy
  · rintro ⟨as, bs, hx, hy, rfl⟩
    use as, hx, bs, hy

theorem concat_eq_error_iff {x y : Except ε (List α)} {e : ε} :
  concat x y = .error e ↔ x = .error e ∨ ∃ as, x = .ok as ∧ y = .error e
  := by
  simp only [concat, bind_eq_error_iff, map_eq_error_iff]

theorem concat_assoc (x y z : Except ε (List α)) :
  concat (concat x y) z = concat x (concat y z)
  := by
  cases x with
  | error e => rfl
  | ok as =>
      cases y with
      | error e => rfl
      | ok bs =>
          cases z with
          | error e => rfl
          | ok cs => exact congrArg Except.ok (List.append_assoc as bs cs)

/-- The results of a list of computations are those of its two parts. -/
theorem mapM_append_eq_concat {f : α → Except ε β} (xs ys : List α) :
  (xs ++ ys).mapM f = concat (xs.mapM f) (ys.mapM f)
  := by
  rw [List.mapM_append, concat]
  cases xs.mapM f with
  | error e => rfl
  | ok as => cases ys.mapM f <;> rfl

theorem concat_mapError (f : ε → δ) (x y : Except ε (List α)) :
  (concat x y).mapError f = concat (x.mapError f) (y.mapError f)
  := by
  cases x with
  | error e => rfl
  | ok as => cases y <;> rfl

theorem concat_map_flatten (x y : Except ε (List (List α))) :
  (concat x y).map List.flatten = concat (x.map List.flatten) (y.map List.flatten)
  := by
  cases x with
  | error e => rfl
  | ok as =>
      cases y with
      | error e => rfl
      | ok bs => exact congrArg Except.ok List.flatten_append

section

variable {f : List α → Except ε (List β)} (hf : ∀ as bs, f (as ++ bs) = concat (f as) (f bs))
  {x y : Except ε (List α)}

include hf

/-- A computation that may be done on two parts of a list may be done before they are put together. -/
theorem concat_bind_eq_ok_iff {cs : List β} :
  (concat x y >>= f) = .ok cs ↔ concat (x >>= f) (y >>= f) = .ok cs
  := by
  simp only [bind_eq_ok_iff, concat_eq_ok_iff]
  constructor
  · rintro ⟨_, ⟨as, bs, hx, hy, rfl⟩, hcs⟩
    rw [hf] at hcs
    obtain ⟨cs₁, cs₂, hcs₁, hcs₂, rfl⟩ := concat_eq_ok_iff.mp hcs
    exact ⟨cs₁, cs₂, ⟨as, hx, hcs₁⟩, ⟨bs, hy, hcs₂⟩, rfl⟩
  · rintro ⟨cs₁, cs₂, ⟨as, hx, hcs₁⟩, ⟨bs, hy, hcs₂⟩, rfl⟩
    use as ++ bs, ⟨as, bs, hx, hy, rfl⟩
    rw [hf, concat_eq_ok_iff]
    use cs₁, cs₂

/-- Which of several errors is told depends on what is done first, but each of them is that of one
part. -/
theorem concat_bind_eq_error {e : ε} (h : (concat x y >>= f) = .error e) :
  (x >>= f) = .error e ∨ (y >>= f) = .error e
  := by
  simp only [bind_eq_error_iff, concat_eq_error_iff, concat_eq_ok_iff] at h ⊢
  obtain (hx | ⟨-, -, hy⟩) | ⟨_, ⟨as, bs, hx, hy, rfl⟩, he⟩ := h
  · exact .inl (.inl hx)
  · exact .inr (.inl hy)
  · rw [hf] at he
    obtain he | ⟨-, -, he⟩ := concat_eq_error_iff.mp he
    · exact .inl (.inr ⟨as, hx, he⟩)
    · exact .inr (.inr ⟨bs, hy, he⟩)

end

end Assay

import Assay.Filter.Evaluation.Outcome
import Mathlib.Order.Monotone.Defs
import Mathlib.Order.Nat
import Mathlib.Tactic.Common

/-!
# Approximations

Where fewer steps are allowed, there are the same results up to where the steps are used up.
Computations and lists of results are ordered by this: one of them is at most another if both are
the same, or if it is cut off for want of steps where the other one may go on.  Whatever asks
for results respects this order, since it breaks off where they do.

A computation that is given more and more steps comes to something in the end (`ComesTo`): to what
it is from some bound on, or, if it is always cut off, to just that (`exists_comesTo`).
-/

namespace Assay.Filter

/-! ## Computations -/

section

variable {ε δ α β : Type}

/-- A computation approximates another if it is the same or is given up for want of steps. -/
instance : LE (Except (Obstacle ε) α) :=
  ⟨fun x y => x = .error (.ended .unfinished) ∨ x = y⟩

instance : Preorder (Except (Obstacle ε) α) where
  le_refl _ := .inr rfl
  le_trans x y z hxy hyz := by
    obtain hx | rfl := hxy
    · exact .inl hx
    · exact hyz

/-- What is given up for want of steps may still become anything. -/
theorem unfinished_le (x : Except (Obstacle ε) α) :
  .error (.ended .unfinished) ≤ x
  := .inl rfl

/-- What is not given up is not approximated by anything else. -/
theorem eq_of_le {x y : Except (Obstacle ε) α} (h : x ≤ y)
    (hx : x ≠ .error (.ended .unfinished)) :
  y = x
  := by
  obtain hunfinished | rfl := h
  · apply absurd hunfinished hx
  · rfl

/-- A second step is taken only if the first was not given up. -/
theorem bind_le_bind {x y : Except (Obstacle ε) α} {f g : α → Except (Obstacle ε) β}
    (hxy : x ≤ y) (hfg : ∀ a, f a ≤ g a) :
  (x >>= f) ≤ (y >>= g)
  := by
  obtain rfl | rfl := hxy
  · apply unfinished_le
  · cases x with
    | error o => apply le_rfl
    | ok a => apply hfg a

theorem map_le_map (f : α → β) {x y : Except (Obstacle ε) α} (hxy : x ≤ y) :
  x.map f ≤ y.map f
  := by
  obtain rfl | rfl := hxy
  · apply unfinished_le
  · apply le_rfl

/-- A list of computations is given up with the first of them that is. -/
theorem mapM_le_mapM {f g : α → Except (Obstacle ε) β} (hfg : ∀ a, f a ≤ g a) (xs : List α) :
  xs.mapM f ≤ xs.mapM g
  := by
  induction xs with
  | nil => apply le_rfl
  | cons x xs ih =>
      rw [List.mapM_cons, List.mapM_cons]
      apply bind_le_bind (hfg x)
      intro y
      apply bind_le_bind ih
      intro ys
      apply le_rfl

theorem mapError_le_mapError (f : ε → δ) {x y : Except (Obstacle ε) α} (hxy : x ≤ y) :
  x.mapError (Obstacle.map f) ≤ y.mapError (Obstacle.map f)
  := by
  obtain rfl | rfl := hxy
  · apply unfinished_le
  · apply le_rfl

end

namespace Results

/-! ## Lists of results -/

variable {α β : Type}

/-- Results approximate others if they are the same up to where the steps are used up. -/
inductive Le : Results α → Results α → Prop where
  | unfinished (r : Results α) : Le (ended .unfinished) r
  | nil : Le nil nil
  | cons (x : α) {t t' : Unit → Results α} (tail : ∀ u, Le (t u) (t' u)) :
    Le (cons x t) (cons x t')
  | ended (why : Ending) : Le (ended why) (ended why)

instance : LE (Results α) := ⟨Le⟩

instance : Preorder (Results α) where
  le_refl r := by
    induction r with
    | nil => apply Le.nil
    | cons x t ih => apply Le.cons x ih
    | ended why => apply Le.ended why
  le_trans r s t hrs hst := by
    induction hrs generalizing t with
    | unfinished => apply Le.unfinished
    | nil => exact hst
    | cons x _ ih =>
        cases hst with
        | cons _ tail => exact Le.cons x fun u => ih u _ (tail u)
    | ended why => exact hst

variable {r r' : Results α}

/-- Results are appended only where the first ones end of themselves. -/
theorem append_le_append {s s' : Unit → Results α} (hr : r ≤ r') (hs : s () ≤ s' ()) :
  r.append s ≤ r'.append s'
  := by
  induction hr with
  | unfinished => apply Le.unfinished
  | nil => exact hs
  | cons x _ ih => apply Le.cons x ih
  | ended why => apply Le.ended why

theorem map_le_map (f : α → β) (hr : r ≤ r') :
  r.map f ≤ r'.map f
  := by
  induction hr with
  | unfinished => apply Le.unfinished
  | nil => apply Le.nil
  | cons x _ ih => apply Le.cons (f x) fun _ => ih ()
  | ended why => apply Le.ended why

/-- The function is asked for results on the first result, then on the second, and so on. -/
theorem bind_le_bind {f f' : α → Results β} (hr : r ≤ r') (hf : ∀ x, f x ≤ f' x) :
  r.bind f ≤ r'.bind f'
  := by
  induction hr with
  | unfinished => apply Le.unfinished
  | nil => apply Le.nil
  | cons x _ ih => apply append_le_append (hf x) (ih ())
  | ended why => apply Le.ended why

/-- A cut of the results is no result that could be filtered out. -/
theorem filter_le_filter (p : α → Bool) (hr : r ≤ r') :
  r.filter p ≤ r'.filter p
  := by
  induction hr with
  | unfinished => apply Le.unfinished
  | nil => apply Le.nil
  | cons x _ ih =>
      rw [filter, filter]
      split_ifs
      · apply Le.cons x fun _ => ih ()
      · apply ih ()
  | ended why => apply Le.ended why

/-- Once there are enough results, it does not matter whether there would be more. -/
theorem take_le_take (n : Nat) (hr : r ≤ r') :
  r.take n ≤ r'.take n
  := by
  induction hr generalizing n with
  | unfinished =>
      cases n with
      | zero => apply le_rfl
      | succ n => apply Le.unfinished
  | nil => apply le_rfl
  | cons x _ ih =>
      cases n with
      | zero => apply le_rfl
      | succ n =>
          apply Le.cons x
          intro u
          split_ifs
          · apply Le.nil
          · apply ih () n
  | ended why => apply le_rfl

/-- The results in front have to be there before they can be dropped. -/
theorem drop_le_drop (n : Nat) (hr : r ≤ r') :
  r.drop n ≤ r'.drop n
  := by
  induction hr generalizing n with
  | unfinished =>
      cases n <;> apply Le.unfinished
  | nil => apply le_rfl
  | cons x tail ih =>
      cases n with
      | zero => apply Le.cons x tail
      | succ n => apply ih () n
  | ended why => apply le_rfl

end Results

namespace Outcome

/-! ## Outcomes -/

variable {α β : Type} {r r' : Outcome α}

theorem ofStop_le_ofStop {x y : Except (Obstacle Stop) α} (h : x ≤ y) :
  ofStop x ≤ ofStop y
  := by
  obtain rfl | rfl := h
  · apply Results.Le.unfinished
  · apply le_rfl

/-- A function is asked for results on every result, and a stop is one itself. -/
theorem andThen_le_andThen {f f' : α → Outcome β} (hr : r ≤ r') (hf : ∀ x, f x ≤ f' x) :
  r.andThen f ≤ r'.andThen f'
  := by
  apply Results.bind_le_bind hr
  intro x
  cases x with
  | error s => apply le_rfl
  | ok x => apply hf x

/-- The pairs of a result come before those of the next one. -/
theorem pairs_le_pairs {s s' : Unit → Outcome β} (hr : r ≤ r') (hs : s () ≤ s' ()) :
  r.pairs s ≤ r'.pairs s'
  := by
  apply Results.bind_le_bind hr
  intro x
  apply Results.map_le_map _ hs

theorem mapOk_le_mapOk (f : α → β) (hr : r ≤ r') :
  r.mapOk f ≤ r'.mapOk f
  := Results.map_le_map _ hr

theorem mapExcept_le_mapExcept (f : α → Except Error β) (hr : r ≤ r') :
  r.mapExcept f ≤ r'.mapExcept f
  := Results.map_le_map _ hr

theorem collectOnto_le_collectOnto (acc : List α) (hr : r ≤ r') :
  r.collectOnto acc ≤ r'.collectOnto acc
  := by
  induction hr generalizing acc with
  | unfinished => apply unfinished_le
  | nil => apply le_rfl
  | cons x _ ih =>
      cases x with
      | error s => apply le_rfl
      | ok x => apply ih ()
  | ended why => apply le_rfl

/-- All results are there only if they are not cut off. -/
theorem collect_le_collect (hr : r ≤ r') :
  r.collect ≤ r'.collect
  := collectOnto_le_collectOnto [] hr

/-- A first result does not change when there are more results. -/
theorem first_le_first (hr : r ≤ r') :
  r.first ≤ r'.first
  := by
  cases hr with
  | unfinished => apply unfinished_le
  | nil => apply le_rfl
  | cons x tail => cases x <;> apply le_rfl
  | ended why => apply le_rfl

/-- The last result is known only when there are no more results. -/
theorem final_le_final (x : Option α) (hr : r ≤ r') :
  r.final x ≤ r'.final x
  := by
  induction hr generalizing x with
  | unfinished => apply unfinished_le
  | nil => apply le_rfl
  | cons y _ ih =>
      cases y with
      | error s => apply le_rfl
      | ok y => apply ih ()
  | ended why => apply le_rfl

/-- A label that is left hides whatever comes after it. -/
theorem untilLeave_le_untilLeave (label : Nat) (hr : r ≤ r') :
  r.untilLeave label ≤ r'.untilLeave label
  := by
  induction hr with
  | unfinished => apply Results.Le.unfinished
  | nil => apply le_rfl
  | cons x _ ih =>
      rcases x with (_ | l) | x
      · apply Results.Le.cons _ fun _ => ih ()
      · rw [untilLeave, untilLeave]
        split_ifs
        · apply le_rfl
        · apply Results.Le.cons _ fun _ => ih ()
      · apply Results.Le.cons _ fun _ => ih ()
  | ended why => apply le_rfl

/-- Each step goes on from the results of the one before it. -/
theorem reduce_le_reduce {step step' : β → α → Outcome α} {s s' : Outcome β} (hs : s ≤ s')
    (hstep : ∀ b x, step b x ≤ step' b x) (x : α) :
  reduce step s x ≤ reduce step' s' x
  := by
  induction hs generalizing x with
  | unfinished => apply Results.Le.unfinished
  | nil => apply le_rfl
  | cons b _ ih =>
      cases b with
      | error stop => apply le_rfl
      | ok b => apply andThen_le_andThen (hstep b x) (ih ())
  | ended why => apply le_rfl

end Outcome

/-! ## Growing bounds -/

section

variable {α β γ ε : Type}

/-- What a computation comes to whose bound grows: what it is within all bounds from some one
on. -/
def ComesTo (f : Nat → β) (r : β) : Prop := ∃ least, ∀ bound, least ≤ bound → f bound = r

namespace ComesTo

variable {f : Nat → β} {r r' : β}

/-- What does not depend on the bound is what it comes to. -/
theorem const (r : β) :
  ComesTo (fun _ => r) r
  := ⟨0, fun _ _ => rfl⟩

/-- A computation comes to one thing only. -/
theorem unique (h : ComesTo f r) (h' : ComesTo f r') :
  r = r'
  := by
  obtain ⟨least, h⟩ := h
  obtain ⟨least', h'⟩ := h'
  exact (h _ (Nat.le_max_left least least')).symm.trans (h' _ (Nat.le_max_right least least'))

theorem eq_iff (h : ComesTo f r) :
  r = r' ↔ ComesTo f r'
  := by
  constructor
  · rintro rfl
    exact h
  · apply h.unique

/-- What is made of a computation comes to what is made of what the computation comes to. -/
theorem map (h : ComesTo f r) (g : β → γ) :
  ComesTo (fun bound => g (f bound)) (g r)
  := by
  obtain ⟨least, h⟩ := h
  use least
  intro bound hbound
  apply congrArg g (h bound hbound)

/-- Two computations, one after the other, have come to what they come to within a common bound. -/
theorem bind {x : Nat → Except ε α} {y : Except ε α} {f : Nat → α → Except ε β}
    {g : α → Except ε β} (hx : ComesTo x y) (hf : ∀ a, ComesTo (fun bound => f bound a) (g a)) :
  ComesTo (fun bound => x bound >>= f bound) (y >>= g)
  := by
  obtain ⟨least, hx⟩ := hx
  cases y with
  | error e =>
      use least
      intro bound hbound
      dsimp only
      rw [hx bound hbound]
      rfl
  | ok a =>
      obtain ⟨least', hf⟩ := hf a
      use max least least'
      intro bound hbound
      dsimp only
      rw [hx bound (Nat.le_trans (Nat.le_max_left _ _) hbound)]
      apply hf bound (Nat.le_trans (Nat.le_max_right _ _) hbound)

/-- Finitely many computations have come to what they come to within a common bound. -/
theorem mapM {f : Nat → α → Except ε β} {g : α → Except ε β}
    (hf : ∀ a, ComesTo (fun bound => f bound a) (g a)) (xs : List α) :
  ComesTo (fun bound => xs.mapM (f bound)) (xs.mapM g)
  := by
  induction xs with
  | nil => apply const
  | cons x xs ih =>
      simp only [List.mapM_cons]
      apply (hf x).bind
      intro y
      apply ih.bind
      intro ys
      apply const

end ComesTo

variable {f : Nat → Except (Obstacle ε) α}

/-- What has come to an end within some bound has come to what it comes to. -/
theorem ComesTo.of_eq (hf : Monotone f) {bound : Nat} {r : Except (Obstacle ε) α}
    (h : f bound = r) (hr : r ≠ .error (.ended .unfinished)) :
  ComesTo f r
  := by
  subst h
  exact ⟨bound, fun _ hbound => eq_of_le (hf hbound) hr⟩

/-- What is at most more with a greater bound comes to something. -/
theorem exists_comesTo (hf : Monotone f) :
  ∃ r, ComesTo f r
  := by
  by_cases h : ∃ bound, f bound ≠ .error (.ended .unfinished)
  · obtain ⟨bound, hbound⟩ := h
    exact ⟨f bound, .of_eq hf rfl hbound⟩
  · simp only [not_exists, not_not] at h
    use .error (.ended .unfinished), 0
    intro bound _
    apply h

end

end Assay.Filter

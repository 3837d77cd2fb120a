import Assay.Rejection
import Mathlib.Tactic.Common

/-!
# Induction on rejections

`Rejection.induction` is induction on rejections with one case for each way of putting them
together.  Where these ways need not be told apart, `causes` are the rejections that a rejection is
put together from, `causes_induction` is the induction on them, and `Encloses` tells what stands in
a rejection at any depth.
-/

namespace Assay.Rejection

/-- A property that holds of the reasons without parts and is inherited from the cause of a
step and from the alternatives of a union holds of every rejection. -/
theorem induction {motive : Rejection → Prop}
    (typeMismatch : ∀ value expected, motive (.typeMismatch value expected))
    (missingProperty : ∀ object key, motive (.missingProperty object key))
    (inProperty : ∀ cause key object, motive cause → motive (.inProperty cause key object))
    (inOptionalProperty : ∀ cause key object,
      motive cause → motive (.inOptionalProperty cause key object))
    (atIndex : ∀ cause index array, motive cause → motive (.atIndex cause index array))
    (noAlternative : ∀ causes : List Rejection,
      (∀ c ∈ causes, motive c) → motive (.noAlternative causes))
    (tooDeep : ∀ limit, motive (.tooDeep limit))
    (e : Rejection) :
  motive e
  := by
  refine @Rejection.rec motive (fun causes => ∀ c ∈ causes, motive c)
    typeMismatch missingProperty inProperty inOptionalProperty atIndex noAlternative tooDeep
    ?_ ?_ e
  all_goals simp_all

/-- The rejections that a rejection is put together from. -/
def causes : Rejection → List Rejection
  | inProperty cause _ _ => [cause]
  | inOptionalProperty cause _ _ => [cause]
  | atIndex cause _ _ => [cause]
  | noAlternative causes => causes
  | _ => []

/-- A property that a rejection inherits from all that it is put together from holds of every
rejection. -/
theorem causes_induction {motive : Rejection → Prop}
    (step : ∀ e : Rejection, (∀ c ∈ e.causes, motive c) → motive e) (e : Rejection) :
  motive e
  := by
  induction e using Rejection.induction with
  | typeMismatch | missingProperty | tooDeep =>
      apply step
      rintro c ⟨⟩
  | inProperty cause key object ih | inOptionalProperty cause key object ih
  | atIndex cause index array ih =>
      apply step
      intro c hc
      rw [List.mem_singleton.mp hc]
      apply ih
  | noAlternative causes ih => apply step (.noAlternative causes) ih

/-- `Encloses e n part` says that `part` stands in the rejection `e`, inside of `n` steps and
unions. -/
inductive Encloses : Rejection → Nat → Rejection → Prop where
  | whole {e : Rejection} : Encloses e 0 e
  | cause {e cause part : Rejection} {n : Nat} (mem : cause ∈ e.causes)
    (inner : Encloses cause n part) : Encloses e (n + 1) part

end Assay.Rejection

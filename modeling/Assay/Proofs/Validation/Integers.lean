import Assay.Proofs.Rendering
import Assay.Proofs.Validation.Lookalike

/-!
# Integers and integral fractions

Whether a number is an integer or a floating-point number without a fractional part makes no
difference to a validation.  Values that become the same with integers in place of such numbers
look alike, and are quoted in the same words (`lookalike_withIntegers`).  Hence a value and the
one with integers are admitted alike, or rejected by the very same rejection
(`validate_withIntegers`).
-/

namespace Assay

/-! ## Putting integers in place -/

theorem Number.asInteger_asInteger (n : Number) :
  n.asInteger.asInteger = n.asInteger
  := by
  cases n with
  | int i => rfl
  | float x =>
      rw [asInteger]
      split
      · split_ifs with hsmall
        · rfl
        -- A number that is kept is kept again for the same reason.
        · simp [asInteger, *]
      · simp [asInteger, *]

namespace Json

/-- With integers in place, there is nothing more to put in place. -/
theorem withIntegers_withIntegers (v : Json) :
  v.withIntegers.withIntegers = v.withIntegers
  := by
  induction v using Json.induction with
  | null | boolean | string => rfl
  | number n => rw [withIntegers, withIntegers, Number.asInteger_asInteger]
  | array items ih =>
      simp only [withIntegers, withIntegersItems_eq_map, List.map_map]
      apply congrArg Json.array (List.map_congr_left ih)
  | object members ih =>
      simp only [withIntegers, withIntegersMembers_eq_map, List.map_map]
      apply congrArg Json.object (List.map_congr_left _)
      intro m hm
      apply congrArg (Prod.mk m.1) (ih m hm)

theorem lookup_withIntegersMembers (k : String) (members : List (String × Json)) :
  (withIntegersMembers members).lookup k = (members.lookup k).map withIntegers
  := by
  induction members with
  | nil => rfl
  | cons m rest ih =>
      rw [withIntegersMembers, List.lookup_cons, List.lookup_cons, ih]
      cases k == m.1 <;> rfl

end Json

theorem Kind.of_withIntegers (v : Json) :
  Kind.of (some v.withIntegers) = Kind.of (some v)
  := by
  cases v <;> rfl

/-- A rejection whose texts are left as they are is left as it is. -/
theorem Rejection.mapTexts_id (e : Rejection) :
  e.mapTexts id = e
  := by
  induction e using Rejection.induction with
  | typeMismatch | missingProperty | tooDeep => rfl
  | inProperty cause key object ih => rw [mapTexts, ih, id]
  | inOptionalProperty cause key object ih => rw [mapTexts, ih, id]
  | atIndex cause index array ih => rw [mapTexts, ih, id]
  | noAlternative causes ih =>
      rw [mapTexts, mapTextsAll_eq_map, List.map_congr_left ih, List.map_id']

/-! ## Validation -/

namespace Schema

/-- Values that are the same with integers in place look alike to every schema, and their texts
are the same. -/
theorem lookalike_withIntegers (declared : String → Prop) :
  Lookalike declared id fun v w => v.withIntegers = w.withIntegers
  where
  kind := by
    intro v w h
    rw [← Kind.of_withIntegers v, h, Kind.of_withIntegers]
  text := by
    intro v w h
    exact congrArg Json.pretty h
  elements := by
    intro items items' h
    rw [Json.withIntegers, Json.withIntegers, Json.array.injEq, Json.withIntegersItems_eq_map,
      Json.withIntegersItems_eq_map] at h
    rw [← List.forall₂_map_right_iff, ← List.forall₂_map_left_iff, List.forall₂_eq_eq_eq]
    exact h
  members := by
    intro members members' h k _
    rw [Json.withIntegers, Json.withIntegers, Json.object.injEq] at h
    have hmember : (members.lookup k).map Json.withIntegers
        = (members'.lookup k).map Json.withIntegers := by
      rw [← Json.lookup_withIntegersMembers, h, Json.lookup_withIntegersMembers]
    cases hv : members.lookup k <;> cases hw : members'.lookup k <;> simp_all

variable {schema : Schema} {limit : Nat}

/-- Values that are the same with integers in place are validated in the same way. -/
theorem validate_eq_of_withIntegers_eq {v w : Json} (h : v.withIntegers = w.withIntegers) :
  schema.validate limit v = schema.validate limit w
  := by
  have hsame := @examine_lookalike _ id _ limit 1 _ _
    (lookalike_withIntegers fun _ => True) schema (fun _ _ => trivial) (.some h)
  have hkept : ∀ r : Except Rejection Unit, r.mapError (Rejection.mapTexts id) = r := by
    rintro (e | ⟨⟩)
    · apply congrArg Except.error e.mapTexts_id
    · rfl
  rw [hkept, hkept] at hsame
  exact hsame

/-- With integers in place of its integral floating-point numbers, a value is admitted if it was
before, and is otherwise rejected by the same rejection, with every text in it.  To put integers
in place a second time changes nothing. -/
theorem validate_withIntegers (schema : Schema) (limit : Nat) (v : Json) :
  schema.admits limit v.withIntegers = schema.admits limit v ∧
    schema.validate limit v.withIntegers = schema.validate limit v ∧
    v.withIntegers.withIntegers = v.withIntegers
  := by
  have hagain := v.withIntegers_withIntegers
  have hsame : schema.validate limit v.withIntegers = schema.validate limit v :=
    validate_eq_of_withIntegers_eq hagain
  use congrArg Except.isOk hsame, hsame

example :
  (Json.array [.number (.float (.ofInt (-3))), .number (.float (.ofRatio false 1 2))]).withIntegers
    = .array [.number (.int (-3)), .number (.float (.ofRatio false 1 2))]
  := by
  rfl

end Schema

end Assay

import Assay.Proofs.Rejection.Texts
import Assay.Proofs.Validation.DepthLimit
import Assay.Proofs.Validation.Union

/-!
# Unions in unions

A union that is an alternative of another one may be replaced by its own alternatives.  These are
then examined one level higher, which makes no difference where there is room for all levels of
the schema (`examine_succ_of_room`).  The rejections are put together in another way and say the
same (`message_noAlternative_flatten`), unless the inner union has no alternatives: its message
is empty, but the separators around it stay.
-/

namespace Assay

namespace Rejection

/-! ## Flat rejections -/

/-- Parts may be put together beforehand, if there are any. -/
theorem intercalate_flatten {separator : String} {before inner after : List String}
    (h : inner ≠ []) :
  separator.intercalate (before ++ [separator.intercalate inner] ++ after)
    = separator.intercalate (before ++ inner ++ after)
  := by
  have hafter : separator.intercalate ([separator.intercalate inner] ++ after)
      = separator.intercalate (inner ++ after) := by
    by_cases hafter : after = []
    · rw [hafter, List.append_nil, List.append_nil, String.intercalate_singleton]
    · rw [String.intercalate_append_of_ne_nil (List.cons_ne_nil _ _) hafter,
        String.intercalate_append_of_ne_nil h hafter, String.intercalate_singleton]
  rw [List.append_assoc, List.append_assoc]
  by_cases hbefore : before = []
  · rw [hbefore, List.nil_append, List.nil_append, hafter]
  · rw [String.intercalate_append_of_ne_nil hbefore (by simp),
      String.intercalate_append_of_ne_nil hbefore (by simp [h]), hafter]

/-- The message of a union stays the same if the alternatives of one of its alternatives take the
place of it. -/
theorem message_noAlternative_flatten {before inner after : List Rejection} (h : inner ≠ []) :
  (noAlternative (before ++ [noAlternative inner] ++ after)).message
    = (noAlternative (before ++ inner ++ after)).message
  := by
  have hinner : inner.map message ≠ [] := by
    rw [Ne, List.map_eq_nil_iff]
    exact h
  simp only [message_noAlternative, List.map_append, List.map_singleton]
  apply intercalate_flatten hinner

/-- Whether a union is too deep does not depend on how its alternatives are put together. -/
theorem category_noAlternative_flatten (before inner after : List Rejection) :
  (noAlternative (before ++ [noAlternative inner] ++ after)).category
    = (noAlternative (before ++ inner ++ after)).category
  := by
  apply category_noAlternative_congr
  simp only [List.mem_append, List.mem_singleton, or_and_right, exists_or, exists_eq_left,
    category_noAlternative_eq_tooDeep_iff]

/-- What is not too deep does not tell the limit. -/
theorem relimit_of_category_ne {limit limit' : Nat} {e : Rejection} (h : e.category ≠ .tooDeep) :
  e.relimit limit limit' = e
  := by
  induction e using Rejection.induction with
  | typeMismatch | missingProperty => rfl
  | inProperty cause key object ih => rw [relimit, ih h]
  | inOptionalProperty cause key object ih => rw [relimit, ih h]
  | atIndex cause index array ih => rw [relimit, ih h]
  | noAlternative causes ih =>
      have hcauses : ∀ c ∈ causes, c.relimit limit limit' = c := by
        intro c hc
        apply ih c hc
        intro htooDeep
        apply h (category_noAlternative_eq_tooDeep_iff.mpr ⟨c, hc, htooDeep⟩)
      rw [relimit, relimitAll_eq_map, List.map_congr_left hcauses, List.map_id']
  | tooDeep => apply absurd rfl h

end Rejection

namespace Schema

variable {limit depth : Nat} {value : Option Json}

/-! ## One level further down -/

/-- With room for all levels of the schema, a greater limit makes no difference. -/
theorem examine_of_le_of_room {limit' : Nat} (hlimit : limit ≤ limit') {schema : Schema}
    (hroom : depth + schema.depth ≤ limit + 1) :
  examine limit' depth value schema = examine limit depth value schema
  := by
  cases hexamine : examine limit depth value schema with
  | ok => apply examine_eq_ok_of_le hlimit hexamine
  | error e =>
      have hblames := blames_of_examine_eq_error hexamine
      apply examine_eq_error_of_blames
      apply hblames.of_le hlimit (hblames.category_ne_tooDeep hroom)

/-- With room for all levels of the schema, one level further down makes no difference. -/
theorem examine_succ_of_room {schema : Schema} (hroom : depth + schema.depth ≤ limit) :
  examine limit (depth + 1) value schema = examine limit depth value schema
  := by
  cases limit with
  | zero =>
      have hdepth := schema.depth_pos
      omega
  | succ limit =>
      rw [examine_add 1, examine_of_le_of_room (Nat.le_succ limit) hroom]
      cases hexamine : examine limit depth value schema with
      | ok => rfl
      | error e =>
          have hblames := blames_of_examine_eq_error hexamine
          rw [Except.mapError,
            Rejection.relimit_of_category_ne (hblames.category_ne_tooDeep hroom)]

/-! ## Alternatives of alternatives -/

/-- The rejections of the alternatives of two lists, if none of them admits the value. -/
theorem examineAlternatives_append (alternatives alternatives' : List Schema) :
  examineAlternatives limit depth value (alternatives ++ alternatives')
    = (examineAlternatives limit depth value alternatives).bind fun causes =>
        (examineAlternatives limit depth value alternatives').map (causes ++ ·)
  := by
  induction alternatives with
  | nil =>
      rw [List.nil_append, examineAlternatives, Option.bind_some]
      simp only [List.nil_append, Option.map_id']
  | cons s rest ih =>
      rw [List.cons_append, examineAlternatives, examineAlternatives, ih]
      cases examine limit (depth + 1) value s with
      | ok => rfl
      | error cause =>
          cases examineAlternatives limit depth value rest with
          | none => rfl
          | some causes => cases examineAlternatives limit depth value alternatives' <;> rfl

/-- Alternatives are examined alike one level further down if there is room for their levels. -/
theorem examineAlternatives_succ_of_room {alternatives : List Schema}
    (hroom : depth + 1 + alternativesDepth alternatives ≤ limit) :
  examineAlternatives limit (depth + 1) value alternatives
    = examineAlternatives limit depth value alternatives
  := by
  induction alternatives with
  | nil => rfl
  | cons s rest ih =>
      rw [alternativesDepth] at hroom
      rw [examineAlternatives, examineAlternatives, ih (by omega),
        examine_succ_of_room (by omega)]

/-- A union as the only alternative is left with the rejections of its own alternatives. -/
theorem examineAlternatives_oneOf {alternatives : List Schema}
    (hroom : depth + 1 + alternativesDepth alternatives ≤ limit) :
  examineAlternatives limit depth value [oneOf alternatives]
    = (examineAlternatives limit depth value alternatives).map fun causes =>
        [.noAlternative causes]
  := by
  rw [examineAlternatives, examineAlternatives, examine_oneOf (by omega),
    examineAlternatives_succ_of_room hroom]
  cases examineAlternatives limit depth value alternatives <;> rfl

/-- A union in a union and the flat one both admit the value, or they are left with the same
rejections, which the inner union has put together. -/
theorem examineAlternatives_nested (before : List Schema) {inner : List Schema}
    (after : List Schema) (hroom : depth + 1 + alternativesDepth inner ≤ limit) :
  (examineAlternatives limit depth value (before ++ [oneOf inner] ++ after) = none ∧
      examineAlternatives limit depth value (before ++ inner ++ after) = none) ∨
    ∃ causes innerCauses causes', examineAlternatives limit depth value inner = some innerCauses ∧
      examineAlternatives limit depth value (before ++ [oneOf inner] ++ after)
        = some (causes ++ [.noAlternative innerCauses] ++ causes') ∧
      examineAlternatives limit depth value (before ++ inner ++ after)
        = some (causes ++ innerCauses ++ causes')
  := by
  simp only [examineAlternatives_append, examineAlternatives_oneOf hroom]
  cases examineAlternatives limit depth value before with
  | none => exact .inl ⟨rfl, rfl⟩
  | some causes =>
      cases examineAlternatives limit depth value inner with
      | none => exact .inl ⟨rfl, rfl⟩
      | some innerCauses =>
          cases examineAlternatives limit depth value after with
          | none => exact .inl ⟨rfl, rfl⟩
          | some causes' => exact .inr ⟨causes, innerCauses, causes', rfl, rfl, rfl⟩

/-- A union in a union admits what its alternatives admit in its place, if the limit is at least
the depth.  If it has alternatives, both reject in the same words, for the same category and at
the same path. -/
theorem validate_oneOf_nested (before inner after : List Schema) (v : Json) {limit : Nat}
    (hlimit : (oneOf (before ++ [oneOf inner] ++ after)).depth ≤ limit) :
  ((oneOf (before ++ [oneOf inner] ++ after)).validate limit v = .ok () ↔
      (oneOf (before ++ inner ++ after)).validate limit v = .ok ()) ∧
    (inner ≠ [] → ∀ e, (oneOf (before ++ [oneOf inner] ++ after)).validate limit v = .error e →
      ∃ e', (oneOf (before ++ inner ++ after)).validate limit v = .error e' ∧
        e.message = e'.message ∧ e.category = e'.category ∧ e.path = e'.path)
  := by
  have hpos : 1 ≤ limit := Nat.le_trans (depth_pos _) hlimit
  have hroom : 1 + 1 + alternativesDepth inner ≤ limit := by
    have hinner := depth_le_alternativesDepth
      (show oneOf inner ∈ before ++ [oneOf inner] ++ after by simp)
    rw [depth] at hinner hlimit
    omega
  rw [validate, validate, examine_oneOf hpos, examine_oneOf hpos]
  obtain ⟨hnested, hflat⟩ | ⟨causes, innerCauses, causes', hinner, hnested, hflat⟩ :=
    @examineAlternatives_nested limit 1 (some v) before inner after hroom
  · rw [hnested, hflat]
    simp
  · rw [hnested, hflat]
    constructor
    · simp
    · rintro hne e ⟨⟩
      have hcauses : innerCauses ≠ [] := by
        rintro rfl
        apply hne (List.forall₂_nil_right_iff.mp (examineAlternatives_eq_some_iff.mp hinner))
      exact ⟨_, rfl, Rejection.message_noAlternative_flatten hcauses,
        Rejection.category_noAlternative_flatten .., rfl⟩

/-- A union of two scalars between other alternatives. -/
def nestedScalars : Schema := oneOf ([null] ++ [oneOf [number, string]] ++ [array boolean])

/-- What none of the scalars is and no array either is rejected as if all of them stood in one
union. -/
theorem nestedScalars_rejection :
  nestedScalars.depth ≤ 3 ∧ ∃ e e', nestedScalars.validate 3 (.boolean true) = .error e ∧
    (oneOf ([null] ++ [number, string] ++ [array boolean])).validate 3 (.boolean true)
      = .error e' ∧
    e.message = e'.message ∧ e.category = e'.category ∧ e.path = e'.path
  := by
  have hdepth : nestedScalars.depth ≤ 3 := by decide
  have hrejected : nestedScalars.validate 3 (.boolean true)
      = .error (.noAlternative [mismatch (some (.boolean true)) .null,
          .noAlternative [mismatch (some (.boolean true)) .number,
            mismatch (some (.boolean true)) .string],
          mismatch (some (.boolean true)) .array]) := rfl
  have hnested := validate_oneOf_nested [null] [number, string] [array boolean] (.boolean true)
    hdepth
  obtain ⟨e', hflat, hsame⟩ := hnested.2 (List.cons_ne_nil _ _) _ hrejected
  exact ⟨hdepth, _, e', hrejected, hflat, hsame⟩

/-- A union of nothing says nothing, but is separated from what is before it. -/
example : (Rejection.noAlternative [.typeMismatch "0" "null", .noAlternative []]).message
    = "expected 0 to be of type null, or " := by
  decide

end Schema

end Assay

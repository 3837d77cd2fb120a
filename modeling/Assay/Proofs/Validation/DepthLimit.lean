import Assay.Proofs.Rejection.Category
import Assay.Proofs.Validation.Blame

/-!
# The limit of depth

A limit of depth turns verdicts into rejections for being too deep, and changes nothing
else.  What is admitted below a limit is admitted below a greater one
(`examine_eq_ok_of_le`), and a rejection of another category stays the same
(`Blames.of_le`).  With a limit of at least the depth of the schema, no rejection is for
being too deep (`Blames.category_ne_tooDeep`).

What a rejection is put together from stands one level further down, so that a part which is
enclosed by a number of others stands that number of levels below the whole
(`Blames.of_encloses`).  Hence it is right below the limit that the schema is too deep
(`validate_tooDeep_at_limit`).
-/

namespace Assay

namespace Schema

variable {limit limit' depth : Nat} {value : Option Json} {schema : Schema}

/-- What is admitted below a limit is admitted below a greater one. -/
theorem examine_eq_ok_of_le (hlimit : limit ≤ limit')
    (h : examine limit depth value schema = .ok ()) :
  examine limit' depth value schema = .ok ()
  := by
  induction schema using induction generalizing depth value with
  | scalar schema kind hkind =>
      obtain ⟨within, hvalue⟩ := (examine_scalar_eq_ok_iff hkind).mp h
      apply (examine_scalar_eq_ok_iff hkind).mpr ⟨Nat.le_trans within hlimit, hvalue⟩
  | array item ih =>
      obtain ⟨within, items, hvalue, hitems⟩ := examine_array_eq_ok_iff.mp h
      apply examine_array_eq_ok_iff.mpr
      use Nat.le_trans within hlimit, items, hvalue
      intro v hv
      apply ih (hitems v hv)
  | indexed entries ih =>
      obtain ⟨within, items, hvalue, hentries⟩ := examine_indexed_eq_ok_iff.mp h
      apply examine_indexed_eq_ok_iff.mpr
      use Nat.le_trans within hlimit, items, hvalue
      intro f hf
      apply ih f hf (hentries f hf)
  | object properties ih =>
      obtain ⟨within, members, hvalue, hproperties⟩ := examine_object_eq_ok_iff.mp h
      apply examine_object_eq_ok_iff.mpr
      use Nat.le_trans within hlimit, members, hvalue
      intro p hp
      obtain ⟨v, present, hv⟩ | hoptional := hproperties p hp
      · exact .inl ⟨v, present, ih p hp hv⟩
      · exact .inr hoptional
  | oneOf alternatives ih =>
      obtain ⟨within, s, hs, hok⟩ := examine_oneOf_eq_ok_iff.mp h
      apply examine_oneOf_eq_ok_iff.mpr
      use Nat.le_trans within hlimit, s, hs, ih s hs hok

theorem Met.of_le (hlimit : limit ≤ limit') {members : List (String × Json)}
    {p : Property Schema} (h : Met limit depth members p) :
  Met limit' depth members p
  := by
  obtain ⟨v, present, hv⟩ | hoptional := h
  · exact .inl ⟨v, present, examine_eq_ok_of_le hlimit hv⟩
  · exact .inr hoptional

/-- A rejection that is not for being too deep stays the same below a greater limit. -/
theorem Blames.of_le (hlimit : limit ≤ limit') {e : Rejection}
    (h : Blames limit depth schema value e) (hcategory : e.category ≠ .tooDeep) :
  Blames limit' depth schema value e
  := by
  induction h with
  | tooDeep below => apply absurd rfl hcategory
  | mismatch within declared other =>
      exact .mismatch (Nat.le_trans within hlimit) declared other
  | element within split earlier rejected blames ih =>
      have hcause := ih hcategory
      apply Blames.element (Nat.le_trans within hlimit) split
      · intro w hw
        apply examine_eq_ok_of_le hlimit (earlier w hw)
      · apply examine_eq_error_of_blames hcause
      · apply hcause
  | entry within split earlier rejected blames ih =>
      have hcause := ih hcategory
      apply Blames.entry (Nat.le_trans within hlimit) split
      · intro f hf
        apply examine_eq_ok_of_le hlimit (earlier f hf)
      · apply examine_eq_error_of_blames hcause
      · apply hcause
  | missing within split earlier required absent =>
      apply Blames.missing (Nat.le_trans within hlimit) split _ required absent
      intro q hq
      apply (earlier q hq).of_le hlimit
  | required within split earlier required present rejected blames ih =>
      have hcause := ih hcategory
      apply Blames.required (Nat.le_trans within hlimit) split _ required present
      · apply examine_eq_error_of_blames hcause
      · apply hcause
      · intro q hq
        apply (earlier q hq).of_le hlimit
  | optional within split earlier optional present rejected blames ih =>
      have hcause := ih hcategory
      apply Blames.optional (Nat.le_trans within hlimit) split _ optional present
      · apply examine_eq_error_of_blames hcause
      · apply hcause
      · intro q hq
        apply (earlier q hq).of_le hlimit
  | @union depth alternatives value causes within rejected blames ih =>
      have hcauses : ∀ s cause, (s, cause) ∈ alternatives.zip causes →
          Blames limit' (depth + 1) s value cause := by
        intro s cause hmem
        apply ih s cause hmem
        intro htooDeep
        apply hcategory
        apply Rejection.category_noAlternative_eq_tooDeep_iff.mpr
        use cause, (List.of_mem_zip hmem).2, htooDeep
      apply Blames.union (Nat.le_trans within hlimit) _ hcauses
      apply List.forall₂_iff_zip.mpr
      use rejected.length_eq
      intro s cause hmem
      apply examine_eq_error_of_blames (hcauses s cause hmem)

/-- With room for all levels of the schema, no rejection is for being too deep. -/
theorem Blames.category_ne_tooDeep {e : Rejection} (h : Blames limit depth schema value e)
    (hroom : depth + schema.depth ≤ limit + 1) :
  e.category ≠ .tooDeep
  := by
  induction h with
  | @tooDeep depth schema value below =>
      have hdepth := schema.depth_pos
      omega
  | mismatch => simp [Rejection.category]
  | missing => simp [Rejection.category]
  | element within split earlier rejected blames ih =>
      rw [Schema.depth] at hroom
      apply ih (by omega)
  | @entry depth entries before after f items cause within split earlier rejected blames ih =>
      have hdepth := depth_le_entriesDepth (show f ∈ entries by simp [split])
      rw [Schema.depth] at hroom
      apply ih (by omega)
  | @required depth properties before after p members v cause within split earlier required
      present rejected blames ih =>
      have hdepth := depth_le_propertiesDepth (show p ∈ properties by simp [split])
      rw [Schema.depth] at hroom
      apply ih (by omega)
  | @optional depth properties before after p members v cause within split earlier optional
      present rejected blames ih =>
      have hdepth := depth_le_propertiesDepth (show p ∈ properties by simp [split])
      rw [Schema.depth] at hroom
      apply ih (by omega)
  | @union depth alternatives value causes within rejected blames ih =>
      intro htooDeep
      obtain ⟨cause, hcause, hcategory⟩ :=
        Rejection.category_noAlternative_eq_tooDeep_iff.mp htooDeep
      obtain ⟨s, hmem⟩ := exists_mem_zip rejected.length_eq hcause
      have hdepth := depth_le_alternativesDepth (List.of_mem_zip hmem).1
      rw [Schema.depth] at hroom
      apply ih s cause hmem (by omega) hcategory

/-- A greater limit admits what a lower one admits and rejects in the same way what a lower
one does not reject for being too deep, and a limit of at least the depth of the schema
rejects nothing for being too deep. -/
theorem validate_limit_only_tooDeep (schema : Schema) (v : Json) {limit limit' : Nat}
    (hlimit : limit ≤ limit') :
  (schema.validate limit v = .ok () → schema.validate limit' v = .ok ()) ∧
    (∀ e, schema.validate limit v = .error e → e.category ≠ .tooDeep →
      schema.validate limit' v = .error e) ∧
    (schema.depth ≤ limit → ∀ e, schema.validate limit v = .error e → e.category ≠ .tooDeep)
  := by
  and_intros
  · apply examine_eq_ok_of_le hlimit
  · intro e h hcategory
    have hblames := blames_of_examine_eq_error h
    apply examine_eq_error_of_blames (hblames.of_le hlimit hcategory)
  · intro hdepth e h
    apply (blames_of_examine_eq_error h).category_ne_tooDeep
    omega

/-- Below the limit two, an array of null is rejected as an array of strings for its
element, so it is below the limit four. -/
theorem array_rejection_limit_four :
  (array string).validate 4 (.array [.null])
      = .error (atIndex [.null] 0 (mismatch (some .null) .string)) ∧
    (array string).validate 4 (.array []) = .ok () ∧
    ∀ e, (array string).validate 2 (.array [.null]) = .error e → e.category ≠ .tooDeep
  := by
  have hlimit : 2 ≤ 4 := by decide
  and_intros
  · apply (validate_limit_only_tooDeep _ _ hlimit).2.1 _ rfl
    decide
  · apply (validate_limit_only_tooDeep _ _ hlimit).1 rfl
  · apply (validate_limit_only_tooDeep _ _ hlimit).2.2
    decide

/-! ## Where a schema is too deep -/

/-- What goes below the limit is rejected for that. -/
theorem Blames.eq_tooDeep {e : Rejection} (h : Blames limit depth schema value e)
    (below : limit < depth) :
  e = .tooDeep limit
  := by
  have hexamine := examine_eq_error_of_blames h
  rw [examine_tooDeep below] at hexamine
  exact (Except.error.inj hexamine).symm

/-- What a rejection is put together from are rejections one level further down, and the rejection
itself is not below the limit. -/
theorem Blames.of_cause {e cause : Rejection} (h : Blames limit depth schema value e)
    (hcause : cause ∈ e.causes) :
  depth ≤ limit ∧ ∃ part value', Blames limit (depth + 1) part value' cause
  := by
  cases h with
  | tooDeep | mismatch | missing => cases hcause
  | element within split earlier rejected blames =>
      cases List.mem_singleton.mp hcause
      exact ⟨within, _, _, blames⟩
  | entry within split earlier rejected blames =>
      cases List.mem_singleton.mp hcause
      exact ⟨within, _, _, blames⟩
  | required within split earlier required present rejected blames =>
      cases List.mem_singleton.mp hcause
      exact ⟨within, _, _, blames⟩
  | optional within split earlier optional present rejected blames =>
      cases List.mem_singleton.mp hcause
      exact ⟨within, _, _, blames⟩
  | union within rejected blames =>
      obtain ⟨s, hmem⟩ := exists_mem_zip rejected.length_eq hcause
      exact ⟨within, _, _, blames s cause hmem⟩

/-- A part that is enclosed by a number of others is a rejection that number of levels further
down, which is at most one level below the limit. -/
theorem Blames.of_encloses {e part : Rejection} {n : Nat} (h : Blames limit depth schema value e)
    (hdepth : depth ≤ limit + 1) (hpart : e.Encloses n part) :
  depth + n ≤ limit + 1 ∧ ∃ schema' value', Blames limit (depth + n) schema' value' part
  := by
  induction hpart generalizing depth schema value with
  | whole => exact ⟨hdepth, _, _, h⟩
  | @cause e cause part n mem inner ih =>
      obtain ⟨within, schema', value', hcause⟩ := h.of_cause mem
      rw [← Nat.succ_add_eq_add_succ]
      apply ih hcause (Nat.succ_le_succ within)

/-- Wherever a rejection says that the schema is too deep, it tells the limit and stands inside of
as many others; all else in it stands inside of fewer. -/
theorem validate_tooDeep_at_limit {schema : Schema} {limit : Nat} {v : Json} {e : Rejection}
    (h : schema.validate limit v = .error e) :
  (∀ n l, e.Encloses n (.tooDeep l) → l = limit ∧ n = limit) ∧
    ∀ n part, e.Encloses n part → (∀ l, part ≠ .tooDeep l) → n < limit
  := by
  have hroot : 1 ≤ limit + 1 := Nat.le_add_left 1 limit
  have hblames := blames_of_examine_eq_error h
  constructor
  · intro n l hpart
    obtain ⟨hle, _, _, hpart⟩ := hblames.of_encloses hroot hpart
    cases hpart with
    | tooDeep below =>
        use rfl
        omega
  · intro n part hpart hother
    obtain ⟨-, _, _, hpart⟩ := hblames.of_encloses hroot hpart
    have within : 1 + n ≤ limit := by
      by_contra hlimit
      apply hother limit (hpart.eq_tooDeep (Nat.not_le.mp hlimit))
    omega

/-- An array one of whose elements is too deep, a union of nothing, and a string. -/
def unevenUnion : Schema := .oneOf [.array (.array .null), .oneOf [], .string]

/-- Two levels are visited: the union, and its alternatives. -/
theorem unevenUnion_tooDeep_at_two :
  ∃ e, unevenUnion.validate 2 (.array [.array []]) = .error e ∧
    e.Encloses 2 (.tooDeep 2) ∧ e.Encloses 1 (.noAlternative []) ∧
    (∀ n l, e.Encloses n (.tooDeep l) → l = 2 ∧ n = 2) ∧
    ∀ n part, e.Encloses n part → (∀ l, part ≠ .tooDeep l) → n < 2
  := by
  have hrejected : unevenUnion.validate 2 (.array [.array []])
      = .error (.noAlternative [atIndex [.array []] 0 (.tooDeep 2), .noAlternative [],
          mismatch (some (.array [.array []])) .string]) := rfl
  refine ⟨_, hrejected, ?_, ?_, validate_tooDeep_at_limit hrejected⟩
  · apply Rejection.Encloses.cause List.mem_cons_self
    apply Rejection.Encloses.cause List.mem_cons_self
    apply Rejection.Encloses.whole
  · apply Rejection.Encloses.cause (List.mem_cons_of_mem _ List.mem_cons_self)
    apply Rejection.Encloses.whole

end Schema

end Assay

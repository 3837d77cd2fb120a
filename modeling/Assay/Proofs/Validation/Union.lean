import Assay.Proofs.Validation.Checks

/-!
# Unions and the limit of depth

What is said of a value depends on how many levels of the schema may still be visited, and on
the limit only where a rejection tells it: if the limit and the depth grow by the same number,
a rejection stays as it is but for the limit that it tells (`examine_add`).  Hence a union is
one level above its alternatives, each of which is examined as if it stood alone
(`validate_oneOf_succ`).
-/

namespace Assay

namespace Rejection

mutual

/-- The rejection that tells another limit wherever it tells the first one. -/
def relimit (limit limit' : Nat) : Rejection → Rejection
  | inProperty cause key object => inProperty (relimit limit limit' cause) key object
  | inOptionalProperty cause key object =>
    inOptionalProperty (relimit limit limit' cause) key object
  | atIndex cause index array => atIndex (relimit limit limit' cause) index array
  | noAlternative causes => noAlternative (relimitAll limit limit' causes)
  | tooDeep n => tooDeep (if n = limit then limit' else n)
  | e => e

def relimitAll (limit limit' : Nat) : List Rejection → List Rejection
  | [] => []
  | c :: rest => relimit limit limit' c :: relimitAll limit limit' rest

end

variable {limit limit' : Nat}

theorem relimitAll_eq_map (causes : List Rejection) :
  relimitAll limit limit' causes = causes.map (relimit limit limit')
  := by
  induction causes with
  | nil => rfl
  | cons c rest ih => rw [relimitAll, ih, List.map_cons]

theorem relimit_tooDeep :
  (tooDeep limit).relimit limit limit' = tooDeep limit'
  := by
  rw [relimit, if_pos rfl]

theorem relimit_atProperty (object : Json) (presence : Presence) (key : String)
    (cause : Rejection) :
  (atProperty object presence key cause).relimit limit limit'
    = atProperty object presence key (cause.relimit limit limit')
  := by
  cases presence <;> rfl

/-- The messages of alternatives are separated by "or". -/
theorem joined_eq (causes : List Rejection) :
  joined causes = ", or ".intercalate (causes.map message)
  := by
  induction causes with
  | nil => rw [joined, List.map_nil, String.intercalate_nil]
  | cons c rest ih =>
      cases rest with
      | nil =>
          rw [joined, List.map_cons, List.map_nil, String.intercalate_singleton,
            String.append_empty]
      | cons d rest =>
          rw [joined, ih, List.map_cons, List.map_cons, List.map_cons,
            String.intercalate_cons_cons, String.append_assoc]

theorem message_noAlternative (causes : List Rejection) :
  (noAlternative causes).message = ", or ".intercalate (causes.map message)
  := joined_eq causes

end Rejection

namespace Schema

open Rejection (relimit)

variable {limit depth : Nat} {value : Option Json}

/-! ## Limit and depth together -/

/-- If limit and depth grow together, the two examinations agree unless there is room for the
schema and the value is of the declared kind. -/
theorem examine_add_of (k : Nat) {schema : Schema}
    (h : depth ≤ limit → (∀ kind, schema.declaredKind = some kind → Kind.of value = kind) →
      examine (limit + k) (depth + k) value schema
        = (examine limit depth value schema).mapError (relimit limit (limit + k))) :
  examine (limit + k) (depth + k) value schema
    = (examine limit depth value schema).mapError (relimit limit (limit + k))
  := by
  obtain below | ⟨within, kind, declared, other⟩ | ⟨within, hkind⟩ :=
    below_or_other_or_fits limit depth value schema
  · rw [examine_tooDeep (by omega), examine_tooDeep below, Except.mapError,
      Rejection.relimit_tooDeep]
  · rw [examine_mismatch (by omega) declared other, examine_mismatch within declared other]
    rfl
  · apply h within hkind

/-- If the alternatives are rejected otherwise, so is the union. -/
theorem examineAlternatives_add {k : Nat} {alternatives : List Schema}
    (h : ∀ s ∈ alternatives, examine (limit + k) (depth + 1 + k) value s
      = (examine limit (depth + 1) value s).mapError (relimit limit (limit + k))) :
  examineAlternatives (limit + k) (depth + k) value alternatives
    = (examineAlternatives limit depth value alternatives).map
        (List.map (relimit limit (limit + k)))
  := by
  induction alternatives with
  | nil => rfl
  | cons s rest ih =>
      obtain ⟨hs, hrest⟩ := List.forall_mem_cons.mp h
      rw [Nat.add_right_comm] at hs
      rw [examineAlternatives, examineAlternatives, hs, ih hrest]
      cases examine limit (depth + 1) value s with
      | ok => rfl
      | error cause => cases examineAlternatives limit depth value rest <;> rfl

/-- If limit and depth grow together, a value is admitted as before, or rejected as before but
for the limit that is told. -/
theorem examine_add (k : Nat) (schema : Schema) :
  examine (limit + k) (depth + k) value schema
    = (examine limit depth value schema).mapError (relimit limit (limit + k))
  := by
  induction schema using induction generalizing depth value with
  | scalar schema kind hscalar =>
      apply examine_add_of
      intro within hkind
      have hvalue := hkind kind (declaredKind_of_scalarKind? hscalar)
      rw [examine_scalar (by omega) hscalar hvalue, examine_scalar within hscalar hvalue]
      rfl
  | array item ih =>
      apply examine_add_of
      intro within hkind
      obtain ⟨items, rfl⟩ := Kind.of_eq_array_iff.mp (hkind .array rfl)
      have hitems : ∀ v ∈ items, examine (limit + k) (depth + k + 1) (some v) item
          = (examine limit (depth + 1) (some v) item).mapError (relimit limit (limit + k)) := by
        intro v _
        rw [Nat.add_right_comm]
        apply ih
      rw [examine_array (by omega), examine_array within, firstFailure_mapError hitems,
        mapError_mapError, mapError_mapError]
      rfl
  | indexed entries ih =>
      apply examine_add_of
      intro within hkind
      obtain ⟨items, rfl⟩ := Kind.of_eq_array_iff.mp (hkind .array rfl)
      rw [examine_indexed (by omega), examine_indexed within]
      apply forM_mapError
      intro e he
      rw [checkEntry, checkEntry, Nat.add_right_comm, ih e he, mapError_mapError,
        mapError_mapError]
      rfl
  | object properties ih =>
      apply examine_add_of
      intro within hkind
      obtain ⟨members, rfl⟩ := Kind.of_eq_object_iff.mp (hkind .object rfl)
      rw [examine_object (by omega), examine_object within]
      apply forM_mapError
      intro p hp
      rw [checkProperty, checkProperty]
      cases (Json.object members).member? p.key with
      | none => cases p.presence <;> rfl
      | some v =>
          dsimp only
          rw [Nat.add_right_comm, ih p hp, mapError_mapError, mapError_mapError]
          simp only [Rejection.relimit_atProperty]
  | oneOf alternatives ih =>
      apply examine_add_of
      intro within _
      have halternatives : examineAlternatives (limit + k) (depth + k) value alternatives
          = (examineAlternatives limit depth value alternatives).map
              (List.map (relimit limit (limit + k))) := by
        apply examineAlternatives_add
        intro s hs
        apply ih s hs
      rw [examine_oneOf (by omega), examine_oneOf within, halternatives]
      cases examineAlternatives limit depth value alternatives with
      | none => rfl
      | some causes =>
          dsimp only [Option.map, Except.mapError]
          rw [relimit, Rejection.relimitAll_eq_map]

/-! ## The union law -/

/-- With one level more to visit than its alternatives, a union admits a value exactly if one of
them does.  Otherwise it tells the rejections of all of them in order, each with the greater
limit, and its message is made of theirs. -/
theorem validate_oneOf_succ (alternatives : List Schema) (limit : Nat) (v : Json) :
  ((oneOf alternatives).validate (limit + 1) v = .ok () ↔
      ∃ s ∈ alternatives, s.validate limit v = .ok ()) ∧
    ∀ e, (oneOf alternatives).validate (limit + 1) v = .error e ↔
      ∃ causes, List.Forall₂ (fun s cause => s.validate limit v = .error cause)
          alternatives causes ∧
        e = .noAlternative (causes.map (relimit limit (limit + 1))) ∧
        e.message = ", or ".intercalate
          (causes.map fun cause => (cause.relimit limit (limit + 1)).message)
  := by
  -- The alternatives stand at the depth one if the union is taken to stand at the depth zero.
  have hunion : (oneOf alternatives).validate (limit + 1) v
      = (examine limit 0 (some v) (oneOf alternatives)).mapError (relimit limit (limit + 1)) :=
    examine_add 1 _
  constructor
  · rw [hunion, mapError_eq_ok_iff, examine_oneOf_eq_ok_iff]
    apply and_iff_right (Nat.zero_le limit)
  · intro e
    rw [hunion, mapError_eq_error_iff]
    simp only [examine_oneOf_eq_error_iff (Nat.zero_le limit)]
    constructor
    · rintro ⟨_, ⟨causes, hcauses, rfl⟩, rfl⟩
      use causes, hcauses
      rw [relimit, Rejection.relimitAll_eq_map]
      use rfl
      rw [Rejection.message_noAlternative, List.map_map]
      rfl
    · rintro ⟨causes, hcauses, rfl, -⟩
      use .noAlternative causes, ⟨causes, hcauses, rfl⟩
      rw [relimit, Rejection.relimitAll_eq_map]

/-- An alternative that goes below the limit tells the limit of the union. -/
example : (oneOf [array number, null]).validate 2 (.array [.boolean true])
    = .error (.noAlternative [atIndex [.boolean true] 0 (.tooDeep 2),
        mismatch (some (.array [.boolean true])) .null]) := rfl

end Schema

end Assay

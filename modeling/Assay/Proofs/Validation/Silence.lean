import Assay.Proofs.Validation.Blame

/-!
# Rejections that say nothing

The message of a union is made of those of its alternatives, and is empty if there are none.  No
other message is empty of itself (`Rejection.exists_of_message_eq_empty`).  So a value is rejected
without a word exactly by the empty union, with any number of unions of a single alternative around
it, and only if the limit leaves room for all of them (`Blames.message_eq_empty_iff`).
-/

namespace Assay

/-! ## Empty messages -/

namespace Rejection

theorem append_append_ne_empty {before between after : String} (h : between ≠ "") :
  before ++ between ++ after ≠ ""
  := by
  simp [String.append_eq_empty_iff, h]

/-- Every step, and every reason but a union, has words of its own in its message. -/
theorem exists_of_message_eq_empty {e : Rejection} (h : e.message = "") :
  ∃ causes, e = .noAlternative causes
  := by
  cases e with
  | noAlternative causes => exact ⟨causes, rfl⟩
  | typeMismatch | missingProperty | inProperty | inOptionalProperty | atIndex =>
      exact absurd h (append_append_ne_empty (by decide))
  | tooDeep limit => exact absurd (String.append_eq_empty_iff.mp h).1 (by decide)

theorem message_noAlternative_singleton (cause : Rejection) :
  (noAlternative [cause]).message = cause.message
  := String.append_empty

/-- The messages of two alternatives have words between them. -/
theorem message_noAlternative_ne_empty (first second : Rejection) (rest : List Rejection) :
  (noAlternative (first :: second :: rest)).message ≠ ""
  := by
  intro h
  obtain ⟨-, hrest⟩ := String.append_eq_empty_iff.mp h
  exact absurd (String.append_eq_empty_iff.mp hrest).1 (by decide)

end Rejection

namespace Schema

/-! ## Empty unions -/

/-- The empty union, with a number of unions of a single alternative around it. -/
def emptyUnion : Nat → Schema
  | 0 => oneOf []
  | wraps + 1 => oneOf [emptyUnion wraps]

/-- The schemas that a schema is put together from. -/
def parts : Schema → List Schema
  | array item => [item]
  | indexed entries => entries.map Entry.schema
  | object properties => properties.map Property.schema
  | oneOf alternatives => alternatives
  | _ => []

/-- `Contains schema inner` says that `inner` stands in `schema`, at any depth. -/
inductive Contains : Schema → Schema → Prop where
  | whole {schema : Schema} : Contains schema schema
  | part {schema part inner : Schema} (mem : part ∈ schema.parts) (within : Contains part inner) :
    Contains schema inner

theorem contains_emptyUnion (wraps : Nat) :
  (emptyUnion wraps).Contains (oneOf [])
  := by
  induction wraps with
  | zero => apply Contains.whole
  | succ wraps ih => apply Contains.part List.mem_cons_self ih

/-- A schema of a declared kind is no union. -/
theorem ne_emptyUnion {schema : Schema} {kind : Kind} (h : schema.declaredKind = some kind)
    (wraps : Nat) :
  schema ≠ emptyUnion wraps
  := by
  rintro rfl
  cases wraps <;> cases h

/-! ## Silent rejections -/

variable {limit depth : Nat} {value : Option Json} {schema : Schema}

/-- Where the rejection is not that of a union, and the schema no empty union that there is room
for, neither side holds. -/
theorem message_eq_empty_iff_of {e : Rejection} (hreason : ∀ causes, e ≠ .noAlternative causes)
    (hschema : ∀ wraps, depth + wraps ≤ limit → schema ≠ emptyUnion wraps) :
  e.message = "" ↔ ∃ wraps, depth + wraps ≤ limit ∧ schema = emptyUnion wraps
  := by
  constructor
  · intro hmessage
    obtain ⟨causes, hcauses⟩ := Rejection.exists_of_message_eq_empty hmessage
    apply absurd hcauses (hreason causes)
  · rintro ⟨wraps, hroom, hunion⟩
    apply absurd hunion (hschema wraps hroom)

/-- A rejection at a depth says nothing exactly if the schema is an empty union in unions of a
single alternative, none of which is below the limit. -/
theorem Blames.message_eq_empty_iff {e : Rejection} (h : Blames limit depth schema value e) :
  e.message = "" ↔ ∃ wraps, depth + wraps ≤ limit ∧ schema = emptyUnion wraps
  := by
  induction h with
  | tooDeep below =>
      apply message_eq_empty_iff_of
      · rintro causes ⟨⟩
      · intro wraps hroom
        omega
  | mismatch within declared other =>
      apply message_eq_empty_iff_of
      · rintro causes ⟨⟩
      · intro wraps _
        apply ne_emptyUnion declared
  | element | entry | missing | required | optional =>
      apply message_eq_empty_iff_of
      · rintro causes ⟨⟩
      · intro wraps _
        apply ne_emptyUnion rfl
  | @union depth alternatives value causes within rejected blames ih =>
      cases rejected with
      | nil => exact iff_of_true rfl ⟨0, within, rfl⟩
      | @cons s cause _ _ _ others =>
          cases others with
          | nil =>
              rw [Rejection.message_noAlternative_singleton, ih s cause List.mem_cons_self]
              constructor
              · rintro ⟨wraps, hroom, rfl⟩
                exact ⟨wraps + 1, by omega, rfl⟩
              · rintro ⟨_ | wraps, hroom, ⟨⟩⟩
                exact ⟨wraps, by omega, rfl⟩
          | cons =>
              apply iff_of_false
              · apply Rejection.message_noAlternative_ne_empty
              · rintro ⟨_ | wraps, hroom, ⟨⟩⟩

/-- The message of a rejection is empty exactly if the schema is an empty union in unions of a
single alternative and all of them are visited; so no message is empty if there is no empty union
in the schema. -/
theorem validate_message_eq_empty_iff {schema : Schema} {limit : Nat} {v : Json} {e : Rejection}
    (h : schema.validate limit v = .error e) :
  (e.message = "" ↔ ∃ wraps, wraps + 1 ≤ limit ∧ schema = emptyUnion wraps) ∧
    ((∀ alternatives, schema.Contains (.oneOf alternatives) → alternatives ≠ []) → e.message ≠ "")
  := by
  have hmessage : e.message = "" ↔ ∃ wraps, wraps + 1 ≤ limit ∧ schema = emptyUnion wraps := by
    simp only [(blames_of_examine_eq_error h).message_eq_empty_iff, Nat.add_comm]
  use hmessage
  intro hunions hempty
  obtain ⟨wraps, -, rfl⟩ := hmessage.mp hempty
  apply hunions [] (contains_emptyUnion wraps) rfl

/-- An empty union in another one says nothing if both are visited, and that it is too deep if only
one is.  A union with an alternative in it always says something. -/
theorem emptyUnion_silent_at_two :
  (∃ e, (oneOf [oneOf []]).validate 2 .null = .error e ∧ e.message = "") ∧
    (∃ e, (oneOf [oneOf []]).validate 1 .null = .error e ∧ e.message ≠ "") ∧
    ∃ e, (oneOf [oneOf [string]]).validate 3 .null = .error e ∧ e.message ≠ ""
  := by
  have htwo : (oneOf [oneOf []]).validate 2 .null = .error (.noAlternative [.noAlternative []]) :=
    rfl
  have hone : (oneOf [oneOf []]).validate 1 .null = .error (.noAlternative [.tooDeep 1]) := rfl
  have hstring : (oneOf [oneOf [string]]).validate 3 .null
      = .error (.noAlternative [.noAlternative [mismatch (some .null) .string]]) := rfl
  and_intros
  · exact ⟨_, htwo, (validate_message_eq_empty_iff htwo).1.mpr ⟨1, by decide, rfl⟩⟩
  · refine ⟨_, hone, fun hempty => ?_⟩
    obtain ⟨wraps, hroom, hunion⟩ := (validate_message_eq_empty_iff hone).1.mp hempty
    obtain rfl : wraps = 0 := by omega
    cases hunion
  · refine ⟨_, hstring, (validate_message_eq_empty_iff hstring).2 ?_⟩
    rintro alternatives hcontains rfl
    obtain _ | ⟨hmem, hcontains⟩ := hcontains
    cases List.mem_singleton.mp hmem
    obtain _ | ⟨hmem, hcontains⟩ := hcontains
    cases List.mem_singleton.mp hmem
    obtain _ | ⟨hmem, hcontains⟩ := hcontains
    cases hmem

end Schema

end Assay

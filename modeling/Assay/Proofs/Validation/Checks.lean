import Assay.Proofs.Except
import Assay.Proofs.Schema.Induction
import Assay.Validation
import Mathlib.Data.List.Forall2
import Mathlib.Tactic.Common

/-!
# Validation as a list of checks

The elements, entries and properties of a schema are checks that run in order up to the
first that fails (`examine_array`, `examine_indexed`, `examine_object`), and the
alternatives of a union all run.  A list of checks passes when all of them pass
(`forM_eq_ok_iff`), and fails with what the first failing one says
(`exists_of_forM_eq_error`, `forM_append_cons`).  From this follows for every way of
putting schemas together when a value is admitted at a depth (`examine_array_eq_ok_iff`
and the theorems after it).
-/

namespace Assay

/-! ## Lists of checks -/

section

variable {α ε : Type} {check : α → Except ε Unit}

/-- A list of checks passes exactly when each of them does. -/
theorem forM_eq_ok_iff {l : List α} :
  forM l check = .ok () ↔ ∀ x ∈ l, check x = .ok ()
  := by
  induction l with
  | nil => simp [pure, Except.pure]
  | cons x rest ih =>
      rw [List.forM_cons, List.forall_mem_cons, ← ih]
      cases check x with
      | ok => simp [bind, Except.bind]
      | error => simp [bind, Except.bind]

/-- A failing check after passing ones decides a list of checks. -/
theorem forM_append_cons {before after : List α} {x : α} {cause : ε}
    (hbefore : ∀ y ∈ before, check y = .ok ()) (hx : check x = .error cause) :
  forM (before ++ x :: after) check = .error cause
  := by
  rw [List.forM_append, List.forM_cons, forM_eq_ok_iff.mpr hbefore, hx]
  rfl

/-- A list of checks that fails has a first check that fails. -/
theorem exists_of_forM_eq_error {l : List α} {cause : ε} (h : forM l check = .error cause) :
  ∃ before x after, l = before ++ x :: after ∧ (∀ y ∈ before, check y = .ok ()) ∧
    check x = .error cause
  := by
  induction l with
  | nil => cases h
  | cons x rest ih =>
      rw [List.forM_cons] at h
      cases hx : check x with
      | error c =>
          rw [hx] at h
          use [], x, rest, rfl, by simp
          rw [hx]
          exact h
      | ok =>
          rw [hx] at h
          obtain ⟨before, y, after, rfl, hbefore, hy⟩ := ih h
          use x :: before, y, after, rfl, List.forall_mem_cons.mpr ⟨hx, hbefore⟩

/-- If each check fails with another error, so does the list of them. -/
theorem forM_mapError {δ : Type} {f : ε → δ} {l : List α} {check' : α → Except δ Unit}
    (h : ∀ x ∈ l, check' x = (check x).mapError f) :
  forM l check' = (forM l check).mapError f
  := by
  induction l with
  | nil => rfl
  | cons x rest ih =>
      obtain ⟨hx, hrest⟩ := List.forall_mem_cons.mp h
      rw [List.forM_cons, List.forM_cons, hx, ih hrest]
      cases check x <;> rfl

end

/-! ## Elements -/

section

variable {examine : Json → Except Rejection Unit}

theorem firstFailure_eq_ok_iff {start : Nat} {items : List Json} :
  firstFailure examine start items = .ok () ↔ ∀ v ∈ items, examine v = .ok ()
  := by
  induction items generalizing start with
  | nil => simp [firstFailure]
  | cons v rest ih =>
      rw [firstFailure, List.forall_mem_cons]
      cases examine v with
      | ok => simp [ih]
      | error => simp

/-- The first element that fails, and what is said of it. -/
theorem firstFailure_eq_error_iff {start index : Nat} {items : List Json}
    {cause : Rejection} :
  firstFailure examine start items = .error (index, cause) ↔
    ∃ before v after, items = before ++ v :: after ∧ index = start + before.length ∧
      (∀ w ∈ before, examine w = .ok ()) ∧ examine v = .error cause
  := by
  induction items generalizing start with
  | nil => simp [firstFailure]
  | cons v rest ih =>
      rw [firstFailure]
      cases hv : examine v with
      | ok =>
          simp only [ih]
          constructor
          · rintro ⟨before, w, after, rfl, rfl, hbefore, hw⟩
            use v :: before, w, after, rfl
            use by simp; omega
            use List.forall_mem_cons.mpr ⟨hv, hbefore⟩
          · rintro ⟨before, w, after, h, rfl, hbefore, hw⟩
            cases before with
            | nil =>
                obtain ⟨rfl, -⟩ := List.cons.inj h
                cases hv.symm.trans hw
            | cons u before =>
                obtain ⟨rfl, rfl⟩ := List.cons.inj h
                use before, w, after, rfl
                use by simp; omega
                use fun x hx => hbefore x (List.mem_cons_of_mem _ hx)
      | error c =>
          constructor
          · intro h
            cases h
            use [], v, rest, rfl, rfl, by simp
          · rintro ⟨before, w, after, h, rfl, hbefore, hw⟩
            cases before with
            | nil =>
                obtain ⟨rfl, -⟩ := List.cons.inj h
                cases hv.symm.trans hw
                rfl
            | cons u before =>
                obtain ⟨rfl, -⟩ := List.cons.inj h
                cases hv.symm.trans (hbefore _ List.mem_cons_self)

/-- If each element fails with another rejection, so does the first that fails. -/
theorem firstFailure_mapError {f : Rejection → Rejection} {items : List Json}
    {examine' : Json → Except Rejection Unit}
    (h : ∀ v ∈ items, examine' v = (examine v).mapError f) (start : Nat) :
  firstFailure examine' start items
    = (firstFailure examine start items).mapError fun failure => (failure.1, f failure.2)
  := by
  induction items generalizing start with
  | nil => rfl
  | cons v rest ih =>
      obtain ⟨hv, hrest⟩ := List.forall_mem_cons.mp h
      rw [firstFailure, firstFailure, hv]
      cases examine v with
      | ok => exact ih hrest (start + 1)
      | error cause => rfl

end

/-! ## Kinds -/

theorem Kind.of_eq_array_iff {value : Option Json} :
  Kind.of value = .array ↔ ∃ items, value = some (.array items)
  := by
  constructor
  · intro h
    match value, h with
    | some (.array items), _ => exact ⟨items, rfl⟩
  · rintro ⟨items, rfl⟩
    rfl

theorem Kind.of_eq_object_iff {value : Option Json} :
  Kind.of value = .object ↔ ∃ members, value = some (.object members)
  := by
  constructor
  · intro h
    match value, h with
    | some (.object members), _ => exact ⟨members, rfl⟩
  · rintro ⟨members, rfl⟩
    rfl

namespace Schema

variable {limit depth : Nat} {value : Option Json}

/-! ## Entries, properties and alternatives -/

/-- The check of an array for an entry. -/
def checkEntry (limit depth : Nat) (items : List Json) (e : Entry Schema) :
    Except Rejection Unit :=
  (examine limit (depth + 1) items[e.index]? e.schema).mapError (atIndex items e.index)

/-- The check of an object for a property. -/
def checkProperty (limit depth : Nat) (object : Json) (p : Property Schema) :
    Except Rejection Unit :=
  match object.member? p.key with
  | none =>
    match p.presence with
    | .optional => .ok ()
    | .required => .error (.missingProperty (render (some object)) (renderKey p.key))
  | some v =>
    (examine limit (depth + 1) (some v) p.schema).mapError (atProperty object p.presence p.key)

/-- A property is met by a member that its schema admits, and an optional one also by the
lack of a member. -/
def Met (limit depth : Nat) (members : List (String × Json)) (p : Property Schema) : Prop :=
  (∃ v, members.lookup p.key = some v ∧
      examine limit (depth + 1) (some v) p.schema = .ok ()) ∨
    p.presence = .optional ∧ members.lookup p.key = none

theorem examineEntries_eq_forM {items : List Json} {entries : List (Entry Schema)} :
  examineEntries limit depth items entries = forM entries (checkEntry limit depth items)
  := by
  induction entries with
  | nil => rfl
  | cons e rest ih =>
      rw [examineEntries, List.forM_cons, checkEntry, ih]
      cases examine limit (depth + 1) items[e.index]? e.schema with
      | ok => rfl
      | error => rfl

theorem examineProperties_eq_forM {object : Json} {properties : List (Property Schema)} :
  examineProperties limit depth object properties
    = forM properties (checkProperty limit depth object)
  := by
  induction properties with
  | nil => rfl
  | cons p rest ih =>
      rw [examineProperties, List.forM_cons, checkProperty, ih]
      cases object.member? p.key with
      | none => cases p.presence <;> rfl
      | some v =>
          dsimp only
          cases examine limit (depth + 1) (some v) p.schema <;> rfl

/-- A union admits a value exactly when one of its alternatives does. -/
theorem examineAlternatives_eq_none_iff {alternatives : List Schema} :
  examineAlternatives limit depth value alternatives = none ↔
    ∃ s ∈ alternatives, examine limit (depth + 1) value s = .ok ()
  := by
  induction alternatives with
  | nil => simp [examineAlternatives]
  | cons s rest ih =>
      rw [examineAlternatives, List.exists_mem_cons_iff, ← ih]
      cases examine limit (depth + 1) value s with
      | ok => simp
      | error => cases examineAlternatives limit depth value rest <;> simp

/-- A union rejects a value with the rejections of all of its alternatives, in order. -/
theorem examineAlternatives_eq_some_iff {alternatives : List Schema}
    {causes : List Rejection} :
  examineAlternatives limit depth value alternatives = some causes ↔
    List.Forall₂ (fun s cause => examine limit (depth + 1) value s = .error cause)
      alternatives causes
  := by
  induction alternatives generalizing causes with
  | nil => simp [examineAlternatives, eq_comm]
  | cons s rest ih =>
      rw [examineAlternatives, List.forall₂_cons_left_iff]
      cases examine limit (depth + 1) value s with
      | ok => simp
      | error =>
          simp only [← ih, Except.error.injEq, exists_and_left, exists_eq_left']
          cases examineAlternatives limit depth value rest with
          | none => simp
          | some => simp [eq_comm]

/-! ## What is examined -/

/-- The schema goes below the limit, or the value is not of the declared kind, or there is room for
the schema and the value is of the declared kind. -/
theorem below_or_other_or_fits (limit depth : Nat) (value : Option Json) (schema : Schema) :
  limit < depth ∨
    (depth ≤ limit ∧ ∃ kind, schema.declaredKind = some kind ∧ Kind.of value ≠ kind) ∨
    depth ≤ limit ∧ ∀ kind, schema.declaredKind = some kind → Kind.of value = kind
  := by
  obtain below | within := Nat.lt_or_ge limit depth
  · exact .inl below
  · by_cases hkind : ∀ kind, schema.declaredKind = some kind → Kind.of value = kind
    · exact .inr (.inr ⟨within, hkind⟩)
    · obtain ⟨kind, hkind⟩ := not_forall.mp hkind
      exact .inr (.inl ⟨within, kind, Classical.not_imp.mp hkind⟩)

theorem examine_tooDeep (h : limit < depth) (schema : Schema) :
  examine limit depth value schema = .error (.tooDeep limit)
  := by
  rw [examine.eq_def, if_pos h]

/-- A value that is not of the declared kind is rejected for its kind. -/
theorem examine_mismatch (h : depth ≤ limit) {schema : Schema} {kind : Kind}
    (hkind : schema.declaredKind = some kind) (hvalue : Kind.of value ≠ kind) :
  examine limit depth value schema = .error (mismatch value kind)
  := by
  rw [examine.eq_def, if_neg (Nat.not_lt.mpr h)]
  cases schema with
  | oneOf => cases hkind
  | string | number | boolean | null =>
      cases hkind
      exact if_neg hvalue
  | array | indexed | object =>
      cases hkind
      dsimp only
      split
      · apply absurd rfl hvalue
      · rfl

theorem examine_scalar (h : depth ≤ limit) {schema : Schema} {kind : Kind}
    (hkind : scalarKind? schema = some kind) (hvalue : Kind.of value = kind) :
  examine limit depth value schema = .ok ()
  := by
  rw [examine.eq_def, if_neg (Nat.not_lt.mpr h)]
  cases schema <;> cases hkind <;> exact if_pos hvalue

theorem examine_array (h : depth ≤ limit) (items : List Json) (item : Schema) :
  examine limit depth (some (.array items)) (array item)
    = (firstFailure (fun v => examine limit (depth + 1) (some v) item) 0 items).mapError
        fun failure => atIndex items failure.1 failure.2
  := by
  rw [examine, if_neg (Nat.not_lt.mpr h)]
  cases firstFailure (fun v => examine limit (depth + 1) (some v) item) 0 items <;> rfl

theorem examine_indexed (h : depth ≤ limit) (items : List Json)
    (entries : List (Entry Schema)) :
  examine limit depth (some (.array items)) (indexed entries)
    = forM entries (checkEntry limit depth items)
  := by
  rw [examine, if_neg (Nat.not_lt.mpr h)]
  apply examineEntries_eq_forM

theorem examine_object (h : depth ≤ limit) (members : List (String × Json))
    (properties : List (Property Schema)) :
  examine limit depth (some (.object members)) (object properties)
    = forM properties (checkProperty limit depth (.object members))
  := by
  rw [examine, if_neg (Nat.not_lt.mpr h)]
  apply examineProperties_eq_forM

/-- A union that does not admit a value is left with the rejections of its alternatives. -/
theorem examine_oneOf (h : depth ≤ limit) (alternatives : List Schema) :
  examine limit depth value (oneOf alternatives)
    = match examineAlternatives limit depth value alternatives with
      | none => .ok ()
      | some causes => .error (.noAlternative causes)
  := by
  rw [examine]
  apply if_neg (Nat.not_lt.mpr h)

/-! ## What is admitted -/

theorem le_of_examine_eq_ok {schema : Schema} (h : examine limit depth value schema = .ok ()) :
  depth ≤ limit
  := by
  apply Nat.not_lt.mp
  intro hlt
  rw [examine_tooDeep hlt] at h
  cases h

/-- An admitted value is of the declared kind. -/
theorem kind_of_examine_eq_ok {schema : Schema} {kind : Kind}
    (hkind : schema.declaredKind = some kind)
    (h : examine limit depth value schema = .ok ()) :
  Kind.of value = kind
  := by
  by_contra hvalue
  rw [examine_mismatch (le_of_examine_eq_ok h) hkind hvalue] at h
  cases h

theorem examine_scalar_eq_ok_iff {schema : Schema} {kind : Kind}
    (hkind : scalarKind? schema = some kind) :
  examine limit depth value schema = .ok () ↔ depth ≤ limit ∧ Kind.of value = kind
  := by
  constructor
  · intro h
    exact ⟨le_of_examine_eq_ok h, kind_of_examine_eq_ok (declaredKind_of_scalarKind? hkind) h⟩
  · rintro ⟨hle, hvalue⟩
    apply examine_scalar hle hkind hvalue

theorem examine_array_eq_ok_iff {item : Schema} :
  examine limit depth value (array item) = .ok () ↔
    depth ≤ limit ∧ ∃ items, value = some (.array items) ∧
      ∀ v ∈ items, examine limit (depth + 1) (some v) item = .ok ()
  := by
  constructor
  · intro h
    have hle := le_of_examine_eq_ok h
    obtain ⟨items, rfl⟩ := Kind.of_eq_array_iff.mp (kind_of_examine_eq_ok rfl h)
    rw [examine_array hle, mapError_eq_ok_iff, firstFailure_eq_ok_iff] at h
    exact ⟨hle, items, rfl, h⟩
  · rintro ⟨hle, items, rfl, hitems⟩
    rw [examine_array hle, mapError_eq_ok_iff, firstFailure_eq_ok_iff]
    exact hitems

theorem examine_indexed_eq_ok_iff {entries : List (Entry Schema)} :
  examine limit depth value (indexed entries) = .ok () ↔
    depth ≤ limit ∧ ∃ items, value = some (.array items) ∧
      ∀ e ∈ entries, examine limit (depth + 1) items[e.index]? e.schema = .ok ()
  := by
  constructor
  · intro h
    have hle := le_of_examine_eq_ok h
    obtain ⟨items, rfl⟩ := Kind.of_eq_array_iff.mp (kind_of_examine_eq_ok rfl h)
    rw [examine_indexed hle, forM_eq_ok_iff] at h
    exact ⟨hle, items, rfl, fun e he => mapError_eq_ok_iff.mp (h e he)⟩
  · rintro ⟨hle, items, rfl, hentries⟩
    rw [examine_indexed hle, forM_eq_ok_iff]
    intro e he
    apply mapError_eq_ok_iff.mpr (hentries e he)

theorem checkProperty_eq_ok_iff {members : List (String × Json)} {p : Property Schema} :
  checkProperty limit depth (.object members) p = .ok () ↔ Met limit depth members p
  := by
  rw [checkProperty, Json.member?, Met]
  cases members.lookup p.key with
  | none => cases p.presence <;> simp
  | some v => simp [mapError_eq_ok_iff]

/-- An object fails the check for a property if it lacks a required member, or if its
member is not admitted. -/
theorem checkProperty_eq_error_iff {members : List (String × Json)} {p : Property Schema}
    {e : Rejection} :
  checkProperty limit depth (.object members) p = .error e ↔
    (p.presence = .required ∧ members.lookup p.key = none ∧
      e = .missingProperty (render (some (.object members))) (renderKey p.key)) ∨
    ∃ v cause, members.lookup p.key = some v ∧
      examine limit (depth + 1) (some v) p.schema = .error cause ∧
      e = atProperty (.object members) p.presence p.key cause
  := by
  rw [checkProperty, Json.member?]
  cases members.lookup p.key with
  | none => cases p.presence <;> simp [eq_comm]
  | some v => simp [mapError_eq_error_iff]

theorem examine_object_eq_ok_iff {properties : List (Property Schema)} :
  examine limit depth value (object properties) = .ok () ↔
    depth ≤ limit ∧ ∃ members, value = some (.object members) ∧
      ∀ p ∈ properties, Met limit depth members p
  := by
  constructor
  · intro h
    have hle := le_of_examine_eq_ok h
    obtain ⟨members, rfl⟩ := Kind.of_eq_object_iff.mp (kind_of_examine_eq_ok rfl h)
    rw [examine_object hle, forM_eq_ok_iff] at h
    exact ⟨hle, members, rfl, fun p hp => checkProperty_eq_ok_iff.mp (h p hp)⟩
  · rintro ⟨hle, members, rfl, hproperties⟩
    rw [examine_object hle, forM_eq_ok_iff]
    intro p hp
    apply checkProperty_eq_ok_iff.mpr (hproperties p hp)

theorem examine_oneOf_eq_ok_iff {alternatives : List Schema} :
  examine limit depth value (oneOf alternatives) = .ok () ↔
    depth ≤ limit ∧ ∃ s ∈ alternatives, examine limit (depth + 1) value s = .ok ()
  := by
  rw [← examineAlternatives_eq_none_iff]
  constructor
  · intro h
    have hle := le_of_examine_eq_ok h
    rw [examine_oneOf hle] at h
    use hle
    split at h
    next hnone => exact hnone
    next => cases h
  · rintro ⟨hle, hnone⟩
    rw [examine_oneOf hle, hnone]

/-- A union rejects a value with the rejections of all of its alternatives, in order. -/
theorem examine_oneOf_eq_error_iff (h : depth ≤ limit) {alternatives : List Schema}
    {e : Rejection} :
  examine limit depth value (oneOf alternatives) = .error e ↔
    ∃ causes, List.Forall₂ (fun s cause => examine limit (depth + 1) value s = .error cause)
      alternatives causes ∧ e = .noAlternative causes
  := by
  simp only [← examineAlternatives_eq_some_iff]
  rw [examine_oneOf h]
  cases examineAlternatives limit depth value alternatives <;> simp [eq_comm]

/-- An absent value is not admitted by any schema. -/
theorem examine_none_ne_ok (schema : Schema) :
  examine limit depth none schema ≠ .ok ()
  := by
  intro h
  induction schema using induction generalizing depth with
  | scalar schema kind hkind =>
      obtain ⟨-, rfl⟩ := (examine_scalar_eq_ok_iff hkind).mp h
      cases schema <;> cases hkind
  | array | indexed | object => cases kind_of_examine_eq_ok rfl h
  | oneOf alternatives ih =>
      obtain ⟨-, s, hs, hok⟩ := examine_oneOf_eq_ok_iff.mp h
      apply ih s hs hok

end Schema

end Assay

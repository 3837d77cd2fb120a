import Assay.Proofs.Rejection.Texts
import Assay.Proofs.Validation.Checks
import Mathlib.Data.Option.Basic

/-!
# Values that look alike

When an examination cannot tell two values apart.  A relation between values is a
`Lookalike` if related values are of the same kind, with related elements and with related
members of the keys in question.  Then related values are admitted alike, and rejected
alike up to the texts in the rejections (`examine_lookalike`).
-/

namespace Assay

/-! ## Lists of checks -/

theorem forM_congr {α ε : Type} {check check' : α → Except ε Unit} {l : List α}
    (h : ∀ x ∈ l, check x = check' x) :
  forM l check = forM l check'
  := by
  induction l with
  | nil => rfl
  | cons x rest ih =>
      obtain ⟨hx, hrest⟩ := List.forall_mem_cons.mp h
      rw [List.forM_cons, List.forM_cons, hx, ih hrest]

/-- Lists of checks that fail alike one by one fail alike. -/
theorem forM_mapError_congr {α ε δ : Type} {f : ε → δ} {check check' : α → Except ε Unit}
    {l : List α} (h : ∀ x ∈ l, (check x).mapError f = (check' x).mapError f) :
  (forM l check).mapError f = (forM l check').mapError f
  := by
  rw [← forM_mapError fun x _ => rfl, forM_congr h, forM_mapError fun x _ => rfl]

/-- Lists of elements that fail alike one by one have the first failure alike. -/
theorem firstFailure_congr {examine examine' : Json → Except Rejection Unit}
    {items items' : List Json}
    (h : List.Forall₂ (fun v w => examine v = examine' w) items items') (start : Nat) :
  firstFailure examine start items = firstFailure examine' start items'
  := by
  induction h generalizing start with
  | nil => rfl
  | cons hv _ ih => rw [firstFailure, firstFailure, hv, ih]

/-- Lists that are related item by item have related items at every index. -/
theorem rel_getElem? {α β : Type} {R : α → β → Prop} {xs : List α} {ys : List β}
    (h : List.Forall₂ R xs ys) (i : Nat) :
  Option.Rel R xs[i]? ys[i]?
  := by
  induction h generalizing i with
  | nil => apply Option.Rel.none
  | cons hxy _ ih =>
      cases i with
      | zero => apply Option.Rel.some hxy
      | succ i =>
          rw [List.getElem?_cons_succ, List.getElem?_cons_succ]
          apply ih i

/-! ## Keys -/

namespace Schema

open Rejection (mapTexts)

mutual

/-- The keys of the properties anywhere in a schema. -/
def keys : Schema → List String
  | array item => keys item
  | indexed entries => entriesKeys entries
  | object properties => propertiesKeys properties
  | oneOf alternatives => alternativesKeys alternatives
  | _ => []

def entriesKeys : List (Entry Schema) → List String
  | [] => []
  | e :: rest => keys e.schema ++ entriesKeys rest

def propertiesKeys : List (Property Schema) → List String
  | [] => []
  | p :: rest => p.key :: keys p.schema ++ propertiesKeys rest

def alternativesKeys : List Schema → List String
  | [] => []
  | s :: rest => keys s ++ alternativesKeys rest

end

variable {k : String}

theorem mem_entriesKeys_iff {entries : List (Entry Schema)} :
  k ∈ entriesKeys entries ↔ ∃ e ∈ entries, k ∈ e.schema.keys
  := by
  induction entries with
  | nil => simp [entriesKeys]
  | cons e rest ih => rw [entriesKeys, List.mem_append, ih, List.exists_mem_cons_iff]

theorem mem_propertiesKeys_iff {properties : List (Property Schema)} :
  k ∈ propertiesKeys properties ↔ ∃ p ∈ properties, k = p.key ∨ k ∈ p.schema.keys
  := by
  induction properties with
  | nil => simp [propertiesKeys]
  | cons p rest ih =>
      rw [propertiesKeys, List.cons_append, List.mem_cons, List.mem_append, ih,
        List.exists_mem_cons_iff, or_assoc]

theorem mem_alternativesKeys_iff {alternatives : List Schema} :
  k ∈ alternativesKeys alternatives ↔ ∃ s ∈ alternatives, k ∈ s.keys
  := by
  induction alternatives with
  | nil => simp [alternativesKeys]
  | cons s rest ih => rw [alternativesKeys, List.mem_append, ih, List.exists_mem_cons_iff]

/-! ## Examinations side by side -/

/-- Related values look alike to schemas with some keys.  The texts of related values are
the same after `g`. -/
structure Lookalike (declared : String → Prop) (g : String → String)
    (R : Json → Json → Prop) : Prop where
  kind : ∀ {v w}, R v w → Kind.of (some v) = Kind.of (some w)
  text : ∀ {v w}, R v w → g (render (some v)) = g (render (some w))
  elements : ∀ {items items'}, R (.array items) (.array items') → List.Forall₂ R items items'
  members : ∀ {members members'}, R (.object members) (.object members') →
    ∀ k, declared k → Option.Rel R (members.lookup k) (members'.lookup k)

variable {declared : String → Prop} {g : String → String} {R : Json → Json → Prop}
  {limit depth : Nat} {v w : Option Json}

namespace Lookalike

theorem kind_eq (hR : Lookalike declared g R) (h : Option.Rel R v w) :
  Kind.of v = Kind.of w
  := by
  cases h with
  | none => rfl
  | some h => apply hR.kind h

theorem text_eq (hR : Lookalike declared g R) (h : Option.Rel R v w) :
  g (render v) = g (render w)
  := by
  cases h with
  | none => rfl
  | some h => apply hR.text h

/-- What looks like an array is an array of elements that look alike. -/
theorem exists_array (hR : Lookalike declared g R) {items : List Json}
    (h : Option.Rel R (some (.array items)) w) :
  ∃ items', w = some (.array items') ∧ R (.array items) (.array items')
  := by
  obtain ⟨items', rfl⟩ := Kind.of_eq_array_iff.mp (hR.kind_eq h).symm
  cases h with
  | some h => use items', rfl, h

/-- What looks like an object is an object of members that look alike. -/
theorem exists_object (hR : Lookalike declared g R) {members : List (String × Json)}
    (h : Option.Rel R (some (.object members)) w) :
  ∃ members', w = some (.object members') ∧ R (.object members) (.object members')
  := by
  obtain ⟨members', rfl⟩ := Kind.of_eq_object_iff.mp (hR.kind_eq h).symm
  cases h with
  | some h => use members', rfl, h

end Lookalike

/-- Steps to an index are alike if the arrays and the causes are. -/
theorem mapTexts_atIndex_congr {items items' : List Json} {cause cause' : Rejection}
    (htext : g (render (some (.array items))) = g (render (some (.array items'))))
    (hcause : cause.mapTexts g = cause'.mapTexts g) (index : Nat) :
  (atIndex items index cause).mapTexts g = (atIndex items' index cause').mapTexts g
  := by
  have hstep : ∀ items cause, (atIndex items index cause).mapTexts g
      = .atIndex (cause.mapTexts g) index (g (render (some (.array items)))) := fun _ _ => rfl
  rw [hstep, hstep, hcause, htext]

/-- Steps to a property are alike if the objects and the causes are. -/
theorem mapTexts_atProperty_congr {object object' : Json} {cause cause' : Rejection}
    (htext : g (render (some object)) = g (render (some object')))
    (hcause : cause.mapTexts g = cause'.mapTexts g) (presence : Presence) (key : String) :
  (atProperty object presence key cause).mapTexts g
    = (atProperty object' presence key cause').mapTexts g
  := by
  cases presence <;> rw [atProperty, atProperty, mapTexts, mapTexts, htext, hcause]

/-- Values that look alike are examined alike if they are wherever there is room for the schema
and the value is of the declared kind. -/
theorem Lookalike.examine_of (hR : Lookalike declared g R) (hvw : Option.Rel R v w)
    {schema : Schema}
    (h : depth ≤ limit → (∀ kind, schema.declaredKind = some kind → Kind.of v = kind) →
      (examine limit depth v schema).mapError (mapTexts g)
        = (examine limit depth w schema).mapError (mapTexts g)) :
  (examine limit depth v schema).mapError (mapTexts g)
    = (examine limit depth w schema).mapError (mapTexts g)
  := by
  obtain below | ⟨within, kind, declared, other⟩ | ⟨within, hkind⟩ :=
    below_or_other_or_fits limit depth v schema
  · rw [examine_tooDeep below, examine_tooDeep below]
  · have other' : Kind.of w ≠ kind := by
      rw [← hR.kind_eq hvw]
      exact other
    rw [examine_mismatch within declared other, examine_mismatch within declared other']
    apply congrArg (fun text => Except.error (Rejection.typeMismatch text (renderKind kind)))
    apply hR.text_eq hvw
  · apply h within hkind

/-- If the alternatives examine two values alike, so does the union. -/
theorem examineAlternatives_congr {alternatives : List Schema}
    (h : ∀ s ∈ alternatives, (examine limit (depth + 1) v s).mapError (mapTexts g)
      = (examine limit (depth + 1) w s).mapError (mapTexts g)) :
  (examineAlternatives limit depth v alternatives).map (List.map (mapTexts g))
    = (examineAlternatives limit depth w alternatives).map (List.map (mapTexts g))
  := by
  induction alternatives with
  | nil => rfl
  | cons s rest ih =>
      obtain ⟨hs, hrest⟩ := List.forall_mem_cons.mp h
      have ih := ih hrest
      rw [examineAlternatives, examineAlternatives]
      cases hv : examine limit (depth + 1) v s with
      | ok =>
          cases hw : examine limit (depth + 1) w s with
          | ok => rfl
          | error => simp [hv, hw, Except.mapError] at hs
      | error cause =>
          cases hw : examine limit (depth + 1) w s with
          | ok => simp [hv, hw, Except.mapError] at hs
          | error cause' =>
              simp only [hv, hw, Except.mapError, Except.error.injEq] at hs
              cases hv' : examineAlternatives limit depth v rest <;>
                cases hw' : examineAlternatives limit depth w rest <;> simp_all

/-- If the schema of a property examines members alike, so does the property. -/
theorem checkProperty_congr (hR : Lookalike declared g R) {members members' : List (String × Json)}
    (hobject : R (.object members) (.object members')) {p : Property Schema}
    (hkey : declared p.key)
    (h : ∀ {v w}, R v w → (examine limit (depth + 1) (some v) p.schema).mapError (mapTexts g)
      = (examine limit (depth + 1) (some w) p.schema).mapError (mapTexts g)) :
  (checkProperty limit depth (.object members) p).mapError (mapTexts g)
    = (checkProperty limit depth (.object members') p).mapError (mapTexts g)
  := by
  have htext := hR.text hobject
  have hmember := hR.members hobject p.key hkey
  rw [checkProperty, checkProperty, Json.member?, Json.member?]
  generalize members.lookup p.key = v, members'.lookup p.key = w at hmember
  cases hmember with
  | none =>
      cases p.presence with
      | optional => rfl
      | required =>
          exact congrArg
            (fun text => Except.error (Rejection.missingProperty text (renderKey p.key))) htext
  | some hvw =>
      dsimp only
      rw [mapError_mapError, mapError_mapError]
      apply mapError_congr (h hvw)
      intro cause cause' hcause
      apply mapTexts_atProperty_congr htext hcause

/-- Values that look alike to the keys of a schema are admitted alike, or rejected alike up to
the texts. -/
theorem examine_lookalike (hR : Lookalike declared g R) {schema : Schema}
    (hkeys : ∀ k ∈ schema.keys, declared k) (hvw : Option.Rel R v w) :
  (examine limit depth v schema).mapError (mapTexts g)
    = (examine limit depth w schema).mapError (mapTexts g)
  := by
  -- Both examinations take the same branch; only the parts are left to compare.
  induction schema using induction generalizing depth v w with
  | scalar schema kind hscalar =>
      apply hR.examine_of hvw
      intro within hkind
      have hv := hkind kind (declaredKind_of_scalarKind? hscalar)
      have hw := (hR.kind_eq hvw).symm.trans hv
      rw [examine_scalar within hscalar hv, examine_scalar within hscalar hw]
  | array item ih =>
      apply hR.examine_of hvw
      intro within hkind
      obtain ⟨items, rfl⟩ := Kind.of_eq_array_iff.mp (hkind .array rfl)
      obtain ⟨items', rfl, harray⟩ := hR.exists_array hvw
      have hitems : List.Forall₂
          (fun v w => (examine limit (depth + 1) (some v) item).mapError (mapTexts g)
            = (examine limit (depth + 1) (some w) item).mapError (mapTexts g)) items items' :=
        (hR.elements harray).imp fun _ _ h => ih hkeys (.some h)
      have hfailure := firstFailure_congr hitems 0
      rw [firstFailure_mapError fun _ _ => rfl, firstFailure_mapError fun _ _ => rfl] at hfailure
      rw [examine_array within, examine_array within, mapError_mapError, mapError_mapError]
      apply mapError_congr hfailure
      rintro ⟨index, cause⟩ ⟨index', cause'⟩ heq
      obtain ⟨rfl, hcause⟩ := Prod.mk.inj heq
      apply mapTexts_atIndex_congr (hR.text harray) hcause
  | indexed entries ih =>
      apply hR.examine_of hvw
      intro within hkind
      obtain ⟨items, rfl⟩ := Kind.of_eq_array_iff.mp (hkind .array rfl)
      obtain ⟨items', rfl, harray⟩ := hR.exists_array hvw
      rw [examine_indexed within, examine_indexed within]
      apply forM_mapError_congr
      intro e he
      have hentry : ∀ k ∈ e.schema.keys, declared k := fun k hk =>
        hkeys k (mem_entriesKeys_iff.mpr ⟨e, he, hk⟩)
      have hitem := rel_getElem? (hR.elements harray) e.index
      rw [checkEntry, checkEntry, mapError_mapError, mapError_mapError]
      apply mapError_congr (ih e he hentry hitem)
      intro cause cause' hcause
      apply mapTexts_atIndex_congr (hR.text harray) hcause
  | object properties ih =>
      apply hR.examine_of hvw
      intro within hkind
      obtain ⟨members, rfl⟩ := Kind.of_eq_object_iff.mp (hkind .object rfl)
      obtain ⟨members', rfl, hobject⟩ := hR.exists_object hvw
      rw [examine_object within, examine_object within]
      apply forM_mapError_congr
      intro p hp
      have hkey := hkeys _ (mem_propertiesKeys_iff.mpr ⟨p, hp, .inl rfl⟩)
      have hproperty : ∀ k ∈ p.schema.keys, declared k := fun k hk =>
        hkeys k (mem_propertiesKeys_iff.mpr ⟨p, hp, .inr hk⟩)
      apply checkProperty_congr hR hobject hkey
      intro x y hxy
      apply ih p hp hproperty (.some hxy)
  | oneOf alternatives ih =>
      apply hR.examine_of hvw
      intro within _
      have halternatives : (examineAlternatives limit depth v alternatives).map
          (List.map (mapTexts g))
            = (examineAlternatives limit depth w alternatives).map (List.map (mapTexts g)) := by
        apply examineAlternatives_congr
        intro s hs
        apply ih s hs _ hvw
        intro k hk
        apply hkeys k (mem_alternativesKeys_iff.mpr ⟨s, hs, hk⟩)
      rw [examine_oneOf within, examine_oneOf within]
      generalize examineAlternatives limit depth v alternatives = x,
        examineAlternatives limit depth w alternatives = y at halternatives
      cases x <;> cases y <;> simp_all [Except.mapError, mapTexts, Rejection.mapTextsAll_eq_map]

end Schema

end Assay

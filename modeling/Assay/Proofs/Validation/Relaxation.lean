import Assay.Proofs.Validation.Checks
import Mathlib.Data.List.Perm.Subperm

/-!
# Relaxed schemas

A schema is relaxed by asking for less: required properties become optional, properties and
entries are dropped, and unions get further alternatives, at any number of places at once.
What a schema admits its relaxations admit as well, below the same limit
(`validate_eq_ok_of_relaxes`).
-/

namespace Assay.Schema

mutual

/-- `Relaxes s t` says that `t` is `s` or a relaxation of it. -/
inductive Relaxes : Schema → Schema → Prop where
  | refl (s : Schema) : Relaxes s s
  | array {item item' : Schema} (part : Relaxes item item') : Relaxes (.array item) (.array item')
  /-- Entries are dropped and put into another order, and those that are kept are relaxed. -/
  | indexed {entries kept entries' : List (Entry Schema)} (drop : kept.Subperm entries)
    (parts : List.Forall₂ RelaxesEntry kept entries') :
    Relaxes (.indexed entries) (.indexed entries')
  /-- Properties are dropped and put into another order, and those that are kept are relaxed. -/
  | object {properties kept properties' : List (Property Schema)} (drop : kept.Subperm properties)
    (parts : List.Forall₂ RelaxesProperty kept properties') :
    Relaxes (.object properties) (.object properties')
  /-- Alternatives are relaxed, and then others are added and all put into another order. -/
  | oneOf {alternatives kept alternatives' : List Schema}
    (parts : List.Forall₂ Relaxes alternatives kept) (add : kept.Subperm alternatives') :
    Relaxes (.oneOf alternatives) (.oneOf alternatives')

/-- The schema of an entry is relaxed. -/
inductive RelaxesEntry : Entry Schema → Entry Schema → Prop where
  | entry {index : Nat} {s t : Schema} (part : Relaxes s t) : RelaxesEntry ⟨index, s⟩ ⟨index, t⟩

/-- The schema of a property is relaxed, and a required one may become optional. -/
inductive RelaxesProperty : Property Schema → Property Schema → Prop where
  | property {presence : Presence} {key : String} {s t : Schema} (part : Relaxes s t) :
    RelaxesProperty ⟨presence, key, s⟩ ⟨presence, key, t⟩
  | optional {presence : Presence} {key : String} {s t : Schema} (part : Relaxes s t) :
    RelaxesProperty ⟨presence, key, s⟩ ⟨.optional, key, t⟩

end

variable {limit depth : Nat} {value : Option Json}

/-- What meets a property meets its relaxations, if this holds of schemas. -/
theorem Met.of_relaxes {members : List (String × Json)} {p q : Property Schema}
    (h : RelaxesProperty p q)
    (hschema : Relaxes p.schema q.schema → ∀ v,
      examine limit (depth + 1) (some v) p.schema = .ok () →
        examine limit (depth + 1) (some v) q.schema = .ok ())
    (hmet : Met limit depth members p) :
  Met limit depth members q
  := by
  cases h with
  | property part =>
      obtain ⟨v, present, admitted⟩ | absent := hmet
      · exact .inl ⟨v, present, hschema part v admitted⟩
      · exact .inr absent
  | optional part =>
      obtain ⟨v, present, admitted⟩ | ⟨-, absent⟩ := hmet
      · exact .inl ⟨v, present, hschema part v admitted⟩
      · exact .inr ⟨rfl, absent⟩

/-- What is admitted at a depth is admitted by relaxations at the same depth. -/
theorem examine_eq_ok_of_relaxes {s t : Schema} (h : Relaxes s t)
    (hok : examine limit depth value s = .ok ()) :
  examine limit depth value t = .ok ()
  := by
  -- What is asked of a part of `t` is asked of some part of `s`; for a union it is the other
  -- way round, and an alternative of `t` that is new is never needed.
  induction s using induction generalizing t depth value with
  | scalar s kind hkind =>
      cases h with
      | refl => exact hok
      | array | indexed | object | oneOf => cases hkind
  | array item ih =>
      cases h with
      | refl => exact hok
      | array part =>
          obtain ⟨within, items, hvalue, hitems⟩ := examine_array_eq_ok_iff.mp hok
          apply examine_array_eq_ok_iff.mpr
          use within, items, hvalue
          intro v hv
          apply ih part (hitems v hv)
  | indexed entries ih =>
      cases h with
      | refl => exact hok
      | indexed drop parts =>
          obtain ⟨within, items, hvalue, hentries⟩ := examine_indexed_eq_ok_iff.mp hok
          apply examine_indexed_eq_ok_iff.mpr
          use within, items, hvalue
          intro f hf
          obtain ⟨e, he, ⟨part⟩⟩ := exists_of_forall₂ parts hf
          have he := drop.subset he
          apply ih _ he part (hentries _ he)
  | object properties ih =>
      cases h with
      | refl => exact hok
      | object drop parts =>
          obtain ⟨within, members, hvalue, hproperties⟩ := examine_object_eq_ok_iff.mp hok
          apply examine_object_eq_ok_iff.mpr
          use within, members, hvalue
          intro q hq
          obtain ⟨p, hp, hrelaxes⟩ := exists_of_forall₂ parts hq
          have hp := drop.subset hp
          apply Met.of_relaxes hrelaxes _ (hproperties p hp)
          intro part v
          apply ih p hp part
  | oneOf alternatives ih =>
      cases h with
      | refl => exact hok
      | oneOf parts add =>
          obtain ⟨within, s, hs, admitted⟩ := examine_oneOf_eq_ok_iff.mp hok
          obtain ⟨t, ht, part⟩ := exists_of_forall₂ parts.flip hs
          exact examine_oneOf_eq_ok_iff.mpr ⟨within, t, add.subset ht, ih s hs part admitted⟩

/-- A value that a schema admits below a limit is admitted below it by every relaxation. -/
theorem validate_eq_ok_of_relaxes {s t : Schema} (h : Relaxes s t) {limit : Nat} {v : Json}
    (hok : s.validate limit v = .ok ()) :
  t.validate limit v = .ok ()
  := examine_eq_ok_of_relaxes h hok

/-- A pair of a number and a string, and null. -/
def pairAndNull : Schema :=
  .object [⟨.required, "a", .indexed [⟨0, .number⟩, ⟨1, .string⟩]⟩,
    ⟨.required, "b", .oneOf [.null]⟩]

/-- The same in another order, with the second key optional and with one alternative more for
it, and without the number. -/
def relaxedPair : Schema :=
  .object [⟨.optional, "b", .oneOf [.oneOf [.number], .null]⟩,
    ⟨.required, "a", .indexed [⟨1, .string⟩]⟩]

/-- Several relaxations at once, below a limit that the new alternative exceeds. -/
theorem validate_relaxedPair :
  Relaxes pairAndNull relaxedPair ∧
    pairAndNull.validate 3 (.object [("a", .array [.number (.int 1), .string "x"]), ("b", .null)])
      = .ok () ∧
    relaxedPair.validate 3 (.object [("a", .array [.number (.int 1), .string "x"]), ("b", .null)])
      = .ok ()
  := by
  have hunion : Relaxes (.oneOf [.null]) (.oneOf [.oneOf [.number], .null]) :=
    .oneOf (.cons (.refl _) .nil) (List.sublist_cons_self _ _).subperm
  have hentries : Relaxes (.indexed [⟨0, .number⟩, ⟨1, .string⟩]) (.indexed [⟨1, .string⟩]) :=
    .indexed (List.sublist_cons_self _ _).subperm (.cons (.entry (.refl _)) .nil)
  have hpair : Relaxes pairAndNull relaxedPair :=
    .object (List.Perm.swap _ _ []).subperm
      (.cons (.optional hunion) (.cons (.property hentries) .nil))
  have hok : pairAndNull.validate 3
      (.object [("a", .array [.number (.int 1), .string "x"]), ("b", .null)]) = .ok () := rfl
  exact ⟨hpair, hok, validate_eq_ok_of_relaxes hpair hok⟩

end Assay.Schema

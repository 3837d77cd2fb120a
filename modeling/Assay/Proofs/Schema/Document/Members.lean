import Assay.Proofs.Except
import Assay.Schema.Document
import Mathlib.Data.List.Nodup

/-!
# Members of a name

The fields of nodes, entries and properties are looked up one by one among the members of an
object.  A field is found exactly if there is a single member of its name, `Sole`, and is
read from the value of that member (`among_eq_ok_iff`).
-/

namespace Assay.Schema.Document

open Json (Cause)

/-- There is one member of the name, with the value. -/
def Sole (name : String) (v : Json) (members : List (String × Json)) : Prop :=
  members.filter (·.1 = name) = [(name, v)]

theorem Sole.mem {name : String} {v : Json} {members : List (String × Json)}
    (h : Sole name v members) :
  (name, v) ∈ members
  := by
  have hmem : (name, v) ∈ members.filter (·.1 = name) := by
    rw [h]
    apply List.mem_singleton_self
  apply List.mem_of_mem_filter hmem

theorem Sole.eq_of_mem {name : String} {v w : Json} {members : List (String × Json)}
    (h : Sole name v members) (hw : (name, w) ∈ members) :
  w = v
  := by
  have hmem : (name, w) ∈ members.filter (·.1 = name) :=
    List.mem_filter.mpr ⟨hw, decide_eq_true rfl⟩
  rw [h] at hmem
  cases List.mem_singleton.mp hmem
  rfl

theorem sole_cons_of_ne {name k : String} {v w : Json} {members : List (String × Json)}
    (h : k ≠ name) :
  Sole name v ((k, w) :: members) ↔ Sole name v members
  := by
  rw [Sole, Sole, List.filter_cons_of_neg (by simpa using h)]

theorem sole_cons_self {name : String} {v w : Json} {members : List (String × Json)} :
  Sole name v ((name, w) :: members) ↔ w = v ∧ members.filter (·.1 = name) = []
  := by
  rw [Sole, List.filter_cons_of_pos (by simp)]
  simp

/-- Members of different names are the only ones of their names. -/
theorem sole_of_nodup {members : List (String × Json)} (h : (members.map Prod.fst).Nodup)
    {name : String} {v : Json} (hv : (name, v) ∈ members) :
  Sole name v members
  := by
  induction members with
  | nil => cases hv
  | cons m rest ih =>
      obtain ⟨k, w⟩ := m
      obtain ⟨hk, hrest⟩ := List.nodup_cons.mp h
      obtain ⟨⟨⟩⟩ | hv := List.mem_cons.mp hv
      · apply sole_cons_self.mpr ⟨rfl, _⟩
        apply List.filter_eq_nil_iff.mpr
        rintro ⟨k, u⟩ hu heq
        obtain rfl := of_decide_eq_true heq
        apply hk (List.mem_map.mpr ⟨_, hu, rfl⟩)
      · have hne : k ≠ name := by
          rintro rfl
          apply hk (List.mem_map.mpr ⟨_, hv, rfl⟩)
        apply (sole_cons_of_ne hne).mpr (ih hrest hv)

section

variable {γ : Type} {name : String} {read : Json → Except Cause γ}
  {members : List (String × Json)}

/-- What the one member of a name is read as, where `old` was read before. -/
def among (name : String) (read : Json → Except Cause γ) (old : Option γ) :
    List (String × Json) → Except Cause γ
  | [] => needed name old
  | (k, v) :: rest =>
    if k = name then do among name read (← once name old (read v)) rest
    else among name read old rest

theorem among_nil_eq_ok_iff {old : Option γ} {x : γ} :
  among name read old [] = .ok x ↔ old = some x
  := by
  cases old <;> simp [among, needed]

/-- A member of the name is read if none was before, and another member is passed over. -/
theorem among_cons_eq_ok_iff {old : Option γ} {k : String} {v : Json} {x : γ} :
  among name read old ((k, v) :: members) = .ok x ↔
    (k = name ∧ old = none ∧ ∃ y, read v = .ok y ∧ among name read (some y) members = .ok x) ∨
      (k ≠ name ∧ among name read old members = .ok x)
  := by
  rw [among]
  split_ifs with hk
  · cases old with
    | some y => simp [once, bind, Except.bind, hk]
    | none => simp [once, bind_eq_ok_iff, map_eq_ok_iff, hk]
  · simp [hk]

/-- After one member of the name there may be no other. -/
theorem among_some_eq_ok_iff {x y : γ} :
  among name read (some x) members = .ok y ↔ x = y ∧ members.filter (·.1 = name) = []
  := by
  induction members with
  | nil => simp [among_nil_eq_ok_iff]
  | cons m rest ih =>
      obtain ⟨k, v⟩ := m
      rw [among_cons_eq_ok_iff, ih]
      by_cases hk : k = name
      · simp [hk]
      · simp [hk, List.filter_cons_of_neg]

/-- A name is read if there is one member of it and the value of that member is read. -/
theorem among_eq_ok_iff {x : γ} :
  among name read none members = .ok x ↔ ∃ v, Sole name v members ∧ read v = .ok x
  := by
  induction members with
  | nil => simp [among_nil_eq_ok_iff, Sole]
  | cons m rest ih =>
      obtain ⟨k, v⟩ := m
      rw [among_cons_eq_ok_iff, ih]
      by_cases hk : k = name
      · subst hk
        simp only [among_some_eq_ok_iff, sole_cons_self]
        constructor
        · rintro (⟨-, -, y, hy, rfl, hrest⟩ | ⟨hne, -⟩)
          · use v, ⟨rfl, hrest⟩, hy
          · apply absurd rfl hne
        · rintro ⟨_, ⟨rfl, hrest⟩, hx⟩
          exact .inl ⟨trivial, trivial, x, hx, rfl, hrest⟩
      · simp [hk, sole_cons_of_ne]

/-- What a name is read as, if there is one member of it. -/
theorem among_eq_of_sole {v : Json} (h : Sole name v members) :
  among name read none members = read v
  := by
  induction members with
  | nil => cases h
  | cons m rest ih =>
      obtain ⟨k, w⟩ := m
      rw [among]
      split_ifs with hk
      · subst hk
        obtain ⟨rfl, hrest⟩ := sole_cons_self.mp h
        cases hw : read w with
        | error cause => rfl
        | ok x => exact among_some_eq_ok_iff.mpr ⟨rfl, hrest⟩
      · apply ih ((sole_cons_of_ne hk).mp h)

/-- Members of other names decide nothing. -/
theorem among_filter {other : String} {old : Option γ} (h : name ≠ other) :
  among name read old (members.filter (·.1 ≠ other)) = among name read old members
  := by
  induction members generalizing old with
  | nil => rfl
  | cons m rest ih =>
      obtain ⟨k, v⟩ := m
      by_cases hk : k = other
      · have hne : k ≠ name := fun h' => h (h'.symm.trans hk)
        rw [List.filter_cons_of_neg (by simpa using hk), ih, among, if_neg hne]
      · rw [List.filter_cons_of_pos (by simpa using hk), among, among]
        simp only [ih]

theorem tagAmong_eq_among {choice : Choice} {old : Option Nat} :
  tagAmong choice old members = among "type" (tagOf choice) old members
  := by
  induction members generalizing old with
  | nil => cases old <;> rfl
  | cons m rest ih =>
      obtain ⟨k, v⟩ := m
      cases old with
      | some t =>
          rw [tagAmong, among]
          split_ifs with hk
          · rfl
          · apply ih
      | none =>
          rw [tagAmong, among]
          split_ifs with hk
          · rw [once]
            cases tagOf choice v with
            | error cause => rfl
            | ok t => exact ih
          · apply ih

theorem valuesAmong_eq_among {old : Option Schema} :
  valuesAmong old members
    = among "values" (fun v => valuesOf (entriesOf v) (schemaOf v)) old members
  := by
  induction members generalizing old with
  | nil => rw [valuesAmong, among]
  | cons m rest ih =>
      obtain ⟨k, v⟩ := m
      rw [valuesAmong, among]
      split_ifs with hk
      · simp only [ih, hk]
      · apply ih

theorem propertiesAmong_eq_among {old : Option (List (Property Schema))} :
  propertiesAmong old members = among "properties" propertiesOf old members
  := by
  induction members generalizing old with
  | nil => rw [propertiesAmong, among]
  | cons m rest ih =>
      obtain ⟨k, v⟩ := m
      rw [propertiesAmong, among]
      split_ifs with hk
      · simp only [ih, hk]
      · apply ih

theorem schemasAmong_eq_among {old : Option (List Schema)} :
  schemasAmong old members = among "schemas" schemasOf old members
  := by
  induction members generalizing old with
  | nil => rw [schemasAmong, among]
  | cons m rest ih =>
      obtain ⟨k, v⟩ := m
      rw [schemasAmong, among]
      split_ifs with hk
      · simp only [ih, hk]
      · apply ih

/-- The two fields of an entry are read each by itself. -/
theorem entryAmong_eq_ok_iff {fields : EntryFields} {e : Entry Schema} :
  entryAmong fields members = .ok e ↔
    among "index" indexOf fields.index members = .ok e.index ∧
      among "schema" schemaOf fields.schema members = .ok e.schema
  := by
  induction members generalizing fields with
  | nil =>
      simp only [entryAmong, among, bind_eq_ok_iff]
      constructor
      · rintro ⟨i, hi, s, hs, ⟨⟩⟩
        exact ⟨hi, hs⟩
      · rintro ⟨hi, hs⟩
        exact ⟨_, hi, _, hs, rfl⟩
  | cons m rest ih =>
      obtain ⟨k, v⟩ := m
      rw [entryAmong, among, among]
      split_ifs with hindex hschema hschema
      · apply absurd (hindex.symm.trans hschema) (by decide)
      · simp only [bind_eq_ok_iff, ih, hindex, ← and_assoc, exists_and_right]
      · simp only [bind_eq_ok_iff, ih, hschema, and_left_comm, exists_and_left]
      · apply ih

/-- The two fields of a property are read each by itself. -/
theorem propertyAmong_eq_ok_iff {presence : Presence} {fields : PropertyFields}
    {p : Property Schema} :
  propertyAmong presence fields members = .ok p ↔
    presence = p.presence ∧ among "key" keyOf fields.key members = .ok p.key ∧
      among "schema" schemaOf fields.schema members = .ok p.schema
  := by
  induction members generalizing fields with
  | nil =>
      simp only [propertyAmong, among, bind_eq_ok_iff]
      constructor
      · rintro ⟨k, hk, s, hs, ⟨⟩⟩
        exact ⟨rfl, hk, hs⟩
      · rintro ⟨rfl, hk, hs⟩
        exact ⟨_, hk, _, hs, rfl⟩
  | cons m rest ih =>
      obtain ⟨k, v⟩ := m
      rw [propertyAmong, among, among]
      split_ifs with hkey hschema hschema
      · apply absurd (hkey.symm.trans hschema) (by decide)
      · simp only [bind_eq_ok_iff, ih, hkey]
        constructor
        · rintro ⟨key, honce, hpresence, hk, hs⟩
          exact ⟨hpresence, ⟨key, honce, hk⟩, hs⟩
        · rintro ⟨hpresence, ⟨key, honce, hk⟩, hs⟩
          exact ⟨key, honce, hpresence, hk, hs⟩
      · simp only [bind_eq_ok_iff, ih, hschema, and_left_comm, exists_and_left]
      · apply ih

end

end Assay.Schema.Document

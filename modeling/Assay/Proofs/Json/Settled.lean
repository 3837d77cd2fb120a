import Assay.Proofs.Json.Compact

/-!
# Values without repeated members

Settling a value leaves one member of each name.  A value in which no object repeats a name
stays as it is (`UniqueNames.settled_eq`), so that a value without fractions and without repeated
names is read back from its compact text (`parse_compact`).
-/

namespace Assay.Json

/-- No object in a value has two members of one name. -/
inductive UniqueNames : Json → Prop where
  | null : UniqueNames .null
  | boolean (b : Bool) : UniqueNames (.boolean b)
  | number (n : Number) : UniqueNames (.number n)
  | string (s : String) : UniqueNames (.string s)
  | array {items : List Json} (parts : ∀ v ∈ items, UniqueNames v) : UniqueNames (.array items)
  | object {members : List (String × Json)} (names : (members.map Prod.fst).Nodup)
    (parts : ∀ m ∈ members, UniqueNames m.2) : UniqueNames (.object members)

/-- A member of a new name is put at the end. -/
theorem assign_of_notMem {name : String} {members : List (String × Json)}
    (h : name ∉ members.map Prod.fst) (v : Json) :
  assign name v members = members ++ [(name, v)]
  := by
  induction members with
  | nil => rfl
  | cons m rest ih =>
      rw [List.map_cons, List.mem_cons, not_or] at h
      rw [assign, if_neg (Ne.symm h.1), ih h.2, List.cons_append]

/-- Members of different names are kept, each in its place. -/
theorem foldl_assign {before members : List (String × Json)}
    (h : ((before ++ members).map Prod.fst).Nodup) :
  members.foldl (fun ms m => assign m.1 m.2 ms) before = before ++ members
  := by
  induction members generalizing before with
  | nil => rw [List.foldl_nil, List.append_nil]
  | cons m rest ih =>
      have hnew : m.1 ∉ before.map Prod.fst := by
        rw [List.map_append, List.nodup_append] at h
        intro hm
        apply h.2.2 m.1 hm m.1 List.mem_cons_self rfl
      have hassign : assign m.1 m.2 before = before ++ [m] := assign_of_notMem hnew m.2
      rw [List.append_cons] at h
      rw [List.foldl_cons, hassign, ih h, List.append_assoc, List.singleton_append]

theorem settledItems_eq_map (items : List Json) :
  settledItems items = items.map settled
  := by
  induction items with
  | nil => rfl
  | cons v rest ih => rw [settledItems, ih, List.map_cons]

theorem settledMembers_eq_map (members : List (String × Json)) :
  settledMembers members = members.map fun m => (m.1, m.2.settled)
  := by
  induction members with
  | nil => rfl
  | cons m rest ih => rw [settledMembers, ih, List.map_cons]

/-- A value without repeated names is settled. -/
theorem UniqueNames.settled_eq {v : Json} (h : v.UniqueNames) :
  v.settled = v
  := by
  induction v using Json.induction with
  | null | boolean | number | string => rfl
  | array items ih =>
      cases h with
      | array parts =>
          have hitems : ∀ v ∈ items, settled v = v := by
            intro v hv
            apply ih v hv (parts v hv)
          rw [settled, settledItems_eq_map, List.map_congr_left hitems, List.map_id']
  | object members ih =>
      cases h with
      | object names parts =>
          have hmembers : ∀ m ∈ members, (m.1, m.2.settled) = m := by
            intro m hm
            rw [ih m hm (parts m hm)]
          rw [settled, settledMembers_eq_map, List.map_congr_left hmembers, List.map_id']
          apply congrArg Json.object (@foldl_assign [] members names)

/-- A value without fractions and without repeated names, and with no more levels than a reader
has room for, is read back from its compact text. -/
theorem parse_compact {v : Json} (hintegral : v.Integral)
    (hlevels : v.levels ≤ Reader.maxDepth) (hnames : v.UniqueNames) :
  parse v.compact = .ok v
  := by
  rw [parse, compact, String.toList_ofList, Reader.document_compactChars hintegral hlevels]
  apply congrArg Except.ok hnames.settled_eq

end Assay.Json

import Assay.Proofs.Json.Settled

/-!
# Reading texts of several lines

A value without fractions is read back from its text over several lines (`parse_pretty`).  A
part of a container stands at the start of a line, so its text has white space in front; the
text of a container that is not empty has white space at its end, too.
-/

namespace Assay.Json

namespace Reader

/-! ## Lines -/

theorem spaces_indentation (depth : Nat) :
  Spaces (indentation depth)
  := by
  intro u hu
  obtain rfl | hu := List.mem_cons.mp hu
  · rfl
  · rw [List.eq_of_mem_replicate hu]
    rfl

/-- The text of an element, from the start of its line. -/
def itemLine (depth : Nat) (v : Json) : List Char :=
  indentation depth ++ v.prettyChars depth

/-- The text of a member, from the start of its line. -/
def memberLine (depth : Nat) (m : String × Json) : List Char :=
  indentation depth ++ (quoteChars m.1.toList ++ ':' :: ' ' :: m.2.prettyChars depth)

theorem prettyItems_cons (depth : Nat) (v : Json) (items : List Json) :
  prettyItems depth (v :: items) = itemLine depth v ++ following (items.map (itemLine depth))
  := by
  induction items generalizing v with
  | nil =>
      rw [prettyItems]
      apply (List.append_nil _).symm
  | cons w items ih =>
      rw [prettyItems, ih w, List.map_cons, following_cons]
      · rfl
      · simp

theorem prettyMembers_cons (depth : Nat) (m : String × Json) (members : List (String × Json)) :
  prettyMembers depth (m :: members)
    = memberLine depth m ++ following (members.map (memberLine depth))
  := by
  induction members generalizing m with
  | nil =>
      rw [prettyMembers, List.append_assoc]
      apply (List.append_nil _).symm
  | cons n members ih =>
      rw [prettyMembers, ih n, List.map_cons, following_cons]
      · simp [memberLine]
      · simp

/-- The text of an array is made of the lines of its elements. -/
theorem exists_prettyChars_array (depth : Nat) (items : List Json) :
  ∃ closing, Spaces closing ∧ (array items).prettyChars depth
    = '[' :: (commas (items.map (itemLine (depth + 1))) ++ closing ++ [']'])
  := by
  cases items with
  | nil => exact ⟨[], spaces_nil, rfl⟩
  | cons v items =>
      refine ⟨indentation depth, spaces_indentation depth, ?_⟩
      rw [prettyChars, prettyItems_cons, List.map_cons, commas]
      · simp
      · simp

/-- The text of an object is made of the lines of its members. -/
theorem exists_prettyChars_object (depth : Nat) (members : List (String × Json)) :
  ∃ closing, Spaces closing ∧ (object members).prettyChars depth
    = '\x7b' :: (commas (members.map (memberLine (depth + 1))) ++ closing ++ ['\x7d'])
  := by
  cases members with
  | nil => exact ⟨[], spaces_nil, rfl⟩
  | cons m members =>
      refine ⟨indentation depth, spaces_indentation depth, ?_⟩
      rw [prettyChars, prettyMembers_cons, List.map_cons, commas]
      · simp
      · simp

/-! ## Values -/

/-- A value without fractions is read back from its text over several lines, however far the
lines are indented. -/
theorem ReadsDelimited.value_prettyChars {v : Json} (h : v.Integral) {depth : Nat}
    (hlevels : v.levels ≤ depth) (indent : Nat) :
  ReadsDelimited (value depth) (v.prettyChars indent) v
  := by
  -- A part has room for one container less and stands one step further in.
  induction v using Json.induction generalizing depth indent with
  | null | boolean | number | string => apply value_scalarChars h rfl
  | array items ih =>
      obtain ⟨d, rfl, hparts⟩ := exists_of_levels_array_le hlevels
      obtain ⟨closing, hclosing, htext⟩ := exists_prettyChars_array indent items
      have hitems : List.Forall₂ (Takes (value d)) (items.map (itemLine (indent + 1))) items := by
        apply List.forall₂_map_left_iff.mpr (List.forall₂_same.mpr _)
        intro v hv
        have hread := ih v hv (integral_array_iff.mp h v hv) (hparts v hv) (indent + 1)
        apply hread.takes.append (spaces_indentation _)
      rw [htext]
      apply of_reads (Reads.value_array hitems hclosing)
  | object members ih =>
      obtain ⟨d, rfl, hparts⟩ := exists_of_levels_object_le hlevels
      obtain ⟨closing, hclosing, htext⟩ := exists_prettyChars_object indent members
      have hmembers :
          List.Forall₂ (TakesMember d) (members.map (memberLine (indent + 1))) members := by
        apply List.forall₂_map_left_iff.mpr (List.forall₂_same.mpr _)
        intro m hm
        have hread := ih m hm (integral_object_iff.mp h m hm) (hparts m hm) (indent + 1)
        have hspace : Spaces [' '] := List.forall_mem_singleton.mpr rfl
        use indentation (indent + 1), ' ' :: m.2.prettyChars (indent + 1), rfl,
          spaces_indentation _, hread.takes.append hspace
      rw [htext]
      apply of_reads (Reads.value_object hmembers hclosing)

end Reader

/-- A value without fractions and without repeated names, and with no more levels than a reader
has room for, is read back from its text over several lines. -/
theorem parse_pretty {v : Json} (hintegral : v.Integral) (hlevels : v.levels ≤ Reader.maxDepth)
    (hnames : v.UniqueNames) :
  parse v.pretty = .ok v
  := by
  have hread := Reader.ReadsDelimited.value_prettyChars hintegral hlevels 0
  rw [parse, pretty, String.toList_ofList, Reader.document_of_takes hread.takes]
  apply congrArg Except.ok hnames.settled_eq

end Assay.Json

import Assay.Proofs.Json.Pretty
import Assay.Rendering

/-!
# Rendered values

Only floating-point numbers change when integers take the place of integral ones.  A value
without them is rendered as it is, and its text is a JSON text of it; hence the text of a
value tells which value it is, and that it is not absent (`parse_render`).
-/

namespace Assay

namespace Json

theorem withIntegersItems_eq_map (items : List Json) :
  withIntegersItems items = items.map withIntegers
  := by
  induction items with
  | nil => rfl
  | cons v rest ih => rw [withIntegersItems, ih, List.map_cons]

theorem withIntegersMembers_eq_map (members : List (String × Json)) :
  withIntegersMembers members = members.map fun m => (m.1, m.2.withIntegers)
  := by
  induction members with
  | nil => rfl
  | cons m rest ih => rw [withIntegersMembers, ih, List.map_cons]

/-- A value without fractions has no numbers to replace. -/
theorem Integral.withIntegers_eq {v : Json} (h : v.Integral) :
  v.withIntegers = v
  := by
  induction v using Json.induction with
  | null | boolean | string => rfl
  | number n =>
      cases h
      rfl
  | array items ih =>
      have hitems : ∀ v ∈ items, withIntegers v = v := by
        intro v hv
        apply ih v hv (integral_array_iff.mp h v hv)
      rw [withIntegers, withIntegersItems_eq_map, List.map_congr_left hitems, List.map_id']
  | object members ih =>
      have hmembers : ∀ m ∈ members, (m.1, m.2.withIntegers) = m := by
        intro m hm
        rw [ih m hm (integral_object_iff.mp h m hm)]
      rw [withIntegers, withIntegersMembers_eq_map, List.map_congr_left hmembers, List.map_id']

end Json

/-- The text of an absent value is no JSON text. -/
theorem parse_render_none :
  (Json.parse (render none)).isOk = false
  := by
  decide +kernel

/-- The text of a value without fractions, and with no more levels than a reader has room for, is
read back as the value.  No other such value has that text, and it is not the text of an absent
value. -/
theorem parse_render {v : Json} (hintegral : v.Integral)
    (hlevels : v.levels ≤ Json.Reader.maxDepth) (hnames : v.UniqueNames) :
  Json.parse (render (some v)) = .ok v ∧
    (∀ w : Json, w.Integral → w.levels ≤ Json.Reader.maxDepth → w.UniqueNames →
      render (some w) = render (some v) → w = v) ∧
    render (some v) ≠ render none
  := by
  have hparse : ∀ w : Json, w.Integral → w.levels ≤ Json.Reader.maxDepth → w.UniqueNames →
      Json.parse (render (some w)) = .ok w := by
    intro w hintegral hlevels hnames
    rw [render, hintegral.withIntegers_eq]
    apply Json.parse_pretty hintegral hlevels hnames
  have hv := hparse v hintegral hlevels hnames
  use hv
  constructor
  · intro w hintegral hlevels hnames heq
    have hw := hparse w hintegral hlevels hnames
    rw [heq, hv] at hw
    exact (Except.ok.inj hw).symm
  · intro heq
    have hnone := parse_render_none
    rw [← heq, hv] at hnone
    cases hnone

/-- Names and texts with characters that are escaped, the least and the greatest integer, and
empty containers. -/
def quotations : Json :=
  .object [("\"\\", .array [.number (.int Word.least), .number (.int (Word.count - 1))]),
    ("ü", .object [("", .string "a\nb\t/\x01"), ("e", .array [.array [], .object []])])]

theorem parse_render_quotations :
  quotations.Integral ∧ quotations.levels ≤ Json.Reader.maxDepth ∧ quotations.UniqueNames ∧
    Json.parse (render (some quotations)) = .ok quotations ∧
    (∀ w : Json, w.Integral → w.levels ≤ Json.Reader.maxDepth → w.UniqueNames →
      render (some w) = render (some quotations) → w = quotations) ∧
    render (some quotations) ≠ render none
  := by
  have hintegral : quotations.Integral := by
    have hleast : (Json.number (.int Word.least)).Integral := .number (by decide) (by decide)
    have hgreatest : (Json.number (.int (Word.count - 1))).Integral :=
      .number (by decide) (by decide)
    simp [quotations, Json.integral_array_iff, Json.integral_object_iff, hleast, hgreatest,
      Json.Integral.string]
  have hnames : quotations.UniqueNames := by
    have hinner : (Json.object [("", .string "a\nb\t/\x01"),
        ("e", .array [.array [], .object []])]).UniqueNames := by
      apply Json.UniqueNames.object (by decide)
      simp [Json.UniqueNames.string, Json.UniqueNames.array, Json.UniqueNames.object]
    apply Json.UniqueNames.object (by decide)
    simp [hinner, Json.UniqueNames.array, Json.UniqueNames.number]
  have hlevels : quotations.levels ≤ Json.Reader.maxDepth := by decide
  use hintegral, hlevels, hnames, (parse_render hintegral hlevels hnames).1,
    (parse_render hintegral hlevels hnames).2.1, (parse_render hintegral hlevels hnames).2.2

end Assay

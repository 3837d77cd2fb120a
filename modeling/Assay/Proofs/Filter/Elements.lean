import Assay.Filter
import Assay.Proofs.Filter.Text

/-!
# Documents and their elements

The filter `.` has one result, the document that it is given, and `.[]` has the elements of an
array, in order.  Between the document and the results stand what the document is to a filter
and the texts of the results, which are read again; with numbers that are integers nothing is
lost on that way (`run_document_and_elements`).
-/

namespace Assay.Filter

/-! ## Lists of results -/

namespace Results

variable {α β : Type}

theorem append_nil (r : Results α) :
  r.append (fun _ => nil) = r
  := by
  induction r with
  | nil => rfl
  | cons x t ih =>
      rw [append]
      apply congrArg (cons x)
      funext u
      apply ih u
  | ended why => rfl

theorem map_ofList (f : α → β) (xs : List α) :
  (ofList xs).map f = ofList (xs.map f)
  := by
  induction xs with
  | nil => rfl
  | cons x xs ih => rw [ofList, map, ih, List.map_cons, ofList]

/-- A function with one result on every result. -/
theorem bind_ofList_one (f : α → β) (xs : List α) :
  (ofList xs).bind (fun x => one (f x)) = ofList (xs.map f)
  := by
  induction xs with
  | nil => rfl
  | cons x xs ih => rw [ofList, bind, ih, List.map_cons, ofList, one, append, append]

end Results

theorem Outcome.ok_andThen {α β : Type} (x : α) (f : α → Outcome β) :
  (Outcome.ok x).andThen f = f x
  := Results.append_nil (f x)

/-! ## Terms -/

/-- The term of all elements of a value. -/
def elements : Term := .path .identity [(.range none none, false)]

theorem parse_identity :
  parse "." = .ok .identity
  := rfl

/-- Whether the term of all elements was parsed. -/
def isElements : Except Failure Term → Bool
  | .ok (.path .identity [(.range none none, false)]) => true
  | _ => false

theorem eq_of_isElements {parsed : Except Failure Term} (h : isElements parsed = true) :
  parsed = .ok elements
  := by
  unfold isElements at h
  split at h
  · rfl
  · cases h

theorem parse_elements :
  parse ".[]" = .ok elements
  := eq_of_isElements (by decide +kernel)

variable {around : Surroundings} {bound : Nat} {env : Env}

theorem evaluate_identity (v : Value) :
  evaluate around (bound + 1) env .identity v = .ok v
  := rfl

/-- The places that a step to all elements of an array leads to. -/
theorem follow_elements (items : List Value) :
  (Place.follow [(.range none none, false)] (.ofValue (.array items))).mapOk Place.value
    = .ofList (items.map .ok)
  := by
  have hparts : (Value.array items).follow (.range none none)
      = .ok (items.zipIdx.map fun e => (Value.int e.2, e.1)) := rfl
  have hfollow : Place.follow [(.range none none, false)] (.ofValue (.array items))
      = (Results.ofList (items.zipIdx.map fun e => (Value.int e.2, e.1))).bind
          fun part => .one (.ok ((Place.ofValue (.array items)).next part.1 part.2)) := by
    rw [Place.follow, Place.ofValue, hparts]
    rfl
  have hitems : items.zipIdx.map Prod.fst = items := by
    rw [List.zipIdx_map_fst]
  rw [hfollow, Results.bind_ofList_one, Outcome.mapOk, Results.map_ofList, List.map_map,
    List.map_map]
  conv_rhs => rw [← hitems, List.map_map]
  rfl

theorem evaluate_elements (items : List Value) :
  evaluate around (bound + 2) env elements (.array items) = .ofList (items.map .ok)
  := by
  have hrun : (evaluator around (bound + 2) 0).run env elements (.ofValue (.array items))
      = Place.follow [(.range none none, false)] (.ofValue (.array items)) := by
    apply Eq.trans (Outcome.ok_andThen _ _)
    apply Outcome.ok_andThen
  rw [evaluate, Evaluator.values, hrun, follow_elements]

/-! ## Documents -/

/-- Results whose texts are documents are these documents, in order. -/
theorem documents_ofList {vs : List Value} {js : List Json}
    (h : List.Forall₂ (fun v j => Json.parse v.text = .ok j) vs js) (index : Nat) :
  documents index (.ofList (vs.map .ok)) = .ok js
  := by
  induction h generalizing index with
  | nil => rfl
  | cons hv _ ih =>
      rw [List.map_cons, Results.ofList, documents, hv]
      dsimp only
      rw [ih]
      rfl

/-- What a JSON value is to a filter has a text that is read back as the value. -/
theorem parse_text_ofJson {v : Json} (hintegral : v.Integral)
    (hlevels : v.levels ≤ Json.Reader.maxDepth) (hnames : v.UniqueNames) :
  Json.parse (Value.ofJson v).text = .ok v
  := by
  rw [Value.text_ofJson, Json.parse_compact hintegral hlevels hnames]

theorem ofJsonItems_eq_map (items : List Json) :
  Value.ofJsonItems items = items.map Value.ofJson
  := by
  induction items with
  | nil => rfl
  | cons v rest ih => rw [Value.ofJsonItems, ih, List.map_cons]

/-- A term whose results are what some documents are to a filter gives these documents back. -/
theorem run_of_evaluate {text : String} {t : Term} {v : Json} {js : List Json}
    (ht : parse text = .ok t)
    (heval : evaluate around bound globalEnv t (.ofJson v)
      = .ofList ((js.map Value.ofJson).map .ok))
    (hjs : ∀ j ∈ js, Json.parse (Value.ofJson j).text = .ok j) :
  run bound around text v = .ok js
  := by
  have hdocuments : documents 0 (.ofList ((js.map Value.ofJson).map .ok)) = .ok js := by
    apply documents_ofList
    rw [List.forall₂_map_left_iff, List.forall₂_same]
    exact hjs
  rw [run, ht]
  apply Eq.trans (congrArg (documents 0) heval) hdocuments

/-- A document without fractions and without repeated names, and with no more levels than a reader
has room for, is the only result of `.` on it.  If it is an array, the results of `.[]` are its
elements, in order.  Two steps are all that this takes. -/
theorem run_document_and_elements (around : Surroundings) {bound : Nat} (hbound : 2 ≤ bound) :
  (∀ v : Json, v.Integral → v.levels ≤ Json.Reader.maxDepth → v.UniqueNames →
      run bound around "." v = .ok [v]) ∧
    ∀ items : List Json, (Json.array items).Integral →
      (Json.array items).levels ≤ Json.Reader.maxDepth → (Json.array items).UniqueNames →
        run bound around ".[]" (.array items) = .ok items
  := by
  obtain ⟨bound, rfl⟩ := Nat.exists_eq_add_of_le' hbound
  constructor
  · intro v hintegral hlevels hnames
    apply run_of_evaluate parse_identity
    · apply evaluate_identity
    · rw [List.forall_mem_singleton]
      apply parse_text_ofJson hintegral hlevels hnames
  · intro items hintegral hlevels hnames
    apply run_of_evaluate parse_elements
    · rw [Value.ofJson, ofJsonItems_eq_map, evaluate_elements]
    · intro v hv
      cases hnames with
      | array hparts =>
          have hlevel := Nat.le_of_lt (Nat.lt_of_lt_of_le (Json.levels_item_lt hv) hlevels)
          apply parse_text_ofJson (Json.integral_array_iff.mp hintegral v hv) hlevel (hparts v hv)

/-- The start of 1970 in Greenwich, without any variables. -/
def greenwich : Surroundings := ⟨0, [], fun _ => 0⟩

/-- The greatest integer without a sign and the least one with a sign, names and texts with
characters that are escaped, and empty containers. -/
def assorted : List Json :=
  [.number (.int (Word.count - 1)), .array [.number (.int Word.least), .array []],
    .object [("z\n", .string "\"\\/\t"), ("", .object []), ("é", .boolean false)]]

theorem run_assorted :
  2 ≤ 2 ∧ (Json.array assorted).Integral ∧ (Json.array assorted).levels ≤ Json.Reader.maxDepth ∧
    (Json.array assorted).UniqueNames ∧
    run 2 greenwich "." (.array assorted) = .ok [.array assorted] ∧
    run 2 greenwich ".[]" (.array assorted) = .ok assorted
  := by
  have hintegral : (Json.array assorted).Integral := by
    have hgreatest : (Json.number (.int (Word.count - 1))).Integral :=
      .number (by decide) (by decide)
    have hleast : (Json.number (.int Word.least)).Integral := .number (by decide) (by decide)
    simp [assorted, Json.integral_array_iff, Json.integral_object_iff, hgreatest, hleast,
      Json.Integral.string, Json.Integral.boolean]
  have hnames : (Json.array assorted).UniqueNames := by
    have hobject : (Json.object [("z\n", .string "\"\\/\t"), ("", .object []),
        ("é", .boolean false)]).UniqueNames := by
      apply Json.UniqueNames.object (by decide)
      simp [Json.UniqueNames.string, Json.UniqueNames.boolean, Json.UniqueNames.object]
    apply Json.UniqueNames.array
    simp [assorted, hobject, Json.UniqueNames.number, Json.UniqueNames.array]
  have hlevels : (Json.array assorted).levels ≤ Json.Reader.maxDepth := by decide
  use Nat.le_refl 2, hintegral, hlevels, hnames
  obtain ⟨hdocument, helements⟩ := run_document_and_elements greenwich (Nat.le_refl 2)
  use hdocument _ hintegral hlevels hnames, helements _ hintegral hlevels hnames

end Assay.Filter

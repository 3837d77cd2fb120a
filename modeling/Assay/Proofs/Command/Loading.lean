import Assay.Proofs.Command.Inputs
import Assay.Proofs.Filter.Bounds

/-!
# Loading documents

A text gives values (`GivesValue`), from which settings select and make parts, and each of
them may have a fault instead (`InputFails`).  A filter may also end the program, or go on for
ever, before there is a fault (`InputEnds`).  What loading comes to as the bound on filters grows
is one of these, or the documents if there is neither (`inputFails_of_loadDocuments`,
`loadDocuments_ends_iff`, `not_inputFails_of_loadDocuments`).
-/

namespace Assay.Command

open Assay.Filter

/-! ## Values -/

/-- A text gives a value: its only one, or that on a line that is not blank. -/
inductive GivesValue (settings : InputSettings) (t : InputText) : Document → Prop where
  | whole {v : Json} (single : settings.ndjson = false) (parsed : Json.parse t.text = .ok v) :
    GivesValue settings t ⟨t.origin, v⟩
  | line {i : Nat} {line : List Char} {v : Json} (multiple : settings.ndjson = true)
    (mem : (Text.lines t.text.toList)[i]? = some line)
    (notBlank : ∃ c ∈ line, Text.isBlank c = false) (parsed : Json.parse (.ofList line) = .ok v) :
    GivesValue settings t ⟨numbered t.origin ":" (i + 1), v⟩

/-- A text, or a line of it that is not blank, is not a value. -/
inductive ValueFails (settings : InputSettings) (t : InputText) : InputFault → Prop where
  | whole {fault : Json.Fault} (single : settings.ndjson = false)
    (parsed : Json.parse t.text = .error fault) :
    ValueFails settings t (.document t.origin fault)
  | line {i : Nat} {line : List Char} {fault : Json.Fault} (multiple : settings.ndjson = true)
    (mem : (Text.lines t.text.toList)[i]? = some line)
    (notBlank : ∃ c ∈ line, Text.isBlank c = false)
    (parsed : Json.parse (.ofList line) = .error fault) :
    ValueFails settings t (.line (numbered t.origin ":" (i + 1)) fault)

/-- The part of a value that a pointer selects. -/
def selected? (pointer : Option String) (v : Json) : Option Json :=
  pointer.elim (some v) v.pointer?

section

variable (around : Surroundings) (settings : InputSettings) (d : Document)

/-- The pointer selects nothing in a value, or the filter fails on the part that is
selected. -/
inductive PartFails : InputFault → Prop where
  | pointer {pointer : String} (given : settings.jsonPointer = some pointer)
    (absent : selected? settings.jsonPointer d.value = none) :
    PartFails (.nothingAt pointer d.origin)
  | filter {v : Json} {text : String} {failure : Filter.Failure}
    (selected : selected? settings.jsonPointer d.value = some v)
    (given : settings.jqExpr = some text)
    (failed : ComesTo (fun bound => Filter.run bound around text v) (.error (.fault failure))) :
    PartFails (.filter d.origin text failure)

/-- The filter ends the program on the part that is selected, or goes on for ever. -/
inductive PartEnds : Ending → Prop where
  | filter {v : Json} {text : String} {why : Ending}
    (selected : selected? settings.jsonPointer d.value = some v)
    (given : settings.jqExpr = some text)
    (ended : ComesTo (fun bound => Filter.run bound around text v) (.error (.ended why))) :
    PartEnds why

/-- The filter has documents on the part that is selected, or there is no filter. -/
def PartGives (ds : List Document) : Prop :=
  ComesTo (fun bound => documentsOfDocument bound around settings d) (.ok ds)

end

section

variable {around : Surroundings} {settings : InputSettings} {t : InputText} {d : Document}

theorem mem_documentLines_iff {text : String} {line : List Char} {n : Nat} :
  (line, n) ∈ documentLines text ↔
    ∃ i, n = i + 1 ∧ (Text.lines text.toList)[i]? = some line ∧
      ∃ c ∈ line, Text.isBlank c = false
  := by
  have hblank : (!line.all Text.isBlank) = true ↔ ∃ c ∈ line, Text.isBlank c = false := by
    simp
  rw [documentLines, List.mem_filter, hblank, List.mk_mem_zipIdx_iff_le_and_getElem?_sub]
  constructor
  · rintro ⟨⟨hle, hline⟩, hnotBlank⟩
    use n - 1, (Nat.sub_add_cancel hle).symm, hline
  · rintro ⟨i, rfl, hline, hnotBlank⟩
    exact ⟨⟨Nat.le_add_left 1 i, hline⟩, hnotBlank⟩

theorem select_eq_ok_iff {d' : Document} :
  select settings.jsonPointer d = .ok d' ↔
    ∃ v, selected? settings.jsonPointer d.value = some v ∧ d' = ⟨d.origin, v⟩
  := by
  cases hpointer : settings.jsonPointer with
  | none =>
      simp only [select, selected?, Option.elim, Except.ok.injEq, Option.some.injEq,
        exists_eq_left']
      apply eq_comm
  | some pointer =>
      cases hv : d.value.pointer? pointer <;> simp [select, selected?, hv, eq_comm]

theorem select_eq_error_iff {fault : InputFault} :
  select settings.jsonPointer d = .error fault ↔
    ∃ pointer, settings.jsonPointer = some pointer ∧
      selected? settings.jsonPointer d.value = none ∧ fault = .nothingAt pointer d.origin
  := by
  cases hpointer : settings.jsonPointer with
  | none => simp [select, selected?]
  | some pointer =>
      cases hv : d.value.pointer? pointer <;> simp [select, selected?, hv, eq_comm]

/-! ### Parts -/

theorem refine_some {bound : Nat} {text : String} :
  refine bound around (some text) d =
    (Filter.run bound around text d.value).mapError (Obstacle.map (.filter d.origin text)) >>=
      fun values => .ok (values.zipIdx.map fun (v, i) => ⟨numbered d.origin "#" i, v⟩)
  := by
  dsimp only [refine]
  cases Filter.run bound around text d.value <;> rfl

theorem refine_monotone (filter : Option String) (d : Document) :
  Monotone fun bound => refine bound around filter d
  := by
  intro bound bound' hbound
  cases filter with
  | none => apply le_rfl
  | some text =>
      dsimp only
      rw [refine_some, refine_some]
      apply bind_le_bind (mapError_le_mapError _ (Filter.run_monotone around text d.value hbound))
      intro values
      apply le_rfl

theorem documentsOfDocument_monotone (settings : InputSettings) (d : Document) :
  Monotone fun bound => documentsOfDocument bound around settings d
  := by
  intro bound bound' hbound
  apply bind_le_bind le_rfl
  intro d
  apply refine_monotone settings.jqExpr d hbound

/-- What is made of the part that is selected is made of the document. -/
theorem documentsOfDocument_of_selected {bound : Nat} {v : Json}
    (hv : selected? settings.jsonPointer d.value = some v) :
  documentsOfDocument bound around settings d = refine bound around settings.jqExpr ⟨d.origin, v⟩
  := by
  rw [documentsOfDocument, select_eq_ok_iff.mpr ⟨v, hv, rfl⟩]
  rfl

theorem PartFails.comesTo {fault : InputFault} (h : PartFails around settings d fault) :
  ComesTo (fun bound => documentsOfDocument bound around settings d) (.error (.fault fault))
  := by
  cases h with
  | pointer hpointer habsent =>
      have hselect := select_eq_error_iff.mpr ⟨_, hpointer, habsent, rfl⟩
      simp only [documentsOfDocument, hselect]
      apply ComesTo.const
  | filter hv hfilter hfailed =>
      simp only [documentsOfDocument_of_selected hv, hfilter, refine_some]
      apply hfailed.map (fun r => r.mapError (Obstacle.map _) >>= _)

theorem PartEnds.comesTo {why : Ending} (h : PartEnds around settings d why) :
  ComesTo (fun bound => documentsOfDocument bound around settings d) (.error (.ended why))
  := by
  cases h with
  | filter hv hfilter hended =>
      simp only [documentsOfDocument_of_selected hv, hfilter, refine_some]
      apply hended.map (fun r => r.mapError (Obstacle.map _) >>= _)

/-- A document has results in the end, unless there is a fault in it or its filter does not
end. -/
theorem partGives_or_fails_or_ends (around : Surroundings) (settings : InputSettings)
    (d : Document) :
  (∃ ds, PartGives around settings d ds) ∨ (∃ fault, PartFails around settings d fault) ∨
    ∃ why, PartEnds around settings d why
  := by
  cases hv : selected? settings.jsonPointer d.value with
  | none =>
      cases hpointer : settings.jsonPointer with
      | none =>
          rw [hpointer] at hv
          cases hv
      | some pointer => exact .inr (.inl ⟨_, .pointer hpointer hv⟩)
  | some v =>
      cases hfilter : settings.jqExpr with
      | none =>
          left
          use [⟨d.origin, v⟩]
          simp only [PartGives, documentsOfDocument_of_selected hv, hfilter]
          apply ComesTo.const
      | some text =>
          obtain ⟨r, hr⟩ := exists_comesTo (Filter.run_monotone around text v)
          rcases r with (failure | why) | values
          · exact .inr (.inl ⟨_, .filter hv hfilter hr⟩)
          · exact .inr (.inr ⟨_, .filter hv hfilter hr⟩)
          · left
            use values.zipIdx.map fun (v, i) => ⟨numbered d.origin "#" i, v⟩
            simp only [PartGives, documentsOfDocument_of_selected hv, hfilter, refine_some]
            apply hr.map (fun r => r.mapError (Obstacle.map _) >>= _)

theorem partFails_iff {fault : InputFault} :
  PartFails around settings d fault ↔
    ComesTo (fun bound => documentsOfDocument bound around settings d) (.error (.fault fault))
  := by
  constructor
  · apply PartFails.comesTo
  · intro h
    obtain ⟨ds, hds⟩ | ⟨fault', hfails⟩ | ⟨why, hends⟩ :=
      partGives_or_fails_or_ends around settings d
    · cases hds.unique h
    · cases hfails.comesTo.unique h
      exact hfails
    · cases hends.comesTo.unique h

theorem partEnds_iff {why : Ending} :
  PartEnds around settings d why ↔
    ComesTo (fun bound => documentsOfDocument bound around settings d) (.error (.ended why))
  := by
  constructor
  · apply PartEnds.comesTo
  · intro h
    obtain ⟨ds, hds⟩ | ⟨fault, hfails⟩ | ⟨why', hends⟩ :=
      partGives_or_fails_or_ends around settings d
    · cases hds.unique h
    · cases hfails.comesTo.unique h
    · cases hends.comesTo.unique h
      exact hends

end

/-! ## Texts -/

/-- The value on the line of a number, or what is wrong with the line. -/
def valueOfLine (origin : String) (line : List Char × Nat) : Except InputFault Document :=
  let origin := numbered origin ":" line.2
  ((Json.parse (.ofList line.1)).mapError (.line origin)).map (Document.mk origin)

/-- The values in a text, in order, or what is wrong where there is none. -/
def valuesOf (settings : InputSettings) (t : InputText) : List (Except InputFault Document) :=
  if settings.ndjson then (documentLines t.text).map (valueOfLine t.origin)
  else [((Json.parse t.text).mapError (.document t.origin)).map (Document.mk t.origin)]

/-- The documents that are made of a value, if there is nothing wrong with it. -/
def documentsOfValue (bound : Nat) (around : Surroundings) (settings : InputSettings)
    (x : Except InputFault Document) : Except (Obstacle InputFault) (List Document) := do
  documentsOfDocument bound around settings (← x.mapError .fault)

section

variable {bound : Nat} {around : Surroundings} {settings : InputSettings} {t : InputText}

theorem ok_mem_valuesOf_iff {d : Document} :
  .ok d ∈ valuesOf settings t ↔ GivesValue settings t d
  := by
  rw [valuesOf]
  split_ifs with hmultiple
  · simp only [List.mem_map, Prod.exists, mem_documentLines_iff, valueOfLine, map_eq_ok_iff,
      mapError_eq_ok_iff]
    constructor
    · rintro ⟨line, _, ⟨i, rfl, hmem, hnotBlank⟩, v, hparse, rfl⟩
      apply GivesValue.line hmultiple hmem hnotBlank hparse
    · rintro (⟨hsingle⟩ | ⟨-, hmem, hnotBlank, hparse⟩)
      · cases hmultiple.symm.trans hsingle
      · exact ⟨_, _, ⟨_, rfl, hmem, hnotBlank⟩, _, hparse, rfl⟩
  · rw [List.mem_singleton, eq_comm, map_eq_ok_iff]
    simp only [mapError_eq_ok_iff]
    constructor
    · rintro ⟨v, hparse, rfl⟩
      apply GivesValue.whole (eq_false_of_ne_true hmultiple) hparse
    · rintro (⟨-, hparse⟩ | ⟨hmultiple'⟩)
      · exact ⟨_, hparse, rfl⟩
      · apply absurd hmultiple' hmultiple

theorem error_mem_valuesOf_iff {fault : InputFault} :
  .error fault ∈ valuesOf settings t ↔ ValueFails settings t fault
  := by
  rw [valuesOf]
  split_ifs with hmultiple
  · simp only [List.mem_map, Prod.exists, mem_documentLines_iff, valueOfLine, map_eq_error_iff,
      mapError_eq_error_iff]
    constructor
    · rintro ⟨line, _, ⟨i, rfl, hmem, hnotBlank⟩, f, hparse, rfl⟩
      apply ValueFails.line hmultiple hmem hnotBlank hparse
    · rintro (⟨hsingle⟩ | ⟨-, hmem, hnotBlank, hparse⟩)
      · cases hmultiple.symm.trans hsingle
      · exact ⟨_, _, ⟨_, rfl, hmem, hnotBlank⟩, _, hparse, rfl⟩
  · rw [List.mem_singleton, eq_comm, map_eq_error_iff, mapError_eq_error_iff]
    constructor
    · rintro ⟨f, hparse, rfl⟩
      apply ValueFails.whole (eq_false_of_ne_true hmultiple) hparse
    · rintro (⟨-, hparse⟩ | ⟨hmultiple'⟩)
      · exact ⟨_, hparse, rfl⟩
      · apply absurd hmultiple' hmultiple

theorem documentsOfLine_eq (origin : String) (line : List Char × Nat) :
  documentsOfLine bound around settings origin line =
    documentsOfValue bound around settings (valueOfLine origin line)
  := by
  rw [documentsOfLine, valueOfLine]
  cases Json.parse (.ofList line.1) <;> rfl

/-- The documents in a text are those that are made of its values. -/
theorem documentsOfText_eq (t : InputText) :
  documentsOfText bound around settings t =
    ((valuesOf settings t).mapM (documentsOfValue bound around settings)).map List.flatten
  := by
  rw [documentsOfText, valuesOf]
  split_ifs with hmultiple
  · have hlines : documentsOfLine bound around settings t.origin
        = documentsOfValue bound around settings ∘ valueOfLine t.origin :=
      funext (documentsOfLine_eq t.origin)
    rw [hlines, List.mapM_map]
    rfl
  · rw [List.mapM_cons, List.mapM_nil]
    cases Json.parse t.text with
    | error fault => rfl
    | ok v =>
        change documentsOfDocument bound around settings ⟨t.origin, v⟩
          = (documentsOfDocument bound around settings ⟨t.origin, v⟩ >>= _).map _
        cases documentsOfDocument bound around settings ⟨t.origin, v⟩ with
        | error o => rfl
        | ok ds => exact congrArg Except.ok (List.append_nil ds).symm

/-- The documents in several texts are those that are made of all their values. -/
theorem documentsOfTexts_eq (ts : List InputText) :
  documentsOfTexts bound around settings ts =
    ((ts.flatMap (valuesOf settings)).mapM (documentsOfValue bound around settings)).map
      List.flatten
  := by
  have hcons (t : InputText) (ts : List InputText) :
      documentsOfTexts bound around settings (t :: ts) =
        concat (documentsOfText bound around settings t)
          (documentsOfTexts bound around settings ts) := by
    rw [documentsOfTexts, documentsOfTexts, List.mapM_cons]
    cases documentsOfText bound around settings t with
    | error o => rfl
    | ok ds => cases ts.mapM (documentsOfText bound around settings) <;> rfl
  induction ts with
  | nil => rfl
  | cons t ts ih =>
      rw [hcons, ih, documentsOfText_eq, List.flatMap_cons, mapM_append_eq_concat,
        concat_map_flatten]

end

/-! ## Inputs -/

section

variable (around : Surroundings) (files : Files Id) (stdin : List UInt8)
  (settings : InputSettings)

/-- There is a fault in some input, at some position of the list. -/
inductive InputFails : InputFault → Prop where
  | text {input : String} {bytes : List UInt8} {fault : InputFault}
    (reached : Reached stdin settings.input input bytes)
    (fails : TextFails files bytes input fault) :
    InputFails fault
  | value {input : String} {bytes : List UInt8} {t : InputText} {fault : InputFault}
    (reached : Reached stdin settings.input input bytes) (gives : GivesText files bytes input t)
    (fails : ValueFails settings t fault) :
    InputFails fault
  | part {input : String} {bytes : List UInt8} {t : InputText} {d : Document} {fault : InputFault}
    (reached : Reached stdin settings.input input bytes) (gives : GivesText files bytes input t)
    (value : GivesValue settings t d) (fails : PartFails around settings d fault) :
    InputFails fault

/-- A filter ends the program on a value, or goes on for ever, before there is a fault: all inputs
have their texts, and all values in front have documents. -/
inductive InputEnds : Ending → Prop where
  | part {ts : List InputText} {before after : List (Except InputFault Document)} {d : Document}
    {why : Ending} (texts : (inputTexts files stdin settings.input).run.run = .ok ts)
    (values : ts.flatMap (valuesOf settings) = before ++ .ok d :: after)
    (given : ∀ x ∈ before, ∃ b ds, x = .ok b ∧ PartGives around settings b ds)
    (ends : PartEnds around settings d why) :
    InputEnds why

end

section

variable {around : Surroundings} {files : Files Id} {stdin : List UInt8}
  {settings : InputSettings}

theorem loadDocuments_run {bound : Nat} :
  (loadDocuments bound around files stdin settings).run.run =
    (inputTexts files stdin settings.input).run.run.mapError .fault >>=
      documentsOfTexts bound around settings
  := by
  rw [loadDocuments, run_bind]
  congr 1
  funext ts
  cases documentsOfTexts bound around settings ts <;> rfl

/-- Once all inputs have their texts, a fault in some input is a fault in some value. -/
theorem inputFails_iff_of_inputTexts {ts : List InputText}
    (hts : (inputTexts files stdin settings.input).run.run = .ok ts) {fault : InputFault} :
  InputFails around files stdin settings fault ↔
    ∃ x ∈ ts.flatMap (valuesOf settings),
      x = .error fault ∨ ∃ d, x = .ok d ∧ PartFails around settings d fault
  := by
  simp only [List.mem_flatMap, mem_iff_of_inputTexts hts]
  constructor
  · rintro (⟨hreached, hfails⟩ | ⟨hreached, hgives, hfails⟩ | ⟨hreached, hgives, hvalue, hpart⟩)
    · apply absurd hfails (not_textFails_of_inputTexts hts hreached)
    · exact ⟨.error fault, ⟨_, ⟨_, _, hreached, hgives⟩, error_mem_valuesOf_iff.mpr hfails⟩,
        .inl rfl⟩
    · exact ⟨.ok _, ⟨_, ⟨_, _, hreached, hgives⟩, ok_mem_valuesOf_iff.mpr hvalue⟩,
        .inr ⟨_, rfl, hpart⟩⟩
  · rintro ⟨_, ⟨t, ⟨input, bytes, hreached, hgives⟩, hx⟩, rfl | ⟨d, rfl, hpart⟩⟩
    · apply InputFails.value hreached hgives (error_mem_valuesOf_iff.mp hx)
    · apply InputFails.part hreached hgives (ok_mem_valuesOf_iff.mp hx) hpart

theorem loadDocuments_monotone :
  Monotone fun bound => (loadDocuments bound around files stdin settings).run.run
  := by
  intro bound bound' hbound
  simp only [loadDocuments_run]
  apply bind_le_bind le_rfl
  intro ts
  rw [documentsOfTexts_eq, documentsOfTexts_eq]
  apply map_le_map
  apply mapM_le_mapM
  intro x
  apply bind_le_bind le_rfl
  intro d
  apply documentsOfDocument_monotone settings d hbound

/-- What is made of a value comes to something in the end. -/
theorem exists_documentsOfValue (around : Surroundings) (settings : InputSettings) :
  ∃ g : Except InputFault Document → Except (Obstacle InputFault) (List Document),
    ∀ x, ComesTo (fun bound => documentsOfValue bound around settings x) (g x)
  := by
  have hvalue (x : Except InputFault Document) :
      ∃ r, ComesTo (fun bound => documentsOfValue bound around settings x) r := by
    cases x with
    | error fault => exact ⟨_, ComesTo.const (Except.error (Obstacle.fault fault))⟩
    | ok d => apply exists_comesTo (documentsOfDocument_monotone settings d)
  choose g hg using hvalue
  use g

section

variable {g : Except InputFault Document → Except (Obstacle InputFault) (List Document)}
  (hg : ∀ x, ComesTo (fun bound => documentsOfValue bound around settings x) (g x))

include hg

theorem value_error (fault : InputFault) :
  g (.error fault) = .error (.fault fault)
  := (hg (.error fault)).unique (ComesTo.const _)

theorem value_ok_eq_iff {d : Document} {r : Except (Obstacle InputFault) (List Document)} :
  g (.ok d) = r ↔ ComesTo (fun bound => documentsOfDocument bound around settings d) r
  := (hg (.ok d)).eq_iff

/-- A fault in a value is in its text or in the part that is selected. -/
theorem value_eq_fault_iff {x : Except InputFault Document} {fault : InputFault} :
  g x = .error (.fault fault) ↔
    x = .error fault ∨ ∃ d, x = .ok d ∧ PartFails around settings d fault
  := by
  cases x with
  | error fault' => simp [value_error hg]
  | ok d => simp [value_ok_eq_iff hg, partFails_iff]

theorem value_eq_ended_iff {x : Except InputFault Document} {why : Ending} :
  g x = .error (.ended why) ↔ ∃ d, x = .ok d ∧ PartEnds around settings d why
  := by
  cases x with
  | error fault => simp [value_error hg]
  | ok d => simp [value_ok_eq_iff hg, partEnds_iff]

theorem value_eq_ok_iff {x : Except InputFault Document} {ds : List Document} :
  g x = .ok ds ↔ ∃ d, x = .ok d ∧ PartGives around settings d ds
  := by
  cases x with
  | error fault => simp [value_error hg]
  | ok d => simp [value_ok_eq_iff hg, PartGives]

/-- Loading comes to what is made of all values in the end. -/
theorem comesTo_loadDocuments :
  ComesTo (fun bound => (loadDocuments bound around files stdin settings).run.run)
    ((inputTexts files stdin settings.input).run.run.mapError .fault >>= fun ts =>
      ((ts.flatMap (valuesOf settings)).mapM g).map List.flatten)
  := by
  simp only [loadDocuments_run]
  apply (ComesTo.const _).bind
  intro ts
  simp only [documentsOfTexts_eq]
  apply (ComesTo.mapM hg _).map (Except.map List.flatten)

end

/-- If there are no documents because of a fault, it is a fault of some input. -/
theorem inputFails_of_loadDocuments {fault : InputFault}
    (h : ComesTo (fun bound => (loadDocuments bound around files stdin settings).run.run)
      (.error (.fault fault))) :
  InputFails around files stdin settings fault
  := by
  obtain ⟨g, hg⟩ := exists_documentsOfValue around settings
  have h := (comesTo_loadDocuments hg).unique h
  obtain h | ⟨ts, hts, h⟩ := bind_eq_error_iff.mp h
  · obtain ⟨_, h, ⟨⟩⟩ := mapError_eq_error_iff.mp h
    obtain ⟨input, bytes, hreached, hfails⟩ := textFails_of_inputTexts h
    apply InputFails.text hreached hfails
  · obtain ⟨x, hx, h⟩ := exists_of_mapM_eq_error (map_eq_error_iff.mp h)
    apply (inputFails_iff_of_inputTexts (mapError_eq_ok_iff.mp hts)).mpr
    use x, hx, (value_eq_fault_iff hg).mp h

/-- If there are documents, there is no fault in any input. -/
theorem not_inputFails_of_loadDocuments {ds : List Document}
    (h : ComesTo (fun bound => (loadDocuments bound around files stdin settings).run.run)
      (.ok ds)) {fault : InputFault} :
  ¬ InputFails around files stdin settings fault
  := by
  obtain ⟨g, hg⟩ := exists_documentsOfValue around settings
  obtain ⟨ts, hts, h⟩ := bind_eq_ok_iff.mp ((comesTo_loadDocuments hg).unique h)
  obtain ⟨dss, hdss, -⟩ := map_eq_ok_iff.mp h
  rw [inputFails_iff_of_inputTexts (mapError_eq_ok_iff.mp hts)]
  rintro ⟨x, hx, hfails⟩
  obtain ⟨ds', -, hok⟩ := exists_of_mapM_eq_ok hdss hx
  cases hok.symm.trans ((value_eq_fault_iff hg).mpr hfails)

/-- Loading is ended by a filter exactly if a filter ends the program, or goes on for ever, before
there is a fault. -/
theorem loadDocuments_ends_iff {why : Ending} :
  ComesTo (fun bound => (loadDocuments bound around files stdin settings).run.run)
      (.error (.ended why)) ↔
    InputEnds around files stdin settings why
  := by
  obtain ⟨g, hg⟩ := exists_documentsOfValue around settings
  rw [← (comesTo_loadDocuments hg).eq_iff, bind_eq_error_iff]
  simp only [map_eq_error_iff, mapM_eq_error_iff, value_eq_ended_iff hg, value_eq_ok_iff hg,
    mapError_eq_ok_iff, mapError_eq_error_iff]
  constructor
  · rintro (⟨_, -, ⟨⟩⟩ | ⟨ts, hts, before, _, after, hvalues, hbefore, d, rfl, hends⟩)
    apply InputEnds.part hts hvalues _ hends
    intro x hx
    obtain ⟨ds, b, rfl, hgives⟩ := hbefore x hx
    use b, ds
  · rintro ⟨hts, hvalues, hbefore, hends⟩
    right
    refine ⟨_, hts, _, _, _, hvalues, ?_, _, rfl, hends⟩
    intro x hx
    obtain ⟨b, ds, rfl, hgives⟩ := hbefore x hx
    use ds, b

end

end Assay.Command

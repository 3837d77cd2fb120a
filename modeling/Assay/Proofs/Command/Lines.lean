import Assay.Proofs.Command.Loading
import Assay.Proofs.Json.Printable
import Assay.Proofs.Json.Settled
import Assay.Proofs.Text

/-!
# Values on lines

A layout has values on lines of their own, in compact form, and any number of blank lines before,
between and after them (`Layout`).  The lines of its text that are not blank are those of its
values (`documentLines_text`), so that the documents in it are its values, each with the number
of its line in its origin (`documentsOfText_layout`), whereas no documents are loaded if a line is
neither blank nor a value (`loadDocuments_lines`).
-/

namespace Assay.Command

open Assay.Filter

/-! ## Layouts -/

/-- A value that is read back from its compact text: without fractions, with no more levels than
there is room for, and without repeated names. -/
structure Plain where
  value : Json
  integral : value.Integral
  levels : value.levels ≤ 127
  names : value.UniqueNames

/-- The text of a line without its ending. -/
inductive Row where
  | blank (cs : List Char) (blank : ∀ c ∈ cs, Text.isBlank c = true) (single : '\n' ∉ cs)
  | value (p : Plain)

namespace Row

def chars : Row → List Char
  | blank cs _ _ => cs
  | value p => p.value.compactChars

/-- The value on a line that is not blank. -/
def value? : Row → Option Plain
  | blank _ _ _ => none
  | value p => some p

end Row

/-- The ways to end a line. -/
inductive LineEnd where
  | feed
  | returnFeed

namespace LineEnd

/-- What stands in front of the line feed. -/
def beforeFeed : LineEnd → List Char
  | feed => []
  | returnFeed => ['\r']

def chars (e : LineEnd) : List Char := e.beforeFeed ++ ['\n']

end LineEnd

/-- Lines with their endings, and what follows the last ending, which is blank if nothing does. -/
structure Layout where
  lines : List (Row × LineEnd)
  last : Row

namespace Layout

def rows (layout : Layout) : List Row := layout.lines.map Prod.fst ++ [layout.last]

def chars (layout : Layout) : List Char :=
  layout.lines.flatMap (fun l => l.1.chars ++ l.2.chars) ++ layout.last.chars

/-- The text of a layout. -/
def text (layout : Layout) : String := .ofList layout.chars

/-- The values of a layout, in order. -/
def values (layout : Layout) : List Json :=
  (layout.rows.filterMap Row.value?).map Plain.value

end Layout

/-- The value on the line of a number, if there is one. -/
def Row.entries (row : Row) (n : Nat) : List (Plain × Nat) :=
  (row.value?.map fun p => (p, n)).toList

/-- The values on lines that are numbered from `n` on, with the numbers of their lines. -/
def entriesFrom (n : Nat) (rows : List Row) : List (Plain × Nat) :=
  (rows.zipIdx n).flatMap fun r => r.1.entries r.2

/-- The document of a value on the line of a number. -/
def documentOf (origin : String) (e : Plain × Nat) : Document :=
  ⟨numbered origin ":" e.2, e.1.value⟩

/-- The documents of a layout: its values, each with the number of its line. -/
def Layout.documents (origin : String) (layout : Layout) : List Document :=
  (entriesFrom 1 layout.rows).map (documentOf origin)

theorem entriesFrom_cons (n : Nat) (row : Row) (rows : List Row) :
  entriesFrom n (row :: rows) = row.entries n ++ entriesFrom (n + 1) rows
  := by
  rw [entriesFrom, List.zipIdx_cons, List.flatMap_cons, entriesFrom]

theorem map_fst_entriesFrom (n : Nat) (rows : List Row) :
  (entriesFrom n rows).map Prod.fst = rows.filterMap Row.value?
  := by
  induction rows generalizing n with
  | nil => rfl
  | cons row rest ih =>
      rw [entriesFrom_cons, List.map_append, ih, List.filterMap_cons]
      cases row <;> rfl

/-- The documents of a layout hold its values. -/
theorem Layout.map_value_documents (origin : String) (layout : Layout) :
  (layout.documents origin).map Document.value = layout.values
  := by
  rw [documents, values, ← map_fst_entriesFrom 1, List.map_map, List.map_map]
  rfl

/-! ## Lines of layouts -/

namespace Row

theorem notMem_compactChars (p : Plain) {c : Char} (hc : c.toNat < 0x20) :
  c ∉ p.value.compactChars
  := (Json.printable_compactChars p.integral).notMem hc

theorem feed_notMem_chars (row : Row) :
  '\n' ∉ row.chars
  := by
  cases row with
  | blank cs blank single => exact single
  | value p => apply notMem_compactChars p (by decide)

/-- A row and the end of its line are cut off as one line. -/
theorem lines_append (row : Row) (e : LineEnd) (rest : List Char) :
  Text.lines (row.chars ++ e.chars ++ rest)
    = Text.dropReturn (row.chars ++ e.beforeFeed) :: Text.lines rest
  := by
  have hfeed : '\n' ∉ row.chars ++ e.beforeFeed := by
    rw [List.mem_append, not_or]
    use row.feed_notMem_chars
    cases e <;> decide
  rw [LineEnd.chars, ← List.append_assoc, List.append_assoc, List.singleton_append,
    Text.lines_append hfeed]

/-- A line has the value of a row on it, or is blank as the row is. -/
def Shows (row : Row) (line : List Char) : Prop :=
  match row with
  | blank _ _ _ => ∀ c ∈ line, Text.isBlank c = true
  | value p => line = p.value.compactChars

theorem shows_chars (row : Row) :
  row.Shows row.chars
  := by
  cases row with
  | blank cs blank single => exact blank
  | value p => rfl

theorem shows_dropReturn (row : Row) (e : LineEnd) :
  row.Shows (Text.dropReturn (row.chars ++ e.beforeFeed))
  := by
  cases row with
  | blank cs blank single =>
      intro c hc
      obtain hc | hc := List.mem_append.mp (Text.dropReturn_subset _ hc)
      · apply blank c hc
      · cases e with
        | feed => cases hc
        | returnFeed =>
            rw [List.mem_singleton.mp hc]
            rfl
  | value p =>
      cases e with
      | feed =>
          have hreturn : '\r' ∉ p.value.compactChars ++ [] := by
            rw [List.append_nil]
            apply notMem_compactChars p (by decide)
          apply Eq.trans (Text.dropReturn_of_notMem hreturn) (List.append_nil _)
      | returnFeed => apply Text.dropReturn_append_return

end Row

/-- The lines that are not blank, numbered from `n` on. -/
def notBlankFrom (n : Nat) (lines : List (List Char)) : List (List Char × Nat) :=
  (lines.zipIdx n).filter fun l => !l.1.all Text.isBlank

/-- The line of a value and its number. -/
def lineOf (e : Plain × Nat) : List Char × Nat := (e.1.value.compactChars, e.2)

/-- A line is passed over unless there is a value on it. -/
theorem notBlankFrom_cons {row : Row} {line : List Char} (h : row.Shows line) (n : Nat)
    (rest : List (List Char)) :
  notBlankFrom n (line :: rest) = (row.entries n).map lineOf ++ notBlankFrom (n + 1) rest
  := by
  rw [notBlankFrom, List.zipIdx_cons, List.filter_cons, ← notBlankFrom]
  cases row with
  | blank cs blank single =>
      have hall : (!line.all Text.isBlank) = false := by
        rw [List.all_eq_true.mpr h]
        rfl
      rw [if_neg (ne_true_of_eq_false hall)]
      rfl
  | value p =>
      obtain rfl : line = p.value.compactChars := h
      obtain ⟨u, us, hchars, hblank, -⟩ := Json.Reader.compactChars_eq_cons p.integral
      have hall : (!p.value.compactChars.all Text.isBlank) = true := by
        rw [hchars, List.all_cons, hblank]
        rfl
      rw [if_pos hall]
      rfl

/-- What follows the last line ending is a line if there is a value in it. -/
theorem notBlankFrom_last (n : Nat) (row : Row) :
  notBlankFrom n (Text.lines row.chars) = (row.entries n).map lineOf
  := by
  have hline : notBlankFrom n [row.chars] = (row.entries n).map lineOf :=
    Eq.trans (notBlankFrom_cons row.shows_chars n []) (List.append_nil _)
  rw [Text.lines_of_notMem row.feed_notMem_chars]
  split_ifs with hempty
  · rw [← hline, hempty]
    rfl
  · exact hline

/-- The lines of a layout that are not blank are those of its values. -/
theorem notBlankFrom_lines (n : Nat) (layout : Layout) :
  notBlankFrom n (Text.lines layout.chars) = (entriesFrom n layout.rows).map lineOf
  := by
  obtain ⟨lines, last⟩ := layout
  -- The induction is on the lines that have an ending; the others keep their numbers.
  induction lines generalizing n with
  | nil =>
      have hentries : entriesFrom n [last] = last.entries n := by
        rw [entriesFrom_cons]
        apply List.append_nil
      apply Eq.trans (notBlankFrom_last n last) (congrArg (List.map lineOf) hentries.symm)
  | cons l rest ih =>
      have hchars : Layout.chars ⟨l :: rest, last⟩
          = l.1.chars ++ l.2.chars ++ Layout.chars ⟨rest, last⟩ := by
        rw [Layout.chars, Layout.chars, List.flatMap_cons, List.append_assoc]
      have hrows : Layout.rows ⟨l :: rest, last⟩ = l.1 :: Layout.rows ⟨rest, last⟩ := rfl
      rw [hchars, Row.lines_append, notBlankFrom_cons (l.1.shows_dropReturn l.2), ih, hrows,
        entriesFrom_cons, List.map_append]

theorem documentLines_text (layout : Layout) :
  documentLines layout.text = (entriesFrom 1 layout.rows).map lineOf
  := by
  rw [documentLines, Layout.text, String.toList_ofList, ← notBlankFrom, notBlankFrom_lines]

/-! ## Loading -/

section

variable {bound : Nat} {around : Surroundings} {files : Files Id} {stdin : List UInt8}

/-- The value on a line is read back. -/
theorem documentsOfLine_lineOf (inputs : List String) (origin : String) (e : Plain × Nat) :
  documentsOfLine bound around ⟨true, none, none, inputs⟩ origin (lineOf e)
    = .ok [documentOf origin e]
  := by
  have hparse : Json.parse (.ofList e.1.value.compactChars) = .ok e.1.value :=
    Json.parse_compact e.1.integral e.1.levels e.1.names
  rw [documentsOfLine, lineOf, hparse]
  rfl

/-- The documents in the text of a layout are those of its values. -/
theorem documentsOfText_layout (inputs : List String) (origin : String) (layout : Layout) :
  documentsOfText bound around ⟨true, none, none, inputs⟩ ⟨origin, layout.text⟩
    = .ok (layout.documents origin)
  := by
  have hlines : ((entriesFrom 1 layout.rows).map lineOf).mapM
        (documentsOfLine bound around ⟨true, none, none, inputs⟩ origin)
      = .ok ((entriesFrom 1 layout.rows).map fun e => [documentOf origin e]) := by
    rw [mapM_eq_ok_iff, List.forall₂_map_left_iff, List.forall₂_map_right_iff, List.forall₂_same]
    intro e _
    apply documentsOfLine_lineOf
  have hflatten : ((entriesFrom 1 layout.rows).map fun e => [documentOf origin e]).flatten
      = (entriesFrom 1 layout.rows).map (documentOf origin) := by
    rw [← List.flatMap_def, ← List.map_eq_flatMap]
  rw [documentsOfText, if_pos rfl, documentLines_text, hlines]
  apply congrArg Except.ok hflatten

/-- The documents of a single file are those in its text. -/
theorem loadDocuments_file {settings : InputSettings} {input path text : String}
    (hinput : settings.input = [input]) (hother : input ≠ stdinName)
    (hpaths : (pathsOf files input).run.run = .ok [path])
    (hread : (files.read path).run = .ok (Text.utf8Bytes text)) :
  (loadDocuments bound around files stdin settings).run.run
    = documentsOfText bound around settings ⟨path, text⟩
  := by
  have htext : (fileText files path).run.run = .ok ⟨path, text⟩ :=
    fileText_eq_ok_iff.mpr ⟨_, _, hread, Text.decodeUtf8?_utf8Bytes text, rfl⟩
  have htexts : (fileTexts files input).run.run = .ok [⟨path, text⟩] := by
    rw [fileTexts, run_bind, hpaths]
    apply Eq.trans (run_mapM [path] (fileText files))
    rw [List.mapM_cons, htext]
    rfl
  rw [loadDocuments_run, hinput, inputTexts_cons_run, textsOf, if_neg hother, htexts]
  change documentsOfTexts bound around settings [⟨path, text⟩] = _
  rw [documentsOfTexts, List.mapM_cons]
  cases documentsOfText bound around settings ⟨path, text⟩ with
  | error fault => rfl
  | ok ds => apply congrArg Except.ok (List.append_nil ds)

/-- The documents of a file that is a layout are those of the layout. -/
theorem loadDocuments_layout {input path : String} {layout : Layout} (hother : input ≠ stdinName)
    (hpaths : (pathsOf files input).run.run = .ok [path])
    (hread : (files.read path).run = .ok (Text.utf8Bytes layout.text)) :
  (loadDocuments bound around files stdin ⟨true, none, none, [input]⟩).run.run
    = .ok (layout.documents path)
  := by
  rw [loadDocuments_file rfl hother hpaths hread, documentsOfText_layout]

/-- Without a filter, nothing but a fault keeps a value from having documents. -/
theorem exists_fault_of_documentsOfValue {settings : InputSettings}
    {x : Except InputFault Document} {o : Obstacle InputFault} (hnone : settings.jqExpr = none)
    (h : documentsOfValue bound around settings x = .error o) :
  ∃ fault, o = .fault fault
  := by
  obtain hx | ⟨d, -, hd⟩ := bind_eq_error_iff.mp h
  · obtain ⟨fault, -, rfl⟩ := mapError_eq_error_iff.mp hx
    use fault
  · rw [documentsOfDocument, hnone] at hd
    obtain hselect | ⟨d', -, ⟨⟩⟩ := bind_eq_error_iff.mp hd
    obtain ⟨fault, -, rfl⟩ := mapError_eq_error_iff.mp hselect
    use fault

/-- No documents are loaded if there is something wrong with a value, because of a fault if there
is no filter. -/
theorem exists_obstacle_of_valueFails {settings : InputSettings} {input : String}
    {bytes : List UInt8} {t : InputText} {fault : InputFault}
    (hreached : Reached stdin settings.input input bytes) (hgives : GivesText files bytes input t)
    (hfails : ValueFails settings t fault) :
  ∃ o, (loadDocuments bound around files stdin settings).run.run = .error o ∧
    (settings.jqExpr = none → ∃ fault, o = .fault fault)
  := by
  rw [loadDocuments_run]
  cases hts : (inputTexts files stdin settings.input).run.run with
  | error fault => exact ⟨.fault fault, rfl, fun _ => ⟨fault, rfl⟩⟩
  | ok ts =>
      have ht := (mem_iff_of_inputTexts hts).mpr ⟨input, bytes, hreached, hgives⟩
      have hx := List.mem_flatMap.mpr ⟨t, ht, error_mem_valuesOf_iff.mpr hfails⟩
      cases hdss : (ts.flatMap (valuesOf settings)).mapM
          (documentsOfValue bound around settings) with
      | ok dss =>
          obtain ⟨ds, -, ⟨⟩⟩ := exists_of_mapM_eq_ok hdss hx
      | error o =>
          use o
          constructor
          · apply Eq.trans (documentsOfTexts_eq ts)
            rw [hdss]
            rfl
          · intro hnone
            obtain ⟨x, -, hx⟩ := exists_of_mapM_eq_error hdss
            apply exists_fault_of_documentsOfValue hnone hx

end

/-- Values on lines of a file are loaded in order, each with the number of its line, and no
documents are loaded if a line of some text is neither blank nor a value. -/
theorem loadDocuments_lines (bound : Nat) (around : Surroundings) (files : Files Id)
    (stdin : List UInt8) :
  (∀ (input path : String) (layout : Layout), input ≠ stdinName →
      (pathsOf files input).run.run = .ok [path] →
      (files.read path).run = .ok (Text.utf8Bytes layout.text) →
      (loadDocuments bound around files stdin ⟨true, none, none, [input]⟩).run.run
          = .ok (layout.documents path) ∧
        (layout.documents path).map Document.value = layout.values) ∧
    ∀ (settings : InputSettings) (input : String) (bytes : List UInt8) (t : InputText)
      (line : List Char), settings.ndjson = true →
      Reached stdin settings.input input bytes → GivesText files bytes input t →
      line ∈ Text.lines t.text.toList → (∃ c ∈ line, Text.isBlank c = false) →
      (∀ v, Json.parse (.ofList line) ≠ .ok v) →
      ∃ o, (loadDocuments bound around files stdin settings).run.run = .error o ∧
        (settings.jqExpr = none → ∃ fault, o = .fault fault)
  := by
  constructor
  · intro input path layout hother hpaths hread
    use loadDocuments_layout hother hpaths hread, layout.map_value_documents path
  · intro settings input bytes t line hndjson hreached hgives hline hnotBlank hparse
    obtain ⟨i, hi⟩ := List.mem_iff_getElem?.mp hline
    cases hfault : Json.parse (.ofList line) with
    | ok v => apply absurd hfault (hparse v)
    | error fault =>
        apply exists_obstacle_of_valueFails hreached hgives
        apply ValueFails.line hndjson hi hnotBlank hfault

/-- A blank line, the number 1, an empty line, and a string with a line feed in it that no line
ending follows. -/
def spacedLines : Layout where
  lines := [(.blank [' '] (List.all_eq_true.mp rfl) (by decide), .feed),
    (.value ⟨.number (.int 1), .number (by decide) (by decide), by decide, .number _⟩, .returnFeed),
    (.blank [] (List.all_eq_true.mp rfl) (by decide), .returnFeed)]
  last := .value ⟨.string "a\nb", .string _, by decide, .string _⟩

/-- Two files: the layout, and a line with two values on it. -/
def spacedAndCrowded : FileTree :=
  .directory [("l", .file (Text.utf8Bytes spacedLines.text)), ("c", .file [49, 32, 50])]

theorem number_and_string_loaded :
    (loadDocuments 0 greenwich spacedAndCrowded.files [] ⟨true, none, none, ["l"]⟩).run.run
      = .ok [⟨"l:2", .number (.int 1)⟩, ⟨"l:4", .string "a\nb"⟩] ∧
    ∃ fault, (loadDocuments 0 greenwich spacedAndCrowded.files []
        ⟨true, none, none, ["l", "c"]⟩).run.run = .error (.fault fault)
  := by
  obtain ⟨hlayout, hline⟩ := loadDocuments_lines 0 greenwich spacedAndCrowded.files []
  constructor
  · obtain ⟨hload, -⟩ := hlayout "l" "l" spacedLines (by decide) rfl rfl
    have horigins : numbered "l" ":" 2 = "l:2" ∧ numbered "l" ":" 4 = "l:4" := by decide +kernel
    rw [hload, ← horigins.1, ← horigins.2]
    rfl
  · have hread : (spacedAndCrowded.files.read "c").run = .ok [49, 32, 50] := rfl
    have hdecoded : Text.decodeUtf8? [49, 32, 50] = some "1 2" := by decide +kernel
    have hgives : GivesText spacedAndCrowded.files [] "c" ⟨"c", "1 2"⟩ :=
      .file (by decide) (.literal rfl) hread hdecoded
    have hreached : Reached [] ["l", "c"] "c" [] := ⟨["l"], [], rfl, rfl⟩
    have hparse (v : Json) : Json.parse (.ofList ['1', ' ', '2']) ≠ .ok v := by
      have hisOk : (Json.parse (.ofList ['1', ' ', '2'])).isOk = false := by decide +kernel
      intro hv
      rw [hv] at hisOk
      cases hisOk
    have hblank : ∃ c ∈ ['1', ' ', '2'], Text.isBlank c = false := by
      use '1'
      decide
    have hmem : ['1', ' ', '2'] ∈ Text.lines "1 2".toList := by decide +kernel
    obtain ⟨_, hload, hfault⟩ := hline ⟨true, none, none, ["l", "c"]⟩ "c" [] ⟨"c", "1 2"⟩
      ['1', ' ', '2'] rfl hreached hgives hmem hblank hparse
    obtain ⟨fault, rfl⟩ := hfault rfl
    use fault, hload

end Assay.Command

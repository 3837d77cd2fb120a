import Assay.Proofs.Command.Failing
import Assay.Proofs.Command.Lines

/-!
# Reports

A run that validates documents tells of each of them once, in the order in which they were
loaded, and the status is that of the count of rejections (`run_check_reports`).  What is told
of a document depends on its verdict alone (`reportOf`).  A quiet run leaves out what is told of
accepted documents and nothing else.
-/

namespace Assay

namespace Styled

/-! ## Texts without colours -/

theorem render_append (colour : Bool) (t u : Styled) :
  render colour (t ++ u) = render colour t ++ render colour u
  := by
  rw [render, List.map_append, String.join_append, ← render, ← render]

theorem render_of (look : Look) (text : String) :
  render false (of look text) = text
  := by
  rw [render, of, List.map_singleton, String.join_cons, String.join_nil, String.append_empty]
  rfl

theorem render_flatMap {α : Type} (colour : Bool) (f : α → Styled) (xs : List α) :
  render colour (xs.flatMap f) = String.join (xs.map fun x => render colour (f x))
  := by
  induction xs with
  | nil => rfl
  | cons x rest ih =>
      rw [List.flatMap_cons, render_append, ih, List.map_cons, String.join_cons]

end Styled

namespace Command

open Assay.Filter

/-! ## What is told -/

/-- What is told of a document of an origin: a check mark, unless told to be quiet, or a cross,
the place at fault if it is not the document itself, and the message. -/
def reportOf (quiet : Bool) (origin : String) : Except Rejection Unit → String
  | .ok () => if quiet then "" else "✔ " ++ origin ++ "\n"
  | .error e =>
    "✘ " ++ origin ++ (if e.path = "" then "" else " (at " ++ e.path ++ ")") ++ "\n"
      ++ "  " ++ e.message ++ "\n"

/-- The documents that a schema does not admit. -/
def rejectedAmong (s : Schema) (limit : Nat) (ds : List Document) : List Document :=
  ds.filter fun d => !s.admits limit d.value

/-- A reply tells of every document in order, then how many there are and how many of them are
rejected, and it has the status 0 if none is and 1 otherwise. -/
structure Reply.Reports (s : Schema) (limit : Nat) (quiet : Bool) (ds : List Document)
    (reply : Reply) : Prop where
  stdout : reply.stdout.render false
    = .join (ds.map fun d => reportOf quiet d.origin (s.validate limit d.value))
  stderr : reply.stderr.render false
    = .ofList (Decimal.digits ds.length) ++ " documents, "
      ++ .ofList (Decimal.digits (rejectedAmong s limit ds).length) ++ " rejected\n"
  status : reply.status = if (rejectedAmong s limit ds).length = 0 then 0 else 1

/-- The reply on documents that were loaded. -/
def Reply.ofDocuments (s : Schema) (limit : Nat) (quiet : Bool) (ds : List Document) : Reply :=
  .ofVerdicts quiet (ds.map (verdict s limit))

section

variable {s : Schema} {limit : Nat}

theorem isRejected_verdict (d : Document) :
  (verdict s limit d).isRejected = !s.admits limit d.value
  := by
  rw [Verdict.isRejected, verdict, Schema.admits]
  cases s.validate limit d.value <;> rfl

theorem rejectedCount_verdicts (s : Schema) (limit : Nat) (ds : List Document) :
  rejectedCount (ds.map (verdict s limit)) = (rejectedAmong s limit ds).length
  := by
  rw [rejectedCount, List.countP_map, rejectedAmong, ← List.countP_eq_length_filter]
  congr 1
  funext d
  apply isRejected_verdict

theorem placeText_eq (path : String) :
  placeText path = if path = "" then "" else " (at " ++ path ++ ")"
  := by
  simp only [placeText, String.isEmpty_iff]

/-- What is told of a document is told by its verdict alone. -/
theorem render_verdict (quiet : Bool) (d : Document) :
  ((verdict s limit d).text quiet).render false
    = reportOf quiet d.origin (s.validate limit d.value)
  := by
  rw [Verdict.text, verdict]
  cases s.validate limit d.value with
  | ok =>
      cases quiet with
      | true => rfl
      | false =>
          have hmark : "✔ " = "✔" ++ " " := rfl
          dsimp only [reportOf]
          rw [if_neg (by decide), if_neg (by decide), acceptedText, Styled.render_append,
            Styled.render_of, Styled.plain, Styled.render_of, hmark]
          simp only [String.append_assoc]
  | error e =>
      have hmark : "✘ " = "✘" ++ " " := rfl
      have hbreak : "\n  " = "\n" ++ "  " := rfl
      dsimp only [reportOf]
      rw [rejectedText, ← placeText_eq, hmark, hbreak]
      simp only [Styled.plain, Styled.render_append, Styled.render_of, String.append_assoc]

/-- The reply on documents tells of all of them, of their number and of that of the rejected
ones. -/
theorem reports_ofDocuments (quiet : Bool) (ds : List Document) :
  (Reply.ofDocuments s limit quiet ds).Reports s limit quiet ds
  := by
  have hcount := rejectedCount_verdicts s limit ds
  constructor
  case stdout =>
    rw [Reply.ofDocuments, Reply.ofVerdicts, verdictsText, List.flatMap_map,
      Styled.render_flatMap]
    simp only [render_verdict]
  case stderr =>
    have hend : " rejected\n" = " rejected" ++ "\n" := rfl
    rw [Reply.ofDocuments, Reply.ofVerdicts, summaryText, Styled.render_append,
      Styled.render_of, Styled.plain, Styled.render_of, summary, hcount, List.length_map, hend]
    simp only [String.append_assoc]
  case status =>
    rw [Reply.ofDocuments, Reply.ofVerdicts, hcount]
    rfl

/-- A quiet run leaves out the accepted documents. -/
theorem join_reportOf_quiet (ds : List Document) :
  String.join (ds.map fun d => reportOf true d.origin (s.validate limit d.value))
    = .join ((rejectedAmong s limit ds).map fun d =>
        reportOf false d.origin (s.validate limit d.value))
  := by
  induction ds with
  | nil => rfl
  | cons d rest ih =>
      rw [List.map_cons, String.join_cons, ih, rejectedAmong, rejectedAmong, List.filter_cons]
      cases h : s.validate limit d.value with
      | ok =>
          have hadmits : (!s.admits limit d.value) = false := by
            rw [Schema.admits, h]
            rfl
          rw [hadmits, if_neg (by decide), reportOf, if_pos rfl, String.empty_append]
      | error e =>
          have hadmits : (!s.admits limit d.value) = true := by
            rw [Schema.admits, h]
            rfl
          rw [hadmits, if_pos rfl, List.map_cons, String.join_cons, h]
          rfl

/-- A run that validates documents, and loads its schema and its documents, reports on them. -/
theorem run_eq_ofDocuments {bound : Nat} {around : Surroundings} {files : Files Id}
    {stdin : List UInt8} {args : List String} {r : CheckRequest} {ds : List Document}
    (hline : readCommandLine args = .ok (.check r)) (hnoOp : r.noOp = false)
    (hschema : (readSchema files r.schema).run.run = .ok s)
    (hdocuments : (loadDocuments bound around files stdin r.settings).run.run = .ok ds) :
  (run bound around files stdin args).run = .ok (.ofDocuments s r.maxDepth r.quiet ds)
  := by
  rw [run_eq_check_of_noOp hline hnoOp, check_run_of_schema hschema, hdocuments]
  rfl

end

/-- The reply on documents reports on all of them; if it is quiet, it has the same status and
the same summary as if it is not, and leaves out what is told of accepted documents.  It is the
reply of every run that loads these documents and this schema. -/
theorem run_check_reports (s : Schema) (limit : Nat) (ds : List Document) :
  (∀ quiet, (Reply.ofDocuments s limit quiet ds).Reports s limit quiet ds) ∧
    (Reply.ofDocuments s limit true ds).status = (Reply.ofDocuments s limit false ds).status ∧
    (Reply.ofDocuments s limit true ds).stderr = (Reply.ofDocuments s limit false ds).stderr ∧
    (Reply.ofDocuments s limit true ds).stdout.render false
      = .join ((rejectedAmong s limit ds).map fun d =>
          reportOf false d.origin (s.validate limit d.value)) ∧
    ∀ (bound : Nat) (around : Surroundings) (files : Files Id) (stdin : List UInt8)
      (args : List String) (r : CheckRequest),
      readCommandLine args = .ok (.check r) → r.noOp = false → r.maxDepth = limit →
      (readSchema files r.schema).run.run = .ok s →
      (loadDocuments bound around files stdin r.settings).run.run = .ok ds →
      (run bound around files stdin args).run = .ok (.ofDocuments s limit r.quiet ds)
  := by
  use fun quiet => reports_ofDocuments quiet ds, rfl, rfl
  constructor
  · rw [(reports_ofDocuments true ds).stdout, join_reportOf_quiet]
  · rintro bound around files stdin args r hline hnoOp rfl hschema hdocuments
    apply run_eq_ofDocuments hline hnoOp hschema hdocuments

/-- Two files: the schema `["string"]`, and a number and a string on lines. -/
def schemaAndLines : FileTree :=
  .directory [("s", .file [91, 34, 115, 116, 114, 105, 110, 103, 34, 93]),
    ("l", .file (Text.utf8Bytes spacedLines.text))]

theorem number_and_string_reported :
    (run 0 greenwich schemaAndLines.files []
        ["check", "-q", "--ndjson", "-s", "s", "-i", "l"]).run
      = .ok (.ofDocuments .string 128 true (spacedLines.documents "l")) ∧
    (Reply.ofDocuments .string 128 true (spacedLines.documents "l")).stdout.render false
      = "✘ l:2\n  expected 1 to be of type \"string\"\n"
  := by
  obtain ⟨-, -, -, hquiet, hrun⟩ := run_check_reports .string 128 (spacedLines.documents "l")
  constructor
  · have hline : readCommandLine ["check", "-q", "--ndjson", "-s", "s", "-i", "l"]
        = .ok (.check ⟨"s", ⟨true, none, none, ["l"]⟩, 128, true, false⟩) := rfl
    have hload : (loadDocuments 0 greenwich schemaAndLines.files []
        ⟨true, none, none, ["l"]⟩).run.run = .ok (spacedLines.documents "l") :=
      loadDocuments_layout (by decide) rfl rfl
    apply hrun _ _ _ _ _ _ hline rfl rfl rfl hload
  · rw [hquiet]
    decide +kernel

end Command

end Assay

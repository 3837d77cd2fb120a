import Assay.Proofs.Command.Failing
import Assay.Proofs.Schema.Document.Depth
import Assay.Proofs.Validation.DepthLimit

/-!
# The usual depth limit

A schema that was read from a document is less deep than the usual limit, so that nothing is
ever rejected for being too deep unless another limit is asked for
(`document_never_tooDeep`).
-/

namespace Assay.Command

open Assay.Filter
open Json (Source)

/-- Within the usual limit, a schema no deeper than readers allow rejects nothing for being too
deep. -/
theorem category_ne_tooDeep_of_depth_le {schema : Schema} {v : Json} {e : Rejection}
    (hdepth : schema.depth ≤ Json.Reader.maxDepth)
    (h : schema.validate Schema.defaultLimit v = .error e) :
  e.category ≠ .tooDeep
  := by
  apply (Schema.blames_of_examine_eq_error h).category_ne_tooDeep
  have hlimit : Schema.defaultLimit = Json.Reader.maxDepth + 1 := rfl
  omega

section

variable {bound : Nat} {around : Surroundings} {files : Files Id} {stdin : List UInt8}
  {r : CheckRequest}

/-- A schema from a file is no deeper than readers allow. -/
theorem depth_le_of_readSchema {path : String} {schema : Schema}
    (h : (readSchema files path).run.run = .ok schema) :
  schema.depth ≤ Json.Reader.maxDepth
  := by
  rw [readSchema_run] at h
  split at h
  next => cases h
  next => apply Schema.Document.depth_le_of_read (mapError_eq_ok_iff.mp h)

/-- Verdicts come from validating documents against the schema of the request. -/
theorem exists_of_mem_verdicts {vs : List Verdict}
    (h : (verdicts bound around files stdin r).run.run = .ok vs) {v : Verdict} (hv : v ∈ vs) :
  ∃ schema d, (readSchema files r.schema).run.run = .ok schema ∧ v = verdict schema r.maxDepth d
  := by
  rw [verdicts_run] at h
  obtain ⟨schema, hschema, h⟩ := bind_eq_ok_iff.mp h
  obtain ⟨ds, -, rfl⟩ := map_eq_ok_iff.mp h
  obtain ⟨d, -, rfl⟩ := List.mem_map.mp hv
  use schema, d, mapError_eq_ok_iff.mp hschema

end

theorem rejection_verdict {schema : Schema} {limit : Nat} {d : Document} {e : Rejection}
    (h : (verdict schema limit d).rejection = some e) :
  schema.validate limit d.value = .error e
  := by
  rw [verdict] at h
  dsimp only at h
  split at h
  next => cases h
  next hvalidate =>
    cases h
    exact hvalidate

/-- The schema of a text or of a file has at most 127 levels, so that within the usual limit
it rejects nothing for being too deep; neither does a run without another limit. -/
theorem document_never_tooDeep :
  (∀ {α : Type} [Source α] (text : List α) (schema : Schema),
      Schema.Document.read text = .ok schema →
      schema.depth ≤ 127 ∧
        ∀ v e, schema.validate Schema.defaultLimit v = .error e → e.category ≠ .tooDeep) ∧
    (∀ (files : Files Id) (path : String) (schema : Schema),
      (readSchema files path).run.run = .ok schema →
      schema.depth ≤ 127 ∧
        ∀ v e, schema.validate Schema.defaultLimit v = .error e → e.category ≠ .tooDeep) ∧
    ∀ (bound : Nat) (around : Surroundings) (files : Files Id) (stdin : List UInt8)
      (args : List String) (r : CheckRequest) (vs : List Verdict),
      (∀ arg ∈ args, ¬ Asks .maxDepth arg) → readCommandLine args = .ok (.check r) →
      (verdicts bound around files stdin r).run.run = .ok vs →
      ∀ v ∈ vs, ∀ e, v.rejection = some e → e.category ≠ .tooDeep
  := by
  and_intros
  · intro α _ text schema h
    have hdepth := Schema.Document.depth_le_of_read h
    use hdepth
    intro v e
    apply category_ne_tooDeep_of_depth_le hdepth
  · intro files path schema h
    have hdepth := depth_le_of_readSchema h
    use hdepth
    intro v e
    apply category_ne_tooDeep_of_depth_le hdepth
  · intro bound around files stdin args r vs hargs hline hverdicts v hv e he
    obtain ⟨schema, d, hschema, rfl⟩ := exists_of_mem_verdicts hverdicts hv
    have hvalidate := rejection_verdict he
    rw [maxDepth_of_readCommandLine hargs hline] at hvalidate
    apply category_ne_tooDeep_of_depth_le (depth_le_of_readSchema hschema) hvalidate

/-- The schema `["string"]` in a text and in a file, and the document `1`, which it rejects for
its kind. -/
theorem string_never_tooDeep :
  Schema.Document.read "[\"string\"]".toList = .ok .string ∧
    (readSchema schemaAndNumber.files "s").run.run = .ok .string ∧ Schema.string.depth ≤ 127 ∧
    (verdicts 0 greenwich schemaAndNumber.files []
        ⟨"s", ⟨false, none, none, ["a"]⟩, 128, false, false⟩).run.run
      = .ok [⟨"a", some (mismatch (some (.number (.int 1))) .string)⟩] ∧
    (mismatch (some (.number (.int 1))) .string).category ≠ .tooDeep
  := by
  have htext : Schema.Document.read "[\"string\"]".toList = .ok .string := rfl
  have hfile : (readSchema schemaAndNumber.files "s").run.run = .ok .string := rfl
  have hargs : ∀ arg ∈ ["check", "-s", "s", "-i", "a"], ¬ Asks .maxDepth arg := by
    intro arg harg hasks
    have hdashes : ∀ arg ∈ ["check", "-s", "s", "-i", "a"], ¬ ['-', '-'] <+: arg.toList := by
      decide
    apply hdashes arg harg hasks.dashes
  have hline : readCommandLine ["check", "-s", "s", "-i", "a"]
      = .ok (.check ⟨"s", ⟨false, none, none, ["a"]⟩, 128, false, false⟩) := rfl
  have hverdicts : (verdicts 0 greenwich schemaAndNumber.files []
        ⟨"s", ⟨false, none, none, ["a"]⟩, 128, false, false⟩).run.run
      = .ok [⟨"a", some (mismatch (some (.number (.int 1))) .string)⟩] := by
    have hvalue : Json.Reader.value Json.Reader.maxDepth (.start "1".toList)
        = .ok (.number (.int 1), ⟨[], ⟨1, 1⟩⟩) := by
      rw [Json.Reader.value.eq_def]
      rfl
    have hparse : Json.parse "1" = .ok (.number (.int 1)) := by
      rw [Json.parse, Json.Reader.onText_eq_ok_iff.mpr ⟨_, Json.Reader.bind_eq_ok hvalue _⟩]
      rfl
    have htexts : (inputTexts schemaAndNumber.files [] ["a"]).run.run = .ok [⟨"a", "1"⟩] :=
      rfl
    have hdocument : documentsOfText 0 greenwich ⟨false, none, none, ["a"]⟩ ⟨"a", "1"⟩
        = .ok [⟨"a", .number (.int 1)⟩] := by
      rw [documentsOfText, if_neg (by decide), hparse]
      rfl
    have hdocuments : documentsOfTexts 0 greenwich ⟨false, none, none, ["a"]⟩ [⟨"a", "1"⟩]
        = .ok [⟨"a", .number (.int 1)⟩] := by
      rw [documentsOfTexts, List.mapM_cons, hdocument]
      rfl
    rw [verdicts_run, hfile, loadDocuments_run, htexts]
    apply congrArg (fun ds => (ds.mapError (Obstacle.map Failure.input)).map
      (List.map (verdict .string 128))) hdocuments
  obtain ⟨hread, -, hcheck⟩ := document_never_tooDeep
  use htext, hfile, (hread _ _ htext).1, hverdicts
  apply hcheck _ _ _ _ _ _ _ hargs hline hverdicts _ List.mem_cons_self _ rfl

end Assay.Command

import Assay.Command.Run
import Assay.Proofs.Command.Arguments
import Assay.Proofs.Command.Loading
import Assay.Proofs.Json.Settled

/-!
# Runs that fail

A run that validates documents reports on all of them or on none.  If there is a fault in the
schema or in some input, the run tells that fault and nothing else; the fault of the schema
comes first.  It is otherwise only if a filter ends the program before there is a fault, or goes on
for ever (`run_check_all_or_nothing`).  This is about what runs come to as the bound on filters
grows (`RunsTo`), which is what they do within any bound that is enough for them (`run_eq_of_le`).
-/

namespace Assay.Command

open Assay.Filter

/-- The file of a schema cannot be read or is no schema document. -/
inductive SchemaFails (files : Files Id) (path : String) : SchemaFault → Prop where
  | unreadable {fault : ReadFault} (read : (files.read path).run = .error fault) :
    SchemaFails files path (.unreadable path fault)
  | malformed {content : List UInt8} {fault : Json.Fault}
    (read : (files.read path).run = .ok content)
    (malformed : Schema.Document.read content = .error fault) :
    SchemaFails files path (.malformed fault)

/-- A reply has the status 2, prints nothing on the standard output, and one error on the
standard error output, with colours and without. -/
structure Reply.Fails (reply : Reply) (message : String) : Prop where
  status : reply.status = 2
  stdout : ∀ colour, reply.stdout.render colour = ""
  stderr : ∀ colour, reply.stderr.render colour = "error: " ++ message ++ "\n"

theorem fails_ofFailure (message : String) :
  (Reply.ofFailure message).Fails message
  := by
  constructor
  · rfl
  · intro colour
    rfl
  · intro colour
    simp [Reply.ofFailure, Styled.render, Styled.plain, Styled.of, Styled.renderSpan]

section

variable {bound : Nat} {around : Surroundings} {files : Files Id} {stdin : List UInt8}
  {path : String} {r : CheckRequest}

theorem readSchema_run :
  (readSchema files path).run.run =
    match (files.read path).run with
    | .error fault => .error (.unreadable path fault)
    | .ok content => (Schema.Document.read content).mapError .malformed
  := by
  rw [readSchema]
  apply Eq.trans (run_lift_bind (files.read path) _)
  cases (files.read path).run with
  | error fault => rfl
  | ok content =>
      dsimp only
      cases Schema.Document.read content <;> rfl

/-- A schema cannot be read exactly if its file has a fault. -/
theorem readSchema_eq_error_iff {fault : SchemaFault} :
  (readSchema files path).run.run = .error fault ↔ SchemaFails files path fault
  := by
  rw [readSchema_run]
  constructor
  · intro h
    split at h
    next hread =>
      cases h
      apply SchemaFails.unreadable hread
    next content hread =>
      obtain ⟨f, hmalformed, rfl⟩ := mapError_eq_error_iff.mp h
      apply SchemaFails.malformed hread hmalformed
  · rintro (hread | ⟨hread, hmalformed⟩)
    · rw [hread]
    · rw [hread]
      apply mapError_eq_error_iff.mpr ⟨_, hmalformed, rfl⟩

/-- The verdicts are those on all documents, after the schema was read. -/
theorem verdicts_run :
  (verdicts bound around files stdin r).run.run =
    (readSchema files r.schema).run.run.mapError (fun fault => .fault (.schema fault)) >>= fun s =>
      ((loadDocuments bound around files stdin r.settings).run.run.mapError
        (Obstacle.map .input)).map fun ds => ds.map (verdict s r.maxDepth)
  := by
  rw [verdicts, run_bind]
  congr 1
  funext s
  rw [run_bind]
  change (loadDocuments bound around files stdin r.settings).run.run.mapError _ >>= _ = _
  cases (loadDocuments bound around files stdin r.settings).run.run <;> rfl

/-- What a run that validates documents does with the verdicts, or with what kept it from having
any. -/
theorem check_run :
  (check bound around files stdin r).run =
    match (verdicts bound around files stdin r).run.run with
    | .ok vs => .ok (.ofVerdicts r.quiet vs)
    | .error (.fault failure) => .ok (.ofFailure failure.message)
    | .error (.ended why) => .error why
  := by
  rw [check]
  change (match (verdicts bound around files stdin r).run.run with
    | .ok vs => pure (.ok (.ofVerdicts r.quiet vs))
    | .error (.fault failure) => pure (.ok (.ofFailure failure.message))
    | .error (.ended why) => pure (.error why) : Id (Except Ending Reply)).run = _
  rcases (verdicts bound around files stdin r).run.run with (failure | why) | vs <;> rfl

/-- A fault of the schema comes before any other. -/
theorem check_run_of_schemaFails {fault : SchemaFault} (h : SchemaFails files r.schema fault) :
  (check bound around files stdin r).run = .ok (.ofFailure fault.chain)
  := by
  rw [check_run, verdicts_run, readSchema_eq_error_iff.mpr h]
  rfl

/-- What a run does that has read its schema, given what loading does. -/
def replyOn (s : Schema) (r : CheckRequest) :
    Except (Obstacle InputFault) (List Document) → Except Ending Reply
  | .ok ds => .ok (.ofVerdicts r.quiet (ds.map (verdict s r.maxDepth)))
  | .error (.fault fault) => .ok (.ofFailure fault.message)
  | .error (.ended why) => .error why

theorem replyOn_eq_error_iff {s : Schema} {why : Ending}
    {loaded : Except (Obstacle InputFault) (List Document)} :
  replyOn s r loaded = .error why ↔ loaded = .error (.ended why)
  := by
  rcases loaded with (fault | why') | ds <;> simp [replyOn]

theorem check_run_of_schema {s : Schema} (h : (readSchema files r.schema).run.run = .ok s) :
  (check bound around files stdin r).run =
    replyOn s r (loadDocuments bound around files stdin r.settings).run.run
  := by
  rw [check_run, verdicts_run, h]
  rcases (loadDocuments bound around files stdin r.settings).run.run with (fault | why) | ds <;> rfl

/-- Unless it is told to do nothing, a run that validates documents is what `check` replies. -/
theorem run_eq_check_of_noOp {args : List String} (h : readCommandLine args = .ok (.check r))
    (hnoOp : r.noOp = false) :
  run bound around files stdin args = check bound around files stdin r
  := by
  rw [run, h]
  change (if r.noOp = true then _ else check bound around files stdin r) = _
  rw [hnoOp]
  rfl

/-- Without an argument that tells it to do nothing, a run that validates documents is what
`check` replies. -/
theorem run_eq_check {args : List String} (hargs : "--no-op" ∉ args)
    (h : readCommandLine args = .ok (.check r)) :
  run bound around files stdin args = check bound around files stdin r
  := by
  have hnoOp : r.noOp = false := by
    apply noOp_of_readCommandLine _ h
    rintro arg harg (rfl | ⟨⟨⟩, -⟩)
    apply hargs harg
  apply run_eq_check_of_noOp h hnoOp

/-! ## Greater bounds -/

theorem verdicts_monotone :
  Monotone fun bound => (verdicts bound around files stdin r).run.run
  := by
  intro bound bound' hbound
  simp only [verdicts_run]
  apply bind_le_bind le_rfl
  intro s
  apply map_le_map
  apply mapError_le_mapError _ (loadDocuments_monotone hbound)

theorem check_eq_of_le {bound' : Nat} (hbound : bound ≤ bound')
    (h : (check bound around files stdin r).run ≠ .error .unfinished) :
  (check bound' around files stdin r).run = (check bound around files stdin r).run
  := by
  have hverdicts : (verdicts bound around files stdin r).run.run
      ≤ (verdicts bound' around files stdin r).run.run := verdicts_monotone hbound
  rw [check_run] at h
  rw [check_run, check_run]
  obtain hunfinished | heq := hverdicts
  · rw [hunfinished] at h
    apply absurd rfl h
  · rw [heq]

/-- Only a run that validates documents depends on the bound. -/
theorem run_eq_ok_or_check (around : Surroundings) (files : Files Id) (stdin : List UInt8)
    (args : List String) :
  (∃ reply, ∀ bound, (run bound around files stdin args).run = .ok reply) ∨
    ∃ r, ∀ bound, run bound around files stdin args = check bound around files stdin r
  := by
  cases hline : readCommandLine args with
  | error halt =>
      left
      use .ofHalt halt
      intro bound
      rw [run, hline]
      rfl
  | ok request =>
      cases request with
      | explain q =>
          left
          use if q.noOp then .ofRequest (.explain q) else (explain files q).run
          intro bound
          rw [run, hline]
          dsimp only [answer]
          split_ifs <;> rfl
      | check q =>
          cases hnoOp : q.noOp with
          | true =>
              left
              use .ofRequest (.check q)
              intro bound
              rw [run, hline]
              dsimp only [answer]
              rw [if_pos hnoOp]
              rfl
          | false => exact .inr ⟨q, fun bound => run_eq_check_of_noOp hline hnoOp⟩

/-- A run that comes to an end within a bound does the same within every greater one. -/
theorem run_eq_of_le {bound' : Nat} {args : List String} (hbound : bound ≤ bound')
    (h : (run bound around files stdin args).run ≠ .error .unfinished) :
  (run bound' around files stdin args).run = (run bound around files stdin args).run
  := by
  obtain ⟨reply, hreply⟩ | ⟨q, hcheck⟩ := run_eq_ok_or_check around files stdin args
  · rw [hreply, hreply]
  · rw [hcheck] at h
    rw [hcheck, hcheck, check_eq_of_le hbound h]

end

/-- What a run comes to as the bound on filters grows. -/
def RunsTo (around : Surroundings) (files : Files Id) (stdin : List UInt8) (args : List String)
    (r : Except Ending Reply) : Prop :=
  ComesTo (fun bound => (run bound around files stdin args).run) r

section

variable {around : Surroundings} {files : Files Id} {stdin : List UInt8} {r : CheckRequest}
  {args : List String}

/-- A run comes to what it does within any bound that is enough for it. -/
theorem runsTo_of_run (bound : Nat) {result : Except Ending Reply}
    (h : (run bound around files stdin args).run = result) (hresult : result ≠ .error .unfinished) :
  RunsTo around files stdin args result
  := by
  subst h
  exact ⟨bound, fun bound' hbound => run_eq_of_le hbound hresult⟩

/-- A run goes on for ever exactly if no bound is enough for it. -/
theorem runsTo_unfinished_iff :
  RunsTo around files stdin args (.error .unfinished) ↔
    ∀ bound, (run bound around files stdin args).run = .error .unfinished
  := by
  constructor
  · intro h bound
    by_contra hbound
    apply hbound ((runsTo_of_run bound rfl hbound).unique h)
  · intro h
    exact ⟨0, fun bound _ => h bound⟩

/-- A run that has read its schema comes to what loading comes to. -/
theorem runsTo_replyOn {s : Schema} {loaded : Except (Obstacle InputFault) (List Document)}
    (hcheck : ∀ bound, run bound around files stdin args = check bound around files stdin r)
    (hschema : (readSchema files r.schema).run.run = .ok s)
    (hloaded : ComesTo (fun bound =>
      (loadDocuments bound around files stdin r.settings).run.run) loaded) :
  RunsTo around files stdin args (replyOn s r loaded)
  := by
  simp only [RunsTo, hcheck, check_run_of_schema hschema]
  apply hloaded.map

/-- A run that validates documents either tells one fault and nothing else or reports on all
documents, unless a filter ends the program or goes on for ever.  It tells the fault of the schema
if there is one, and otherwise the fault of an input if there is one in some input and no filter
does so before.  If a filter does, the run ends as the filter ends it, or goes on for ever. -/
theorem run_check_all_or_nothing (hargs : "--no-op" ∉ args)
    (h : readCommandLine args = .ok (.check r)) :
  (∀ fault, SchemaFails files r.schema fault →
      ∃ reply, RunsTo around files stdin args (.ok reply) ∧ reply.Fails fault.chain) ∧
    ((¬ ∃ fault, SchemaFails files r.schema fault) →
      (∃ fault, InputFails around files stdin r.settings fault) →
      (¬ ∃ why, InputEnds around files stdin r.settings why) →
      ∃ fault reply, InputFails around files stdin r.settings fault ∧
        RunsTo around files stdin args (.ok reply) ∧ reply.Fails fault.message) ∧
    ((¬ ∃ fault, SchemaFails files r.schema fault) →
      (¬ ∃ fault, InputFails around files stdin r.settings fault) →
      (¬ ∃ why, InputEnds around files stdin r.settings why) →
      ∃ reply, RunsTo around files stdin args (.ok reply) ∧
        (reply.status = 0 ∨ reply.status = 1)) ∧
    ((¬ ∃ fault, SchemaFails files r.schema fault) →
      ∀ why, RunsTo around files stdin args (.error why) ↔
        InputEnds around files stdin r.settings why)
  := by
  have hcheck (bound : Nat) :
      run bound around files stdin args = check bound around files stdin r := run_eq_check hargs h
  have hreads (hschema : ¬ ∃ fault, SchemaFails files r.schema fault) :
      ∃ s, (readSchema files r.schema).run.run = .ok s := by
    rw [exists_eq_ok_iff]
    simpa only [readSchema_eq_error_iff] using hschema
  have hmonotone : Monotone fun bound =>
      (loadDocuments bound around files stdin r.settings).run.run := loadDocuments_monotone
  obtain ⟨loaded, hloaded⟩ := exists_comesTo hmonotone
  and_intros
  · intro fault hfault
    use .ofFailure fault.chain
    constructor
    · apply runsTo_of_run 0
      · rw [hcheck, check_run_of_schemaFails hfault]
      · nofun
    · apply fails_ofFailure
  · intro hschema ⟨fault, hfault⟩ hends
    obtain ⟨s, hs⟩ := hreads hschema
    have hrun := runsTo_replyOn hcheck hs hloaded
    rcases loaded with (fault' | why) | ds
    · exact ⟨_, _, inputFails_of_loadDocuments hloaded, hrun, fails_ofFailure _⟩
    · apply absurd ⟨why, loadDocuments_ends_iff.mp hloaded⟩ hends
    · apply absurd hfault (not_inputFails_of_loadDocuments hloaded)
  · intro hschema hfails hends
    obtain ⟨s, hs⟩ := hreads hschema
    have hrun := runsTo_replyOn hcheck hs hloaded
    rcases loaded with (fault | why) | ds
    · apply absurd ⟨fault, inputFails_of_loadDocuments hloaded⟩ hfails
    · apply absurd ⟨why, loadDocuments_ends_iff.mp hloaded⟩ hends
    · use .ofVerdicts r.quiet (ds.map (verdict s r.maxDepth)), hrun
      dsimp only [Reply.ofVerdicts]
      split_ifs
      · exact .inl rfl
      · exact .inr rfl
  · intro hschema why
    obtain ⟨s, hs⟩ := hreads hschema
    rw [← loadDocuments_ends_iff, ← hloaded.eq_iff, ← replyOn_eq_error_iff]
    apply (runsTo_replyOn hcheck hs hloaded).eq_iff.symm

end

/-- Two files: the schema `["string"]`, and the document `1`. -/
def schemaAndNumber : FileTree :=
  .directory [("s", .file [91, 34, 115, 116, 114, 105, 110, 103, 34, 93]), ("a", .file [49])]

/-- If the second of two inputs is missing, the first is not reported on. -/
theorem second_input_missing :
  "--no-op" ∉ ["check", "-s", "s", "-i", "a", "b"] ∧
    (¬ ∃ fault, SchemaFails schemaAndNumber.files "s" fault) ∧
    InputFails greenwich schemaAndNumber.files [] ⟨false, none, none, ["a", "b"]⟩
      (.unreadable "b" .notFound) ∧
    (¬ ∃ why, InputEnds greenwich schemaAndNumber.files [] ⟨false, none, none, ["a", "b"]⟩ why) ∧
    ∃ (fault : InputFault) (reply : Reply),
      RunsTo greenwich schemaAndNumber.files [] ["check", "-s", "s", "-i", "a", "b"] (.ok reply) ∧
        reply.Fails fault.message
  := by
  have hargs : "--no-op" ∉ ["check", "-s", "s", "-i", "a", "b"] := by decide
  have hline : readCommandLine ["check", "-s", "s", "-i", "a", "b"]
      = .ok (.check ⟨"s", ⟨false, none, none, ["a", "b"]⟩, 128, false, false⟩) := rfl
  have hschema : ¬ ∃ fault, SchemaFails schemaAndNumber.files "s" fault := by
    simp only [← readSchema_eq_error_iff, ← exists_eq_ok_iff]
    use .string
    rfl
  have htexts : (inputTexts schemaAndNumber.files [] ["a", "b"]).run.run
      = .error (.unreadable "b" .notFound) := rfl
  have hinput : InputFails greenwich schemaAndNumber.files [] ⟨false, none, none, ["a", "b"]⟩
      (.unreadable "b" .notFound) := by
    obtain ⟨input, bytes, hreached, hfails⟩ := textFails_of_inputTexts htexts
    apply InputFails.text hreached hfails
  have hends : ¬ ∃ why,
      InputEnds greenwich schemaAndNumber.files [] ⟨false, none, none, ["a", "b"]⟩ why := by
    rintro ⟨why, hts, -⟩
    cases htexts.symm.trans hts
  use hargs, hschema, hinput, hends
  obtain ⟨fault, reply, -, hrun, hfails⟩ :=
    (run_check_all_or_nothing hargs hline).2.1 hschema ⟨_, hinput⟩ hends
  use fault, reply

/-- Two files: the schema `["string"]`, and the document `""`. -/
def schemaAndString : FileTree :=
  .directory [("s", .file [91, 34, 115, 116, 114, 105, 110, 103, 34, 93]), ("a", .file [34, 34])]

/-- A command line with a filter that ends the program with the status 3. -/
def haltingLine : List String :=
  ["check", "-s", "s", "-i", "a", "--jq-expr", "halt_error(3)"]

/-- What the command line asks for. -/
def haltingCheck : CheckRequest :=
  ⟨"s", ⟨false, none, some "halt_error(3)", ["a"]⟩, 128, false, false⟩

/-- Whether a filter ended the program with the status 3, having printed nothing. -/
def isHalted : Except (Obstacle Filter.Failure) (List Json) → Bool
  | .error (.ended (.exit 3 "")) => true
  | _ => false

theorem eq_of_isHalted {result : Except (Obstacle Filter.Failure) (List Json)}
    (h : isHalted result = true) :
  result = .error (.ended (.exit 3 ""))
  := by
  unfold isHalted at h
  split at h
  · rfl
  · cases h

theorem comesTo_halted :
  ComesTo (fun bound => Filter.run bound greenwich "halt_error(3)" (.string ""))
    (.error (.ended (.exit 3 "")))
  := by
  have hrun : Filter.run 2 greenwich "halt_error(3)" (.string "")
      = .error (.ended (.exit 3 "")) := eq_of_isHalted (by decide +kernel)
  have hmonotone := Filter.run_monotone greenwich "halt_error(3)" (.string "")
  apply ComesTo.of_eq hmonotone hrun
  nofun

/-- A filter that ends the program ends it with a status that is none of those of replies,
although nothing fails. -/
theorem run_halted :
  "--no-op" ∉ haltingLine ∧ readCommandLine haltingLine = .ok (.check haltingCheck) ∧
    (¬ ∃ fault, SchemaFails schemaAndString.files "s" fault) ∧
    (¬ ∃ fault, InputFails greenwich schemaAndString.files [] haltingCheck.settings fault) ∧
    RunsTo greenwich schemaAndString.files [] haltingLine (.error (.exit 3 "")) ∧
    ¬ ∃ reply, RunsTo greenwich schemaAndString.files [] haltingLine (.ok reply)
  := by
  have hargs : "--no-op" ∉ haltingLine := by decide
  have hline : readCommandLine haltingLine = .ok (.check haltingCheck) := rfl
  have hschema : (readSchema schemaAndString.files "s").run.run = .ok .string := rfl
  have htexts : (inputTexts schemaAndString.files [] ["a"]).run.run = .ok [⟨"a", "\"\""⟩] := rfl
  have hparse : Json.parse "\"\"" = .ok (.string "") := by
    have hcompact : (Json.string "").compact = "\"\"" := by decide +kernel
    rw [← hcompact]
    apply Json.parse_compact (.string _) (by decide) (.string _)
  have hvalues : [⟨"a", "\"\""⟩].flatMap (valuesOf haltingCheck.settings)
      = [] ++ .ok ⟨"a", .string ""⟩ :: [] := by
    change [((Json.parse "\"\"").mapError _).map (Document.mk "a")] = _
    rw [hparse]
    rfl
  have hends : PartEnds greenwich haltingCheck.settings ⟨"a", .string ""⟩ (.exit 3 "") :=
    .filter rfl rfl comesTo_halted
  have hrun : RunsTo greenwich schemaAndString.files [] haltingLine (.error (.exit 3 "")) := by
    have hloaded := loadDocuments_ends_iff.mpr (InputEnds.part htexts hvalues nofun hends)
    apply runsTo_replyOn (fun bound => run_eq_check hargs hline) hschema hloaded
  use hargs, hline
  and_intros
  · simp only [← readSchema_eq_error_iff]
    exact exists_eq_ok_iff.mp ⟨.string, hschema⟩
  · rintro ⟨fault, hfails⟩
    obtain ⟨x, hx, hfails⟩ := (inputFails_iff_of_inputTexts htexts).mp hfails
    rw [hvalues] at hx
    cases List.mem_singleton.mp hx
    obtain hfault | ⟨_, ⟨⟩, hpart⟩ := hfails
    · cases hfault
    · cases (partFails_iff.mp hpart).unique (partEnds_iff.mp hends)
  · exact hrun
  · rintro ⟨reply, hreply⟩
    cases hrun.unique hreply

end Assay.Command

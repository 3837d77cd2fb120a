import Assay.Command.Inspect
import Assay.Command.Report
import Assay.Command.SchemaFile
import Assay.Schema.Expression

/-!
# Runs

What the program answers to a command line.  The exit status is 0 if all is well, 1 if
documents were rejected, and 2 if there are no results.  There is no answer if a filter ends
the program, or does not end within the bound on its evaluation; what the filter did is passed
on instead.
-/

namespace Assay.Command

open Assay.Filter (Ending Obstacle Surroundings)

/-- What the program answers. -/
structure Reply where
  status : Nat
  stdout : Styled
  stderr : Styled

namespace Reply

/-- The status if all is well. -/
def accepted : Nat := 0

/-- The status if documents were rejected. -/
def rejected : Nat := 1

/-- The status if there are no results. -/
def failed : Nat := 2

/-- A reply that tells what went wrong. -/
def ofFailure (message : String) : Reply :=
  ⟨failed, [], Styled.plain ("error: " ++ message ++ "\n")⟩

/-- A reply that shows a request. -/
def ofRequest (r : Request) : Reply := ⟨accepted, [], Styled.plain (r.inspect ++ "\n")⟩

/-- A reply that shows a schema. -/
def ofSchema (s : Schema) : Reply := ⟨accepted, Styled.plain (s.expression ++ "\n"), []⟩

/-- A reply that reports verdicts. -/
def ofVerdicts (quiet : Bool) (vs : List Verdict) : Reply where
  status := if rejectedCount vs = 0 then accepted else rejected
  stdout := verdictsText quiet vs
  stderr := summaryText vs

/-- A reply to a command line that asks for nothing to be done. -/
def ofHalt : Halt → Reply
  | .fault f => ⟨failed, [], f.message⟩
  | .help c => ⟨accepted, helpText c, []⟩
  | .helpHelp => ⟨accepted, helpHelpText, []⟩
  | .belowHelp text => ⟨failed, [], helpFaultMessage text⟩
  | .version => ⟨accepted, Styled.plain (programName ++ " " ++ programVersion ++ "\n"), []⟩
  | .empty => ⟨failed, [], helpText none⟩

end Reply

/-- Why a request has no results. -/
inductive Failure where
  | schema (fault : SchemaFault)
  | input (fault : InputFault)

/-- The wording of a failure. -/
def Failure.message : Failure → String
  | schema fault => fault.chain
  | input fault => fault.message

section

variable {m : Type → Type} [Monad m] (bound : Nat) (around : Surroundings) (files : Files m)

/-- The verdicts on the documents of a request. -/
def verdicts (stdin : m (List UInt8)) (r : CheckRequest) :
    ExceptT (Obstacle Failure) m (List Verdict) := do
  let s ← (readSchema files r.schema).adapt fun fault => .fault (.schema fault)
  let documents ← (loadDocuments bound around files stdin r.settings).adapt (Obstacle.map .input)
  return documents.map (verdict s r.maxDepth)

/-- The reply to a request to validate documents. -/
def check (stdin : m (List UInt8)) (r : CheckRequest) : m (Except Ending Reply) := do
  match ← (verdicts bound around files stdin r).run with
  | .ok vs => return .ok (.ofVerdicts r.quiet vs)
  | .error (.fault failure) => return .ok (.ofFailure failure.message)
  | .error (.ended why) => return .error why

/-- The reply to a request to print a schema. -/
def explain (r : ExplainRequest) : m Reply := do
  match ← (readSchema files r.schema).run with
  | .ok s => return .ofSchema s
  | .error fault => return .ofFailure fault.chain

/-- The reply to a request. -/
def answer (stdin : m (List UInt8)) (r : Request) : m (Except Ending Reply) :=
  match r with
  | .check q => if q.noOp then pure (.ok (.ofRequest r)) else check bound around files stdin q
  | .explain q => if q.noOp then pure (.ok (.ofRequest r)) else .ok <$> explain files q

/-- The reply to a command line, without the name of the program. -/
def run (stdin : m (List UInt8)) (args : List String) : m (Except Ending Reply) :=
  match readCommandLine args with
  | .ok r => answer bound around files stdin r
  | .error halt => pure (.ok (.ofHalt halt))

end

end Assay.Command

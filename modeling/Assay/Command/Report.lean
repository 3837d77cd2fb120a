import Assay.Command.Documents
import Assay.Validation

/-!
# Reports

What is said about a list of documents: for each, in order, whether it conforms to the
schema, and if not, which part of it is at fault and why; then how many there are, and how
many of them were rejected.
-/

namespace Assay.Command

/-- What was found about a document. -/
structure Verdict where
  origin : String
  /-- Why the document was rejected, if it was. -/
  rejection : Option Rejection

/-- The verdict on a document. -/
def verdict (s : Schema) (limit : Nat) (d : Document) : Verdict where
  origin := d.origin
  rejection :=
    match s.validate limit d.value with
    | .ok () => none
    | .error e => some e

/-- Whether a verdict is a rejection. -/
def Verdict.isRejected (v : Verdict) : Bool := v.rejection.isSome

/-- The place of the part at fault; nothing for the document itself. -/
def placeText (path : String) : String := if path.isEmpty then "" else " (at " ++ path ++ ")"

/-- What is said about an accepted document. -/
def acceptedText (origin : String) : Styled :=
  Styled.of .green "✔" ++ Styled.plain (" " ++ origin ++ "\n")

/-- What is said about a rejected document. -/
def rejectedText (origin : String) (e : Rejection) : Styled :=
  Styled.of .red "✘" ++ Styled.plain " " ++ Styled.of .bold origin
    ++ Styled.of .dimmed (placeText e.path) ++ Styled.plain ("\n  " ++ e.message ++ "\n")

/-- What is said about a verdict. -/
def Verdict.text (quiet : Bool) (v : Verdict) : Styled :=
  match v.rejection with
  | none => if quiet then [] else acceptedText v.origin
  | some e => rejectedText v.origin e

/-- What is said about a list of verdicts. -/
def verdictsText (quiet : Bool) (vs : List Verdict) : Styled := vs.flatMap (Verdict.text quiet)

/-- The number of rejections. -/
def rejectedCount (vs : List Verdict) : Nat := vs.countP Verdict.isRejected

/-- How many documents there are and how many of them were rejected. -/
def summary (vs : List Verdict) : String :=
  .ofList (Decimal.digits vs.length) ++ " documents, "
    ++ .ofList (Decimal.digits (rejectedCount vs)) ++ " rejected"

/-- The summary, as good or bad news. -/
def summaryText (vs : List Verdict) : Styled :=
  Styled.of (if rejectedCount vs = 0 then .green else .red) (summary vs) ++ Styled.plain "\n"

end Assay.Command

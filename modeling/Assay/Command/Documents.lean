import Assay.Command.Arguments
import Assay.Command.PathPattern
import Assay.Filter
import Assay.Json.Pointer
import Assay.Text.Basic

/-!
# Documents

The documents that the inputs of a command line stand for.  All inputs are read before any
of them is taken for JSON.  An input is a file, a pattern of paths or, if it is a dash, the
standard input.  Its text is one document, or has a document on each line that is not
blank.  A pointer selects a part of each document, and a filter turns that part into any
number of documents.  One fault anywhere leaves no documents at all, and neither does a filter
that ends the program or does not end within the bound on its evaluation.
-/

namespace Assay.Command

open Assay.Filter (Obstacle Surroundings)

/-- A text that holds documents, and where it comes from. -/
structure InputText where
  origin : String
  text : String

/-- A value, and where it comes from. -/
structure Document where
  origin : String
  value : Json

/-- Why an input gives no documents. -/
inductive InputFault where
  /-- The standard input is no text. -/
  | notTextAtStdin
  | unreadable (origin : String) (fault : ReadFault)
  | notText (origin : String)
  | pattern (text : String) (fault : ExpansionFault)
  /-- No path matches the pattern. -/
  | noMatch (text : String)
  | line (origin : String) (fault : Json.Fault)
  | document (origin : String) (fault : Json.Fault)
  /-- The pointer selects nothing. -/
  | nothingAt (pointer origin : String)
  | filter (origin text : String) (failure : Filter.Failure)

namespace InputFault

/-- What is said about bytes that are no text. -/
def notUtf8 : String := "stream did not contain valid UTF-8"

/-- What is said about a file that gives no text. -/
def file (origin reason : String) : String :=
  "failed to read source file (" ++ origin ++ "): " ++ reason

/-- The wording of a fault. -/
def message : InputFault → String
  | notTextAtStdin => "failed to read stdin: " ++ notUtf8
  | unreadable origin fault => file origin fault.message
  | notText origin => file origin notUtf8
  | pattern text fault => PathPattern.message text fault
  | noMatch text => "glob pattern matched no files: " ++ text
  | line origin fault => "failed to parse NDJSON line (" ++ origin ++ "): " ++ fault.message
  | document origin fault =>
    "failed to parse JSON source file (" ++ origin ++ "): " ++ fault.message
  | nothingAt pointer origin => "JSON pointer " ++ pointer ++ " selects nothing in " ++ origin
  | filter origin text failure =>
    "failed to apply jq expression (" ++ origin ++ "): " ++ failure.message text

end InputFault

/-! ## Texts -/

/-- The input that stands for the standard input. -/
def stdinName : String := "-"

/-- The origin of what is read from the standard input. -/
def stdinOrigin : String := "<stdin>"

/-- Whether an input is taken for a pattern of paths. -/
def isPattern (input : String) : Bool := input.toList.any (· ∈ ['*', '?', '[', '\x7b'])

section

variable {m : Type → Type} [Monad m] (files : Files m)

/-- The paths that an input stands for. -/
def pathsOf (input : String) : ExceptT InputFault m (List String) := do
  if isPattern input then
    match ← ExceptT.lift (PathPattern.expand files input).run with
    | .error fault => throw (.pattern input fault)
    | .ok [] => throw (.noMatch input)
    | .ok paths => return paths
  else return [input]

/-- The text of a file. -/
def fileText (path : String) : ExceptT InputFault m InputText := do
  match ← files.read path with
  | .error fault => throw (.unreadable path fault)
  | .ok bytes =>
    match Text.decodeUtf8? bytes with
    | none => throw (.notText path)
    | some text => return ⟨path, text⟩

/-- The texts of an input that is not the standard input. -/
def fileTexts (input : String) : ExceptT InputFault m (List InputText) := do
  (← pathsOf files input).mapM (fileText files)

/-- The text of the standard input. -/
def stdinText (stdin : m (List UInt8)) : ExceptT InputFault m InputText := do
  match Text.decodeUtf8? (← stdin) with
  | none => throw .notTextAtStdin
  | some text => return ⟨stdinOrigin, text⟩

/-- The texts of a list of inputs.  Once the standard input was read there is nothing left
of it. -/
def inputTexts : m (List UInt8) → List String → ExceptT InputFault m (List InputText)
  | _, [] => return []
  | stdin, input :: rest => do
    if input = stdinName then
      let text ← stdinText stdin
      return text :: (← inputTexts (pure []) rest)
    else
      let texts ← fileTexts files input
      return texts ++ (← inputTexts stdin rest)

end

/-! ## Values -/

/-- The part of a document that a pointer selects. -/
def select (pointer : Option String) (d : Document) : Except InputFault Document :=
  match pointer with
  | none => .ok d
  | some p =>
    match d.value.pointer? p with
    | none => .error (.nothingAt p d.origin)
    | some v => .ok { d with value := v }

/-- A text followed by a separator and a number. -/
def numbered (origin separator : String) (n : Nat) : String :=
  origin ++ separator ++ .ofList (Decimal.digits n)

section

variable (bound : Nat) (around : Surroundings)

/-- The documents that a filter makes of a document. -/
def refine (filter : Option String) (d : Document) :
    Except (Obstacle InputFault) (List Document) :=
  match filter with
  | none => .ok [d]
  | some text =>
    match Filter.run bound around text d.value with
    | .error o => .error (o.map (.filter d.origin text))
    | .ok values => .ok (values.zipIdx.map fun (v, i) => ⟨numbered d.origin "#" i, v⟩)

/-- The documents that a document stands for. -/
def documentsOfDocument (settings : InputSettings) (d : Document) :
    Except (Obstacle InputFault) (List Document) := do
  refine bound around settings.jqExpr (← (select settings.jsonPointer d).mapError .fault)

/-- The documents on the line of a number. -/
def documentsOfLine (settings : InputSettings) (origin : String) (line : List Char × Nat) :
    Except (Obstacle InputFault) (List Document) :=
  let origin := numbered origin ":" line.2
  match Json.parse (.ofList line.1) with
  | .error fault => .error (.fault (.line origin fault))
  | .ok v => documentsOfDocument bound around settings ⟨origin, v⟩

/-- The lines that are not blank, with their numbers. -/
def documentLines (text : String) : List (List Char × Nat) :=
  ((Text.lines text.toList).zipIdx 1).filter fun l => !l.1.all Text.isBlank

/-- The documents in a text. -/
def documentsOfText (settings : InputSettings) (t : InputText) :
    Except (Obstacle InputFault) (List Document) :=
  if settings.ndjson then do
    return (← (documentLines t.text).mapM
      (documentsOfLine bound around settings t.origin)).flatten
  else
    match Json.parse t.text with
    | .error fault => .error (.fault (.document t.origin fault))
    | .ok v => documentsOfDocument bound around settings ⟨t.origin, v⟩

/-- The documents in a list of texts. -/
def documentsOfTexts (settings : InputSettings) (ts : List InputText) :
    Except (Obstacle InputFault) (List Document) := do
  return (← ts.mapM (documentsOfText bound around settings)).flatten

/-- The documents that the inputs of a command line stand for. -/
def loadDocuments {m : Type → Type} [Monad m] (files : Files m) (stdin : m (List UInt8))
    (settings : InputSettings) : ExceptT (Obstacle InputFault) m (List Document) := do
  let texts ← (inputTexts files stdin settings.input).adapt .fault
  match documentsOfTexts bound around settings texts with
  | .error o => throw o
  | .ok documents => return documents

end

end Assay.Command

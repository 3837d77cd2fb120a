import Assay.Filter.Evaluation
import Assay.Filter.Prelude
import Assay.Filter.Scope
import Assay.Json.Reader

/-!
# Filters

Filters that turn a JSON document into a list of JSON documents.  A filter is parsed, its
names are looked up, and it is evaluated within a bound.  The results are written out and
read again, so that they are documents like any other.  Filters need not end, and a filter may
end the program; neither is a failure.
-/

namespace Assay.Filter

/-- Why a filter cannot be used on a document. -/
inductive Failure where
  | tokens (faults : List Token.Fault)
  | syntactic (faults : List ParseFault)
  /-- Modules are not loaded. -/
  | imports (paths : List String)
  | undefined (names : List Undefined)
  | error (e : Error)
  /-- A result that is no document. -/
  | output (index : Nat) (fault : Json.Fault)

/-- A list of pairs of texts in brackets. -/
def inspectPairs (pairs : List (String × String)) : String :=
  "[" ++ ", ".intercalate (pairs.map fun p => "(" ++ p.1 ++ ", " ++ p.2 ++ ")") ++ "]"

/-- The text of a filter as messages quote it. -/
def quoted (text : String) : String := " in \x60" ++ text ++ "\x60"

/-- The wording of a failure of a filter. -/
def Failure.message (text : String) : Failure → String
  | tokens faults =>
    "jq parse error: Lex(" ++ inspectPairs (faults.map fun f =>
      (f.expected.inspect, Text.inspect f.rest)) ++ ")" ++ quoted text
  | syntactic faults =>
    "jq parse error: Parse(" ++ inspectPairs (faults.map fun f =>
      (f.wanted.inspect, Text.inspect ((f.found.map Token.text).getD ""))) ++ ")" ++ quoted text
  | imports paths =>
    "jq parse error: Io(" ++ inspectPairs (paths.map fun p =>
      (Text.inspect p, "\"module loading not supported\"")) ++ ")" ++ quoted text
  | undefined names =>
    "\n".intercalate (names.map fun n =>
      "jq undefined \x60" ++ n.name ++ "\x60: " ++ n.kind.inspect ++ quoted text)
  | error e => "jq runtime error: " ++ e.inspect
  | output index fault =>
    "jq output #" ++ String.ofList (Decimal.digits index) ++ " is not valid JSON: "
      ++ fault.message

/-- The filters with special arguments. -/
def specialFilters : List (String × Nat) :=
  [("error", 0), ("path", 1), ("range", 3), ("first", 1), ("last", 1), ("limit", 2),
   ("skip", 2), ("sort_by", 1), ("group_by", 1), ("min_by_or_empty", 1),
   ("max_by_or_empty", 1)]

/-- The names that every filter can use. -/
def globalScope : Scope where
  vars := []
  labels := []
  filters :=
    prelude.map (fun d => (d.name, d.params.length)) ++ specialFilters
      ++ Builtin.all.map fun b => (b.name, b.arity)

/-- What the names of the prelude stand for. -/
def globalEnv : Env := .ofDefinitions prelude

/-- More than the nesting of any term of a text. -/
def nesting (text : String) : Nat := 10 * text.length + 20

/-- The term of a text. -/
def parse (text : String) : Except Failure Term :=
  match Token.ofText text with
  | .error faults => .error (.tokens faults)
  | .ok tokens =>
    match Parser.onTokens tokens ([], .identity) (Parser.program (nesting text)) with
    | .error faults => .error (.syntactic faults)
    | .ok ([], t) =>
      match globalScope.undefined (nesting text) t with
      | [] => .ok t
      | names => .error (.undefined names)
    | .ok (paths, _) => .error (.imports paths)

/-- The documents of results, counted from `index`. -/
def documents (index : Nat) : Outcome Value → Except (Obstacle Failure) (List Json)
  | .nil => .ok []
  | .cons (.error (.error e)) _ => .error (.fault (.error e))
  -- Only labels that are around can be left; the program relies on that.
  | .cons (.error (.leave _)) _ => .error (.ended .crash)
  | .cons (.ok v) t =>
    match Json.parse v.text with
    | .error fault => .error (.fault (.output index fault))
    | .ok j => do return j :: (← documents (index + 1) (t ()))
  | .ended why => .error (.ended why)

/-- The documents that a filter makes of a document, within a bound on its evaluation. -/
def run (bound : Nat) (around : Surroundings) (text : String) (document : Json) :
    Except (Obstacle Failure) (List Json) := do
  let t ← (parse text).mapError .fault
  documents 0 (evaluate around bound globalEnv t (.ofJson document))

end Assay.Filter

import Assay.Command.Arguments
import Assay.Text.Inspect

/-!
# Inspection of requests

A request shown with all its parts, one on each line, so that a reader can see how a command
line was understood.
-/

namespace Assay.Command

/-- A value as inspection shows it. -/
inductive Inspected where
  | atom (text : String)
  /-- A named structure. -/
  | record (name : String) (fields : List (String × Inspected))
  /-- A value behind a name. -/
  | wrapped (name : String) (inner : Inspected)
  | list (items : List Inspected)

namespace Inspected

/-- The blanks at the start of a line. -/
def indent (depth : Nat) : String := "".pushn ' ' (4 * depth)

mutual

/-- The text of a value whose last line is indented to a depth. -/
def text (depth : Nat) : Inspected → String
  | atom s => s
  | record name fields =>
    name ++ " \x7b\n" ++ fieldsText (depth + 1) fields ++ indent depth ++ "\x7d"
  | wrapped name inner =>
    name ++ "(\n" ++ indent (depth + 1) ++ text (depth + 1) inner ++ ",\n"
      ++ indent depth ++ ")"
  | list [] => "[]"
  | list (item :: rest) =>
    "[\n" ++ itemsText (depth + 1) (item :: rest) ++ indent depth ++ "]"

/-- The lines of fields. -/
def fieldsText (depth : Nat) : List (String × Inspected) → String
  | [] => ""
  | (name, v) :: rest =>
    indent depth ++ name ++ ": " ++ text depth v ++ ",\n" ++ fieldsText depth rest

/-- The lines of items. -/
def itemsText (depth : Nat) : List Inspected → String
  | [] => ""
  | v :: rest => indent depth ++ text depth v ++ ",\n" ++ itemsText depth rest

end

/-- A string. -/
def ofString (s : String) : Inspected := atom (Text.inspect s)

/-- A path, in which apostrophes are escaped too. -/
def ofPath (s : String) : Inspected :=
  atom (.ofList ((Text.inspect s).toList.flatMap fun c => if c = '\'' then ['\\', c] else [c]))

/-- A truth value. -/
def ofBool (b : Bool) : Inspected := atom (if b then "true" else "false")

/-- A number. -/
def ofNat (n : Nat) : Inspected := atom (.ofList (Decimal.digits n))

/-- A value that may be missing. -/
def ofOption : Option Inspected → Inspected
  | none => atom "None"
  | some v => wrapped "Some" v

end Inspected

open Inspected

/-- The settings of the inputs as inspection shows them. -/
def InputSettings.inspected (s : InputSettings) : Inspected :=
  record "InputSettings"
    [("ndjson", ofBool s.ndjson),
     ("json_pointer", ofOption (s.jsonPointer.map ofString)),
     ("jq_expr", ofOption (s.jqExpr.map ofString)),
     ("input", list (s.input.map ofString))]

/-- The name and the parts of a request as inspection shows them. -/
def Request.inspected : Request → Inspected
  | check r =>
    wrapped "Check" <| record "CheckOut"
      [("schema", ofPath r.schema),
       ("input_settings", r.settings.inspected),
       ("max_depth", ofNat r.maxDepth),
       ("quiet", ofBool r.quiet),
       ("no_op", ofBool r.noOp)]
  | explain r =>
    wrapped "Explain" <| record "ExplainOut"
      [("schema", ofPath r.schema), ("no_op", ofBool r.noOp)]

/-- A request shown with all its parts. -/
def Request.inspect (r : Request) : String :=
  (record "CommandLineInterface" [("cmd", r.inspected)]).text 0

end Assay.Command

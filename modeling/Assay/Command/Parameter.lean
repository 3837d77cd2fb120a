import Assay.Command.Styled

/-!
# Parameters

The parameters of the command line, and the help about them.
-/

namespace Assay.Command

/-- A parameter of the command line. -/
inductive Parameter where
  | schema
  | ndjson
  | jsonPointer
  | jqExpr
  | input
  | maxDepth
  | quiet
  | noOp
  | help
  | version
deriving DecidableEq

/-- What a command line asks for. -/
inductive Subcommand where
  | check
  | explain
deriving DecidableEq

/-- The program, or one of its subcommands. -/
abbrev Context := Option Subcommand

namespace Parameter

/-- The name after two dashes. -/
def long : Parameter → String
  | schema => "schema"
  | ndjson => "ndjson"
  | jsonPointer => "json-pointer"
  | jqExpr => "jq-expr"
  | input => "input"
  | maxDepth => "max-depth"
  | quiet => "quiet"
  | noOp => "no-op"
  | help => "help"
  | version => "version"

/-- The letter after one dash. -/
def short? : Parameter → Option Char
  | schema => some 's'
  | input => some 'i'
  | quiet => some 'q'
  | help => some 'h'
  | version => some 'V'
  | _ => none

/-- What stands for the value; nothing if there is no value. -/
def placeholder? : Parameter → Option String
  | schema => some "SCHEMA"
  | jsonPointer => some "JSON_POINTER"
  | jqExpr => some "JQ_EXPR"
  | input => some "INPUT"
  | maxDepth => some "MAX_DEPTH"
  | _ => none

def takesValue (p : Parameter) : Bool := p.placeholder?.isSome

/-- Whether there may be several values. -/
def isMany (p : Parameter) : Bool := p = input

/-- The value as a usage shows it. -/
def valueText (p : Parameter) : String :=
  match p.placeholder? with
  | none => ""
  | some s => " <" ++ s ++ ">" ++ if p.isMany then "..." else ""

/-- The parameter as messages name it. -/
def text (p : Parameter) : String := "--" ++ p.long ++ p.valueText

/-- The parameter as a usage shows it. -/
def styled (p : Parameter) : Styled :=
  Styled.of .bold ("--" ++ p.long) ++ Styled.plain p.valueText

/-- What the parameter is for. -/
def about : Parameter → String
  | schema => "schema document (.json)"
  | ndjson => "treat input as newline-delimited JSON (NDJSON)"
  | jsonPointer =>
    "JSON Pointer to select a subnode in each document (e.g. /data/items/0/payload)"
  | jqExpr => "JQ pre-process filter for each document"
  | input =>
    "One or more inputs. May be literal paths or quoted glob patterns or '-' for stdin"
  | maxDepth =>
    "schema levels to descend before failing with \"too deep\" [default: 128]"
  | quiet => "only report rejected documents"
  | noOp => "debugging"
  | help => "Print help"
  | version => "Print version"

end Parameter

namespace Subcommand

def name : Subcommand → String
  | check => "check"
  | explain => "explain"

/-- What the subcommand does. -/
def about : Subcommand → String
  | check => "validate every input document and report the first mismatch of each"
  | explain => "print a schema document in combinator notation"

def all : List Subcommand := [check, explain]

/-- The subcommand of a name. -/
def ofName? (s : String) : Option Subcommand := all.find? (·.name == s)

end Subcommand

/-- The name of the program. -/
def programName : String := "json-vet"

/-- The version of the program. -/
def programVersion : String := "0.1.0"

/-- The name of the subcommand that prints help. -/
def helpName : String := "help"

/-- What the subcommand that prints help does. -/
def helpAbout : String := "Print this message or the help of the given subcommand(s)"

namespace Context

/-- The words that a command line starts with. -/
def name : Context → String
  | none => programName
  | some c => programName ++ " " ++ c.name

def about : Context → String
  | none => "validate JSON/NDJSON documents against a schema document"
  | some c => c.about

/-- The parameters in the order in which help lists them. -/
def parameters : Context → List Parameter
  | none => [.help, .version]
  | some .check =>
    [.schema, .ndjson, .jsonPointer, .jqExpr, .input, .maxDepth, .quiet, .noOp, .help]
  | some .explain => [.schema, .noOp, .help]

/-- The parameters that must be given. -/
def required : Context → List Parameter
  | none => []
  | some .check => [.schema, .input]
  | some .explain => [.schema]

/-- Parameters that a usage shows together once one of them is given. -/
def group : Context → List Parameter
  | none => []
  | some .check => [.ndjson, .jsonPointer, .jqExpr, .input]
  | some .explain => [.schema, .noOp]

/-- The names of the subcommands. -/
def subcommands : Context → List String
  | none => Subcommand.all.map Subcommand.name ++ [helpName]
  | some _ => []

end Context

/-! ## Usage -/

/-- What a usage shows that was given. -/
inductive Given where
  | parameter (p : Parameter)
  /-- One of the parameters that are shown together. -/
  | group
deriving DecidableEq

/-- Joins texts with a blank before each. -/
def blankBefore (ts : List Styled) : Styled := ts.flatMap fun t => Styled.plain " " ++ t

/-- A usage without regard to what was given. -/
def generalUsage (c : Context) : Styled :=
  Styled.of .bold c.name
    ++ (if c.parameters.all fun p => p ∈ c.required ∨ p = .help ∨ p = .version then []
        else Styled.plain " [OPTIONS]")
    ++ blankBefore (c.required.map Parameter.styled)
    ++ (if c.subcommands.isEmpty then [] else Styled.plain " <COMMAND>")

/-- A usage with what was given in it. -/
def usageOf (c : Context) (given : List Given) : Styled :=
  let grouped := if .group ∈ given then c.group else []
  let named := given.filterMap fun
    | .parameter p => some p
    | .group => none
  let shown := (c.required ++ named.filter (· ∉ c.required)).filter (· ∉ grouped)
  Styled.of .bold c.name
    ++ blankBefore (shown.map Parameter.styled)
    ++ (if grouped.isEmpty then []
        else Styled.plain (" <" ++ "|".intercalate (grouped.map Parameter.text) ++ ">"))
    ++ (if c.subcommands.isEmpty then [] else Styled.plain " <COMMAND>")

/-- The usage that a message ends with. -/
def usage (c : Context) (given : List Given) : Styled :=
  Styled.of .heading "Usage:" ++ Styled.plain " "
    ++ if given.isEmpty then generalUsage c else usageOf c given

/-! ## Help -/

/-- A list of things with what they are for, in two columns. -/
def columns (rows : List (Styled × String)) : Styled :=
  let width (t : Styled) : Nat := (t.render false).length
  let widest := rows.foldl (fun n r => max n (width r.1)) 0
  rows.flatMap fun (t, about) =>
    Styled.plain "  " ++ t
      ++ Styled.plain ("".pushn ' ' (widest - width t) ++ "  " ++ about ++ "\n")

/-- The names of a parameter as help lists them. -/
def Parameter.listed (p : Parameter) : Styled :=
  (match p.short? with
    | some c => Styled.of .bold ("-" ++ c.toString) ++ Styled.plain ", "
    | none => Styled.plain "    ") ++ p.styled

/-- The help about the program or a subcommand. -/
def helpText (c : Context) : Styled :=
  Styled.plain (c.about ++ "\n\n") ++ usage c [] ++ Styled.plain "\n\n"
    ++ (if c.subcommands.isEmpty then []
        else Styled.of .heading "Commands:" ++ Styled.plain "\n"
          ++ columns (Subcommand.all.map (fun s => (Styled.of .bold s.name, s.about))
            ++ [(Styled.of .bold helpName, helpAbout)])
          ++ Styled.plain "\n")
    ++ Styled.of .heading "Options:" ++ Styled.plain "\n"
    ++ columns (c.parameters.map fun p => (p.listed, p.about))

/-- The usage of the subcommand that prints help. -/
def helpUsage : Styled :=
  Styled.of .heading "Usage:" ++ Styled.plain " "
    ++ Styled.of .bold (programName ++ " " ++ helpName) ++ Styled.plain " [COMMAND]..."

/-- The help about the subcommand that prints help. -/
def helpHelpText : Styled :=
  Styled.plain (helpAbout ++ "\n\n") ++ helpUsage ++ Styled.plain "\n\n"
    ++ Styled.of .heading "Arguments:" ++ Styled.plain "\n"
    ++ columns [(Styled.plain "[COMMAND]...", "Print help for the subcommand(s)")]

end Assay.Command

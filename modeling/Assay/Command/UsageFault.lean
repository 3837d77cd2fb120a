import Assay.Command.Parameter

/-!
# Usage faults

What can be wrong with a command line, and how it is said.
-/

namespace Assay.Command

/-- A hint at what may have been meant. -/
inductive Tip where
  | parameter (p : Parameter)
  /-- A parameter of a subcommand. -/
  | ofSubcommand (name : String) (p : Parameter)
  /-- A subcommand that stands after two dashes. -/
  | dashes (name : String)

/-- What is wrong with a command line. -/
inductive UsageCause where
  | missing (ps : List Parameter)
  | unknownArgument (text : String) (tip : Option Tip)
  | unknownSubcommand (text : String) (similar : List String)
  | repeated (p : Parameter)
  | noValue (p : Parameter)
  | invalidValue (value : String) (p : Parameter) (reason : String)
  | unexpectedValue (value : String) (p : Parameter)

/-- A cause, with the usage that is shown with it. -/
structure UsageFault where
  cause : UsageCause
  context : Context
  /-- What was given. -/
  given : List Given

/-- A text in quotation marks. -/
def Styled.quoted (look : Look) (text : String) : Styled :=
  Styled.plain "'" ++ Styled.of look text ++ Styled.plain "'"

namespace UsageCause

/-- The wording of what is wrong. -/
def message : UsageCause → Styled
  | missing ps =>
    Styled.plain "the following required arguments were not provided:"
      ++ ps.flatMap fun p => Styled.plain "\n  " ++ Styled.of .green p.text
  | unknownArgument text _ =>
    Styled.plain "unexpected argument " ++ Styled.quoted .yellow text ++ Styled.plain " found"
  | unknownSubcommand text _ =>
    Styled.plain "unrecognized subcommand " ++ Styled.quoted .yellow text
  | repeated p =>
    Styled.plain "the argument " ++ Styled.quoted .yellow p.text
      ++ Styled.plain " cannot be used multiple times"
  | noValue p =>
    Styled.plain "a value is required for " ++ Styled.quoted .yellow p.text
      ++ Styled.plain " but none was supplied"
  | invalidValue value p reason =>
    Styled.plain "invalid value " ++ Styled.quoted .yellow value
      ++ Styled.plain " for " ++ Styled.quoted .bold p.text ++ Styled.plain (": " ++ reason)
  | unexpectedValue value p =>
    Styled.plain "unexpected value " ++ Styled.quoted .yellow value
      ++ Styled.plain " for " ++ Styled.quoted .bold p.text
      ++ Styled.plain " found; no more were expected"

/-- The wording of a hint. -/
def tipText : Tip → Styled
  | .parameter p =>
    Styled.plain " a similar argument exists: " ++ Styled.quoted .green ("--" ++ p.long)
  | .ofSubcommand name p =>
    Styled.plain " " ++ Styled.quoted .green (name ++ " --" ++ p.long) ++ Styled.plain " exists"
  | .dashes name =>
    Styled.plain " subcommand " ++ Styled.quoted .green name
      ++ Styled.plain " exists; to use it, remove the " ++ Styled.quoted .yellow "--"
      ++ Styled.plain " before it"

/-- The hint at similar subcommands. -/
def similarText (names : List String) : Styled :=
  Styled.plain
      (match names with
        | [_] => " a similar subcommand exists: "
        | _ => " some similar subcommands exist: ")
    ++ List.intercalate (Styled.plain ", ") (names.map (Styled.quoted .green))

/-- The hints that go with a cause. -/
def hints : UsageCause → Styled
  | unknownArgument _ (some tip) => hint (tipText tip)
  | unknownSubcommand _ (n :: ns) => hint (similarText (n :: ns))
  | _ => []
where
  hint (t : Styled) : Styled := Styled.plain "\n\n  " ++ Styled.of .green "tip:" ++ t

/-- Whether the usage is shown with a cause. -/
def showsUsage : UsageCause → Bool
  | noValue _ | invalidValue .. => false
  | _ => true

end UsageCause

/-- The start of a message about what is wrong with a command line. -/
def UsageCause.opening (c : UsageCause) : Styled :=
  Styled.of .alarm "error:" ++ Styled.plain " " ++ c.message ++ c.hints

/-- The message about what is wrong with a command line. -/
def UsageFault.message (f : UsageFault) : Styled :=
  f.cause.opening
    ++ (if f.cause.showsUsage then Styled.plain "\n\n" ++ usage f.context f.given else [])
    ++ Styled.plain "\n\nFor more information, try " ++ Styled.quoted .bold "--help"
    ++ Styled.plain ".\n"

/-- The message about a subcommand of the subcommand that prints help, which has none. -/
def helpFaultMessage (text : String) : Styled :=
  (UsageCause.unknownSubcommand text []).opening ++ Styled.plain "\n\n" ++ helpUsage
    ++ Styled.plain "\n"

end Assay.Command

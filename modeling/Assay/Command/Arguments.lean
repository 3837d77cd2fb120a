import Assay.Command.Similarity
import Assay.Command.UsageFault
import Assay.Decimal.Digits

/-!
# Arguments

The arguments of a command line as a request.  Arguments are read from the first to the
last.  The values of a parameter are looked at when the next parameter is met or the
arguments end; an unknown argument is told before any fault of the values in front of it.
-/

namespace Assay.Command

/-- Where documents come from and what is taken of them. -/
structure InputSettings where
  ndjson : Bool
  jsonPointer : Option String
  jqExpr : Option String
  input : List String

/-- A request to validate documents. -/
structure CheckRequest where
  schema : String
  settings : InputSettings
  maxDepth : Nat
  quiet : Bool
  noOp : Bool

/-- A request to print a schema. -/
structure ExplainRequest where
  schema : String
  noOp : Bool

/-- What the program is to do. -/
inductive Request where
  | check (r : CheckRequest)
  | explain (r : ExplainRequest)

/-- Why the program does nothing. -/
inductive Halt where
  | fault (f : UsageFault)
  /-- Help about the program or a subcommand is asked for. -/
  | help (c : Context)
  /-- Help about the subcommand that prints help is asked for. -/
  | helpHelp
  /-- Help about something below the subcommand that prints help is asked for. -/
  | belowHelp (text : String)
  | version
  /-- There are no arguments. -/
  | empty

/-! ## Values -/

/-- The number of decimal digits in front of which `n` was read. -/
def numberFrom (n : Nat) : List Char → Except String Nat
  | [] => .ok n
  | c :: cs =>
    if ¬ c.isDigit then .error "invalid digit found in string"
    else
      let m := 10 * n + Decimal.digitValue c
      if Word.count ≤ m then .error "number too large to fit in target type" else numberFrom m cs

/-- A number of 64 bits, with an optional plus sign. -/
def number (s : String) : Except String Nat :=
  match s.toList with
  | [] => .error "cannot parse integer from empty string"
  | ['+'] => .error "invalid digit found in string"
  | '+' :: cs => numberFrom 0 cs
  | cs => numberFrom 0 cs

/-- What is wrong with the values of a parameter. -/
def valueFault? (p : Parameter) (values : List String) : Option UsageCause :=
  if ¬ p.takesValue then none
  else match p, values with
    | _, [] => some (.noValue p)
    | .schema, "" :: _ => some (.noValue p)
    | .maxDepth, v :: _ =>
      match number v with
      | .ok _ => none
      | .error reason => some (.invalidValue v p reason)
    | _, _ => none

/-! ## Progress -/

/-- What was read so far. -/
structure Progress where
  /-- The parameters with their values, in the order in which they were first met. -/
  seen : List (Parameter × List String)
  /-- The parameters that were met, and when one was that is shown with others. -/
  marks : List Given
  /-- The parameter whose values are being read. -/
  pending : Option (Parameter × List String)
  /-- Whether the next argument may be a value of that parameter. -/
  taking : Bool

namespace Progress

def start : Progress := ⟨[], [], none, false⟩

/-- Notes that something was met. -/
def mark (s : Progress) (g : Given) : Progress :=
  if g ∈ s.marks then s else { s with marks := s.marks ++ [g] }

/-- Notes that a parameter was met. -/
def meet (c : Context) (s : Progress) (p : Parameter) : Progress :=
  let s := s.mark (.parameter p)
  if p ∈ c.group then s.mark .group else s

/-- Adds values of a parameter. -/
def add (s : Progress) (p : Parameter) (values : List String) : Progress :=
  if s.seen.any (·.1 = p) then
    { s with seen := s.seen.map fun e => if e.1 = p then (p, e.2 ++ values) else e }
  else { s with seen := s.seen ++ [(p, values)] }

/-- What was given, without what must be given. -/
def given (c : Context) (s : Progress) : List Given :=
  s.marks.filter fun
    | .parameter p => p ∉ c.required
    | .group => true

/-- Takes up the values of a parameter, and tells what is wrong with them. -/
def store (c : Context) (s : Progress) (p : Parameter) (values : List String) :
    Progress × Option UsageFault :=
  let tell (cause : UsageCause) : Option UsageFault := some ⟨cause, c, []⟩
  if p.takesValue ∧ values.isEmpty then (s, tell (.noValue p))
  else if s.seen.any (·.1 = p) ∧ ¬ p.isMany then
    ({ s with
        seen := s.seen.filter (·.1 ≠ p)
        marks := s.marks.filter (· ≠ .parameter p) }, tell (.repeated p))
  else ((s.meet c p).add p values, (valueFault? p values).bind tell)

/-- Takes up the values that were being read. -/
def settle (c : Context) (s : Progress) : Progress × Option UsageFault :=
  match s.pending with
  | none => ({ s with taking := false }, none)
  | some (p, values) => { s with pending := none, taking := false }.store c p values

/-- Takes up the values that were being read, and stops if something is wrong with them. -/
def settled (c : Context) (s : Progress) : Except Halt Progress :=
  match s.settle c with
  | (s, none) => .ok s
  | (_, some f) => .error (.fault f)

/-- Takes up a parameter with values, after those before it. -/
def react (c : Context) (s : Progress) (p : Parameter) (values : List String) :
    Except Halt Progress := do
  let s ← s.settled c
  match p with
  | .help => throw (.help c)
  | .version => throw .version
  | p =>
    match s.store c p values with
    | (s, none) => return s
    | (_, some f) => throw (.fault f)

/-- Takes up a parameter whose values follow. -/
def await (c : Context) (s : Progress) (p : Parameter) : Except Halt Progress := do
  let s ← s.settled c
  return { s with pending := some (p, []), taking := true }

/-- Takes up a value of the parameter whose values are being read. -/
def take (s : Progress) (value : String) : Progress :=
  match s.pending with
  | none => s
  | some (p, values) =>
    { s with pending := some (p, values ++ [value]), taking := p.isMany }

end Progress

/-! ## Reading -/

/-- The parameter of a long name. -/
def longNamed? (c : Context) (name : String) : Option Parameter :=
  c.parameters.find? (·.long == name)

/-- The parameter of a letter. -/
def shortNamed? (c : Context) (letter : Char) : Option Parameter :=
  c.parameters.find? (·.short? == some letter)

/-- The parameter with the name that is most similar to a word. -/
def similarParameter? (c : Context) (name : String) : Option Parameter :=
  ((Similarity.similar name (c.parameters.map Parameter.long)).getLast?).bind (longNamed? c)

/-- The place of a text among others. -/
def placeOf? (s : String) (rest : List String) : Option Nat :=
  (rest.zipIdx.find? (·.1 == s)).map Prod.snd

/-- The subcommand that has a parameter with a similar name and whose own name comes first
among the arguments that follow. -/
def similarInSubcommand? (c : Context) (name : String) (rest : List String) : Option Tip :=
  if c.isSome then none
  else
    let found := Subcommand.all.filterMap fun s => do
      let p ← similarParameter? (some s) name
      let place ← placeOf? s.name rest
      return (place, Tip.ofSubcommand s.name p)
    (found.foldl (fun best x =>
      match best with
      | none => some x
      | some y => if x.1 < y.1 then some x else some y) none).map Prod.snd

/-- The fault of a long name that there is not. -/
def unknownLong (c : Context) (s : Progress) (name : String) (rest : List String) : Halt :=
  let s := (s.settle c).1
  match similarParameter? c name with
  | some p =>
    .fault ⟨.unknownArgument ("--" ++ name) (some (.parameter p)), c, (s.meet c p).given c⟩
  | none =>
    .fault ⟨.unknownArgument ("--" ++ name) (similarInSubcommand? c name rest), c, s.given c⟩

/-- Takes up a long name, with a value if one is attached. -/
def readLong (c : Context) (s : Progress) (name : String) (value : Option String)
    (rest : List String) : Except Halt Progress :=
  match longNamed? c name with
  | none => .error (unknownLong c s name rest)
  | some p =>
    match value with
    | none => if p.takesValue then s.await c p else s.react c p []
    | some v =>
      if p.takesValue then s.react c p [v]
      else
        .error (.fault ⟨.unexpectedValue v p, c, (s.given c) ++ [.parameter p]⟩)

/-- Takes up letters after one dash. -/
def readLetters (c : Context) : Progress → List Char → Except Halt Progress
  | s, [] => .ok s
  | s, letter :: rest =>
    match shortNamed? c letter with
    | none => .error (.fault ⟨.unknownArgument ("-" ++ letter.toString) none, c, []⟩)
    | some p =>
      if ¬ p.takesValue then do
        let s ← s.react c p []
        readLetters c s rest
      else match rest with
        | [] => s.await c p
        | '=' :: value => s.react c p [.ofList value]
        | value => s.react c p [.ofList value]

/-- The fault of an argument that is no parameter and no value. -/
def stray (c : Context) (trailing : Bool) (text : String) : Halt :=
  if trailing ∧ text ∈ c.subcommands then
    .fault ⟨.unknownArgument text (some (.dashes text)), c, []⟩
  else if c.subcommands.isEmpty then .fault ⟨.unknownArgument text none, c, []⟩
  else .fault ⟨.unknownSubcommand text (Similarity.similar text c.subcommands), c, []⟩

/-- A long name and an attached value. -/
def splitLong (cs : List Char) : String × Option String :=
  match cs.span (· ≠ '=') with
  | (name, []) => (.ofList name, none)
  | (name, _ :: value) => (.ofList name, some (.ofList value))

/-- Reads arguments up to a subcommand, and tells the subcommand and the arguments after
it. -/
def readArguments (c : Context) :
    Progress → List String → Except Halt (Progress × Option (String × List String))
  | s, [] => do return (← s.settled c, none)
  | s, arg :: rest =>
    if ¬ s.taking ∧ arg ∈ c.subcommands then .ok (s, some (arg, rest))
    else match arg.toList with
      | ['-', '-'] =>
        match rest with
        | [] => do return (← s.settled c, none)
        | text :: _ => .error (stray c true text)
      | '-' :: '-' :: cs => do
        let (name, value) := splitLong cs
        let s ← readLong c s name value rest
        readArguments c s rest
      | '-' :: l :: cs => do
        let s ← readLetters c s (l :: cs)
        readArguments c s rest
      | _ => if s.taking then readArguments c (s.take arg) rest else .error (stray c false arg)

/-! ## Requests -/

namespace Progress

/-- The values of a parameter. -/
def values (s : Progress) (p : Parameter) : List String :=
  ((s.seen.find? (·.1 = p)).map Prod.snd).getD []

def value? (s : Progress) (p : Parameter) : Option String := (s.values p).head?

def has (s : Progress) (p : Parameter) : Bool := s.seen.any (·.1 = p)

end Progress

/-- The greatest depth of a schema if none is given. -/
def defaultMaxDepth : Nat := 128

/-- The request of a subcommand. -/
def requestOf (s : Progress) : Subcommand → Request
  | .check =>
    .check
      { schema := (s.value? .schema).getD ""
        settings :=
          { ndjson := s.has .ndjson
            jsonPointer := s.value? .jsonPointer
            jqExpr := s.value? .jqExpr
            input := s.values .input }
        maxDepth :=
          match (s.value? .maxDepth).map number with
          | some (.ok n) => n
          | _ => defaultMaxDepth
        quiet := s.has .quiet
        noOp := s.has .noOp }
  | .explain => .explain { schema := (s.value? .schema).getD "", noOp := s.has .noOp }

/-- Reads the arguments of a subcommand. -/
def readSubcommand (c : Subcommand) (args : List String) : Except Halt Request := do
  let (s, _) ← readArguments (some c) .start args
  match (Context.required (some c)).filter fun p => !s.has p with
  | [] => return requestOf s c
  | ps =>
    throw (.fault ⟨.missing ps, some c, (s.given (some c)).filter (· ≠ .group)
      ++ ps.map .parameter⟩)

/-- What to help with. -/
def readHelp : List String → Halt
  | [] => .help none
  | name :: rest =>
    if name = helpName then
      match rest with
      | [] => .helpHelp
      | text :: _ => .belowHelp text
    else match Subcommand.ofName? name with
      | none => .fault ⟨.unknownSubcommand name [], none, []⟩
      | some c =>
        match rest with
        | [] => .help (some c)
        | text :: _ => .fault ⟨.unknownSubcommand text [], some c, []⟩

/-- Reads a command line, without the name of the program. -/
def readCommandLine (args : List String) : Except Halt Request := do
  let (_, found) ← readArguments none .start args
  match found with
  | none => throw .empty
  | some (name, rest) =>
    match Subcommand.ofName? name with
    | some c => readSubcommand c rest
    | none => throw (readHelp rest)

end Assay.Command

import Assay.Filter.Term

/-!
# Names in scope

The names that a term uses without there being a definition of them, in the order in which
they are found.
-/

namespace Assay.Filter

/-- A kind of name. -/
inductive NameKind where
  /-- A filter with a number of parameters. -/
  | filter (arity : Nat)
  | var
  | label
  | module

/-- The inspected text of a kind of name. -/
def NameKind.inspect : NameKind → String
  | filter n => "Filter(" ++ String.ofList (Decimal.digits n) ++ ")"
  | var => "Var"
  | label => "Label"
  | module => "Mod"

/-- A name without a definition. -/
structure Undefined where
  name : String
  kind : NameKind

/-- The names that can be used. -/
structure Scope where
  vars : List String
  labels : List String
  filters : List (String × Nat)

namespace Pattern

variable {τ : Type}

/-- The names that a pattern gives to parts.  The fuel bounds the nesting. -/
def names : Nat → Pattern τ → List String
  | 0, _ => []
  | _, var name => [name]
  | fuel + 1, array items => items.flatMap (names fuel)
  | fuel + 1, object entries => entries.flatMap fun e => names fuel e.2

/-- The keys that a pattern takes parts by. -/
def keys : Nat → Pattern τ → List τ
  | 0, _ => []
  | _, var _ => []
  | fuel + 1, array items => items.flatMap (keys fuel)
  | fuel + 1, object entries => entries.flatMap fun e => e.1 :: keys fuel e.2

end Pattern

namespace Scope

/-- The scope in which a name of a parameter is used too. -/
def addParam (s : Scope) (name : String) : Scope :=
  if name.startsWith "$" then { s with vars := name :: s.vars }
  else { s with filters := (name, 0) :: s.filters }

def addFilter (s : Scope) (name : String) (arity : Nat) : Scope :=
  { s with filters := (name, arity) :: s.filters }

def addVars (s : Scope) (names : List String) : Scope := { s with vars := names ++ s.vars }

/-- The name of a filter, if it is not defined. -/
def missing (s : Scope) (name : String) (arity : Nat) : List Undefined :=
  match name.toList.span (· ≠ ':') with
  | (_, []) => if s.filters.contains (name, arity) then [] else [⟨name, .filter arity⟩]
  | (module, _ :: _) => [⟨.ofList module, .module⟩]

/-- The undefined names of a term.  The fuel bounds the nesting of the term. -/
def undefined : Nat → Scope → Term → List Undefined
  | 0, _, _ => []
  | fuel + 1, s, t =>
    let go := undefined fuel
    match t with
    | .identity | .recurse | .number _ | .array none => []
    | .string format parts =>
      ((format.map fun f => s.missing f 0).getD [])
        ++ parts.flatMap fun
          | .interpolation t => go s t
          | _ => []
    | .array (some t) | .negate t => go s t
    | .object entries => entries.flatMap fun e => go s e.1 ++ ((e.2.map (go s)).getD [])
    | .pipe l r | .binary l _ r => go s l ++ go s r
    | .bind l p r =>
      go s l ++ (p.keys fuel).flatMap (go s) ++ go (s.addVars (p.names fuel)) r
    | .label name t => go { s with labels := name :: s.labels } t
    | .leave name => if s.labels.contains name then [] else [⟨name, .label⟩]
    | .fold name source p args =>
      match args with
      | start :: update :: rest =>
        let inner := s.addVars (p.names fuel)
        let fixed := go s source ++ (p.keys fuel).flatMap (go s) ++ go s start ++ go inner update
        match rest with
        | [] => fixed
        | [project] =>
          if name = "foreach" then fixed ++ go inner project
          else fixed ++ [⟨name, .filter args.length⟩]
        | _ => fixed ++ [⟨name, .filter args.length⟩]
      | _ => [⟨name, .filter args.length⟩]
    | .attempt t handler => go s t ++ ((handler.map (go s)).getD [])
    | .choose cases otherwise =>
      ((otherwise.map (go s)).getD []) ++ cases.reverse.flatMap fun c => go s c.1 ++ go s c.2
    | .define d t =>
      let outer := s.addFilter d.name d.params.length
      go (d.params.foldl addParam outer) d.body ++ go outer t
    | .call name args => args.flatMap (go s) ++ s.missing name args.length
    | .var name => if s.vars.contains name then [] else [⟨name, .var⟩]
    | .path head parts =>
      go s head ++ parts.flatMap fun part =>
        match part.1 with
        | .index i => go s i
        | .range start stop =>
          ((start.map (go s)).getD []) ++ ((stop.map (go s)).getD [])

end Scope

end Assay.Filter

import Assay.Filter.Value

/-!
# Environments

What the names of a term stand for: values, labels, definitions, and filters that are
passed to definitions together with the environment that they came from.
-/

namespace Assay.Filter

/-- What names stand for, the innermost name first.  The body of a definition sees the
definition itself and everything outside of it. -/
inductive Env where
  | empty
  | value (name : String) (v : Value) (outer : Env)
  | label (name : String) (id : Nat) (outer : Env)
  | definition (d : Definition Term) (outer : Env)
  | argument (name : String) (body : Term) (env : Env) (outer : Env)

namespace Env

/-- What a call runs. -/
inductive Callee where
  /-- A filter in the environment that it came from. -/
  | argument (body : Term) (env : Env)
  /-- A definition in the environment that its body sees, without its parameters. -/
  | definition (d : Definition Term) (env : Env)

/-- The value of a variable. -/
def value? (name : String) : Env → Option Value
  | empty => none
  | value n v outer => if n = name then some v else value? name outer
  | label _ _ outer | definition _ outer | argument _ _ _ outer => value? name outer

/-- The identity of a label. -/
def label? (name : String) : Env → Option Nat
  | empty => none
  | label n id outer => if n = name then some id else label? name outer
  | value _ _ outer | definition _ outer | argument _ _ _ outer => label? name outer

/-- What a name with a number of arguments calls. -/
def callee? (name : String) (arity : Nat) : Env → Option Callee
  | empty => none
  | definition d outer =>
    if d.name = name ∧ d.params.length = arity then some (.definition d (definition d outer))
    else callee? name arity outer
  | argument n body env outer =>
    if n = name ∧ arity = 0 then some (.argument body env) else callee? name arity outer
  | value _ _ outer | label _ _ outer => callee? name arity outer

/-- The environment of definitions, each of which sees those before it. -/
def ofDefinitions (ds : List (Definition Term)) : Env :=
  ds.foldl (fun env d => definition d env) empty

end Env

end Assay.Filter

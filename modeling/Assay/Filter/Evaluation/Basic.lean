import Assay.Filter.Access
import Assay.Filter.Arithmetic
import Assay.Filter.Builtin
import Assay.Filter.Environment
import Assay.Filter.Evaluation.Outcome

/-!
# Evaluators

What it takes to evaluate the parts of a term, and what is the same in evaluating a term
and in updating by it: binding variables and parameters, and finding out the steps of a
path.
-/

namespace Assay.Filter

/-- A value, and the path to it if paths are followed.  The last step comes first. -/
structure Place where
  value : Value
  path : Option (List Value)

/-- The place of a value to which no path is followed. -/
def Place.ofValue (v : Value) : Place := ⟨v, none⟩

/-- The place that a step leads to. -/
def Place.next (p : Place) (key v : Value) : Place := ⟨v, p.path.map (key :: ·)⟩

/-- The outcome of computing values, to which there is no path. -/
def Place.computed (p : Place) (r : Unit → Outcome Value) : Outcome Place :=
  match p.path with
  | none => (r ()).mapOk .ofValue
  | some _ => .fail (.badPath p.value)

/-- Evaluation of terms. -/
structure Evaluator where
  /-- The results of a term. -/
  run : Env → Term → Place → Outcome Place
  /-- A value with the parts that a term leads to mapped by a function. -/
  update : Env → Term → Value → (Value → Outcome Value) → Outcome Value
  around : Surroundings
  /-- How many terms there are around those that are evaluated. -/
  depth : Nat
  /-- How many numbers a filter may count. -/
  bound : Nat

namespace Evaluator

variable (ev : Evaluator)

/-- The values of a term. -/
def values (env : Env) (t : Term) (v : Value) : Outcome Value :=
  (ev.run env t (.ofValue v)).mapOk Place.value

/-! ## Binding -/

/-- The part of a value at the key of a pattern. -/
def parts (base : Env) (key : Term) (v : Value) : Outcome Value :=
  (ev.values base key v).mapExcept v.get

mutual

/-- The environments in which a pattern names the parts of a value.  The keys of the
pattern see the environment from before. -/
def bindPattern (base : Env) : Pattern Term → Value → Env → Outcome Env
  | .var name, v, env => .ok (.value name v env)
  | .array items, v, env => bindItems base 0 items v env
  | .object entries, v, env => bindEntries base entries v env

/-- The environments in which patterns name the items of an array from an index on. -/
def bindItems (base : Env) : Nat → List (Pattern Term) → Value → Env → Outcome Env
  | _, [], _, env => .ok env
  | i, p :: rest, v, env =>
    (ev.parts base (.number (.ofList (Decimal.digits i))) v).andThen fun part =>
      (bindPattern base p part env).andThen fun env => bindItems base (i + 1) rest v env

/-- The environments in which patterns name the parts of a value at their keys. -/
def bindEntries (base : Env) : List (Term × Pattern Term) → Value → Env → Outcome Env
  | [], _, env => .ok env
  | (key, p) :: rest, v, env =>
    (ev.parts base key v).andThen fun part =>
      (bindPattern base p part env).andThen fun env => bindEntries base rest v env

end

/-- The environments in which a pattern names the parts of the values of a term. -/
def bindings (env : Env) (source : Term) (p : Pattern Term) (v : Value) : Outcome Env :=
  (ev.values env source v).andThen fun x => ev.bindPattern env p x env

/-- The environments in which parameters stand for arguments.  An argument is evaluated if
its parameter is a variable. -/
def bindParams (caller : Env) (v : Value) : List (String × Term) → Env → Outcome Env
  | [], env => .ok env
  | (name, t) :: rest, env =>
    if name.startsWith "$" then
      (ev.values caller t v).andThen fun x => bindParams caller v rest (.value name x env)
    else bindParams caller v rest (.argument name t caller env)

/-- The values of arguments, the first one varying last. -/
def arguments (env : Env) (v : Value) : List Term → Outcome (List Value)
  | [] => .ok []
  | t :: rest =>
    (ev.values env t v).andThen fun x => (arguments env v rest).mapOk (x :: ·)

/-! ## Paths -/

/-- The values of a bound of a range that may be left out. -/
def boundValues (env : Env) (v : Value) : Option Term → Outcome (Option Value)
  | none => .ok none
  | some t => (ev.values env t v).mapOk some

/-- The steps of a part of a path. -/
def steps (env : Env) (v : Value) : PathPart Term → Outcome Step
  | .index t => (ev.values env t v).mapOk .index
  | .range start stop =>
    (ev.boundValues env v start).andThen fun a =>
      (ev.boundValues env v stop).mapOk fun b => .range a b

/-- The paths that parts of a path stand for.  The first part varies last. -/
def paths (env : Env) (v : Value) :
    List (PathPart Term × Bool) → Outcome (List (Step × Bool))
  | [] => .ok []
  | (part, optional) :: rest =>
    (ev.steps env v part).andThen fun s =>
      (paths env v rest).mapOk ((s, optional) :: ·)

end Evaluator

/-- The places that a path leads to. -/
def Place.follow : List (Step × Bool) → Place → Outcome Place
  | [], p => .ok p
  | (s, optional) :: rest, p =>
    match p.value.follow s with
    | .error e => if optional then .none else .fail e
    | .ok parts =>
      Results.bind (.ofList parts) fun part => Place.follow rest (p.next part.1 part.2)

/-- The obstacle of a step that is refused. -/
def Value.refused (e : Error) : Obstacle Stop := .fault (.error e)

/-- A value with the parts that a path leads to mapped by a function. -/
def Value.updatePath (f : Value → Outcome Value) : List (Step × Bool) → Value → Outcome Value
  | [], v => f v
  | (s, optional) :: rest, v =>
    let first (w : Value) := (updatePath f rest w).first
    .ofStop <| match s with
      | .index i => v.updateAt refused optional i first
      | .range none none =>
        v.updateAll refused optional (fun w => (updatePath f rest w).collect) first
      | .range a b => v.updateSlice refused optional a b first

/-- A place and all places inside of it, the outer ones first.  The fuel bounds the
nesting. -/
def Place.descend : Nat → Place → Outcome Place
  | 0, p => .ok p
  | fuel + 1, p =>
    .cons (.ok p) fun _ =>
      match p.value.entries with
      | .error _ => .nil
      | .ok parts =>
        Results.bind (.ofList parts) fun part => Place.descend fuel (p.next part.1 part.2)

/-- A value with all values inside of it and then itself mapped by a function.  The fuel
bounds the nesting. -/
def Value.updateDeep (f : Value → Outcome Value) : Nat → Value → Outcome Value
  | 0, v => f v
  | fuel + 1, v =>
    let updated := v.updateAll refused true (fun w => (updateDeep f fuel w).collect)
      (fun w => (updateDeep f fuel w).first)
    (Outcome.ofStop updated).andThen f

end Assay.Filter

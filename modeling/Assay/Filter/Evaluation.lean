import Assay.Filter.Evaluation.Run

/-!
# Evaluation

The parts of a value that a term leads to, mapped by a function, given how the parts of the
term are evaluated; and at last the evaluation of terms in as many steps as are allowed.
-/

namespace Assay.Filter

namespace Evaluator

variable (ev : Evaluator)

/-- Updates at paths, one after the other. -/
def updateAtPaths (f : Value → Outcome Value) (paths : Outcome (List (Step × Bool)))
    (v : Value) : Outcome Value :=
  Outcome.reduce (fun path => Value.updatePath f path) paths v

/-- The path of indices as steps. -/
def stepsOf (keys : List Value) : List (Step × Bool) :=
  keys.map fun
    | .object members =>
      let bound (name : String) := (members.lookup name).filter fun v => v != .null
      (.range (bound "start") (bound "end"), false)
    | k => (.index k, false)

/-- Updates by the case that applies. -/
def updateChosen (env : Env) (f : Value → Outcome Value) :
    List (Term × Term) → Option Term → Value → Outcome Value
  | [], none, v => f v
  | [], some t, v => ev.update env t v f
  | (condition, t) :: rest, otherwise, v =>
    Outcome.reduce (fun (c : Value) w =>
      if c.truth then ev.update env t w f else updateChosen env f rest otherwise w)
      (ev.values env condition v) v

/-- Updates by each step after the one before it, and at last by the function. -/
def updateReduced (update : Term) (f : Value → Outcome Value) :
    Outcome Env → Value → Outcome Value
  | .nil, v => f v
  | .cons (.error s) _, _ => .stop s
  | .cons (.ok env) t, v => ev.update env update v (updateReduced update f (t ()))
  | .ended why, _ => .ended why

/-- Updates by each step after the one before it, and by the function after each step. -/
def updateEach (update : Term) (project : Env → Value → Outcome Value) :
    Outcome Env → Value → Outcome Value
  | .nil, v => .ok v
  | .cons (.error s) _, _ => .stop s
  | .cons (.ok env) t, v =>
    ev.update env update v fun w => (project env w).andThen (updateEach update project (t ()))
  | .ended why, _ => .ended why

/-- Updates by a fold. -/
def updateFold (env : Env) (v : Value) (name : String) (source : Term)
    (pattern : Pattern Term) (args : List Term) (f : Value → Outcome Value) : Outcome Value :=
  let envs := ev.bindings env source pattern v
  match args with
  | [start, update] =>
    ev.update env start v fun w =>
      if name = "reduce" then ev.updateReduced update f envs w
      else ev.updateEach update (fun _ => f) envs w
  | [start, update, project] =>
    ev.update env start v
      (ev.updateEach update (fun env w => ev.update env project w f) envs)
  | _ => .none

/-- The filters with special arguments that can be updated by. -/
def cutting (name : String) (arity : Nat) : Bool :=
  [("first", 1), ("last", 1), ("limit", 2), ("skip", 2)].contains (name, arity)

/-- Updates by a call. -/
def updateCall (env : Env) (v : Value) (name : String) (args : List Term)
    (f : Value → Outcome Value) : Outcome Value :=
  match env.callee? name args.length with
  | some (.argument body env') => ev.update env' body v f
  | some (.definition d env') =>
    Outcome.reduce (fun env w => ev.update env d.body w f)
      (ev.bindParams env v (d.params.zip args) env') v
  | none =>
    if name = "error" ∧ args.isEmpty then .fail (.value v)
    else if cutting name args.length then
      let places := (ev.special env ⟨v, some []⟩ name args).getD .none
      updateAtPaths f (places.mapOk fun q => stepsOf (q.path.getD []).reverse) v
    else .fail (.badPath v)

/-- A value with the parts that a term leads to mapped by a function. -/
def updateTerm (env : Env) (t : Term) (v : Value) (f : Value → Outcome Value) : Outcome Value :=
  match t with
  | .identity => f v
  | .recurse => Value.updateDeep f v.depth v
  | .pipe l r => ev.update env l v fun w => ev.update env r w f
  | .bind l pattern r =>
    Outcome.reduce (fun env w => ev.update env r w f) (ev.bindings env l pattern v) v
  | .binary l .comma r => (ev.update env l v f).andThen fun w => ev.update env r w f
  | .binary l .alternative r =>
    match truthful (ev.run env l (.ofValue v)) with
    | .nil => ev.update env r v f
    | .cons .. => ev.update env l v f
    | .ended why => .ended why
  | .leave name => .stop (.leave ((env.label? name).getD 0))
  | .fold name source pattern args => ev.updateFold env v name source pattern args f
  | .choose cases otherwise => ev.updateChosen env f cases otherwise v
  | .define d t => ev.update (.definition d env) t v f
  | .call name args => ev.updateCall env v name args f
  | .path head parts =>
    let paths := ev.paths env v parts
    ev.update env head v (updateAtPaths f paths)
  | _ => .fail (.badPath v)

end Evaluator

/-! ## Bounds -/

/-- The evaluator with a bound on the number of terms around one another, besides `depth` that
there are already, and on the numbers that are counted. -/
def evaluator (around : Surroundings) : Nat → Nat → Evaluator
  | 0, depth =>
    { run _ _ _ := .ended .unfinished
      update _ _ _ _ := .ended .unfinished
      around := around
      depth := depth
      bound := 0 }
  | bound + 1, depth =>
    { run env t p := (evaluator around bound (depth + 1)).runTerm env t p
      update env t v f := (evaluator around bound (depth + 1)).updateTerm env t v f
      around := around
      depth := depth
      bound := bound + 1 }

/-- The results of a term on a value, within a bound. -/
def evaluate (around : Surroundings) (bound : Nat) (env : Env) (t : Term) (v : Value) :
    Outcome Value :=
  (evaluator around bound 0).values env t v

end Assay.Filter

import Assay.Filter.Evaluation.Basic

/-!
# Running terms

The results of a term at a place, given how its parts are evaluated.  Paths are followed
through the terms that lead to parts of a value; a term that computes a value is no path.
-/

namespace Assay.Filter

namespace Evaluator

variable (ev : Evaluator)

/-- Adds values of terms up, from the right; `zero` if there are none. -/
def sum (zero : Value) : List (Unit → Outcome Value) → Outcome Value
  | [] => .ok zero
  | [r] => r ()
  | r :: rest =>
    (Outcome.pairs (r ()) fun _ => sum zero rest).andThen fun (x, y) =>
      .ofExcept (Arithmetic.add.apply x y)

/-- The text that stands for a value in a string. -/
def interpolated : Value → Value
  | .string s => .string s
  | v => .string v.text

/-- The values of a part of a string. -/
def partValues (env : Env) (v : Value) (format : Option String) :
    Part Term → Outcome Value
  | .text s => .ok (.string s)
  | .char c => .ok (.string c.toString)
  | .interpolation t =>
    match format with
    | none => (ev.values env t v).mapOk interpolated
    | some name => (ev.values env t v).andThen (ev.values env (.call name []))

/-- The objects of an entry. -/
def entryValues (env : Env) (v : Value) (entry : Term × Option Term) : Outcome Value :=
  let (key, value) : Term × Term := match entry with
    | (k, some t) => (k, t)
    | (.var name, none) => (.text (name.drop 1).toString, .var name)
    | (k, none) => (k, .path .identity [(.index k, false)])
  (Outcome.pairs (ev.values env key v) fun _ => ev.values env value v).mapExcept fun (k, x) => do
    return .object [(← k.asString, x)]

/-- The values of an operator that computes values. -/
def operate (env : Env) (v : Value) (l : Term) (op : Operator) (r : Term) : Outcome Value :=
  let both := Outcome.pairs (ev.values env l v) fun _ => ev.values env r v
  let logic (decided : Bool) : Outcome Value :=
    (ev.values env l v).andThen fun x =>
      if x.truth = decided then .ok (.boolean decided)
      else (ev.values env r v).mapOk fun y => .boolean y.truth
  match op with
  | .and => logic false
  | .or => logic true
  | .arithmetic op => both.andThen fun (x, y) => .ofExcept (op.apply x y)
  | .comparison op => both.mapOk fun (x, y) => .boolean (Value.compares op x y)
  | .assign => (ev.values env r v).andThen fun y => ev.update env l v fun _ => .ok y
  | .update => ev.update env l v (ev.values env r)
  | .updateArithmetic op =>
    (ev.values env r v).andThen fun y =>
      ev.update env l v fun x => .ofExcept (op.apply x y)
  | .updateAlternative =>
    (ev.values env r v).andThen fun y =>
      ev.update env l v fun x => .ok (if x.truth then x else y)
  | .comma | .alternative => .none

/-- The results that count as true, and the stops. -/
def truthful (r : Outcome Place) : Outcome Place :=
  r.filter fun
    | .ok p => p.value.truth
    | .error _ => true

/-- The results of the case that applies. -/
def chosen (env : Env) (p : Place) : List (Term × Term) → Option Term → Outcome Place
  | [], none => .ok p
  | [], some t => ev.run env t p
  | (condition, t) :: rest, otherwise =>
    (ev.values env condition p.value).andThen fun c =>
      if c.truth then ev.run env t p else chosen env p rest otherwise

/-- The results of each step after the one before it, from a start. -/
def each (step project : Env → Place → Outcome Place) : Outcome Env → Place → Outcome Place
  | .nil, _ => .none
  | .cons (.error s) _, _ => .stop s
  | .cons (.ok env) t, p =>
    (step env p).andThen fun q =>
      (project env q).append fun _ => each step project (t ()) q
  | .ended why, _ => .ended why

/-- The results of a fold over the values of a source. -/
def fold (env : Env) (p : Place) (name : String) (source : Term)
    (pattern : Pattern Term) (args : List Term) : Outcome Place :=
  let envs := ev.bindings env source pattern p.value
  match args with
  | [start, update] =>
    (ev.run env start p).andThen fun q =>
      if name = "reduce" then
        Outcome.reduce (fun env => ev.run env update) envs q
      else each (fun env => ev.run env update) (fun _ => .ok) envs q
  | [start, update, project] =>
    (ev.run env start p).andThen
      (each (fun env => ev.run env update) (fun env => ev.run env project) envs)
  | _ => .none

/-! ## Calls -/

/-- As many as there may be of the numbers from one up to another by a step. -/
def count (stop step : Value) (goesOn : Value → Bool) :
    Nat → Except (Obstacle Error) Value → Outcome Value
  | _, .error e => .ofExcept (.error e)
  | n, .ok x =>
    if goesOn x then
      match n with
      | 0 => .ended .unfinished
      | n + 1 => .cons (.ok x) fun _ => count stop step goesOn n (Arithmetic.add.apply x step)
    else .none

/-- The numbers from `start` up to `stop` by `step`. -/
def range (start stop step : Value) : Outcome Value :=
  let goesOn (x : Value) : Bool := match Value.order step (.int 0) with
    | .gt => x.order stop == .lt
    | .lt => x.order stop == .gt
    | .eq => x.order stop != .eq
  count stop step goesOn ev.bound (.ok start)

/-- The items of an array together with the values of a term on them. -/
def keyed (env : Env) (t : Term) :
    List Value → Except (Obstacle Stop) (List (Value × Value))
  | [] => .ok []
  | x :: rest => do
    let key ← (ev.values env t x).collect
    return (.array key, x) :: (← keyed env t rest)

/-- The items of an array sorted by their keys. -/
def sortedBy (env : Env) (t : Term) (v : Value) :
    Except (Obstacle Stop) (List (Value × Value)) :=
  match v.asArray with
  | .error e => .error (Value.refused e)
  | .ok items => do
    return (← ev.keyed env t items).mergeSort fun x y => Value.order x.1 y.1 != .gt

/-- Puts neighbours of the same key together. -/
def groups : List (Value × Value) → List (Value × List Value)
  | [] => []
  | (k, x) :: rest =>
    match groups rest with
    | (k', xs) :: more => if k == k' then (k, x :: xs) :: more else (k, [x]) :: (k', xs) :: more
    | [] => [(k, [x])]

/-- The results of a list, or the first stop. -/
def ofList {α : Type} (r : Except (Obstacle Stop) (List α)) : Outcome α :=
  (Outcome.ofStop r).andThen fun xs => Results.ofList (xs.map .ok)

/-- A filter with special arguments. -/
def special (env : Env) (p : Place) (name : String) (args : List Term) :
    Option (Outcome Place) :=
  let v := p.value
  match name, args with
  | "error", [] => some (.fail (.value v))
  | "path", [t] =>
    some <| p.computed fun _ => (ev.run env t ⟨v, some []⟩).mapOk fun q =>
      .array (q.path.getD []).reverse
  | "range", [a, b, c] =>
    some <| p.computed fun _ =>
      (ev.values env a v).andThen fun a =>
        (ev.values env b v).andThen fun b =>
          (ev.values env c v).andThen fun c => ev.range a b c
  | "first", [t] => some ((ev.run env t p).take 1)
  | "last", [t] =>
    some <| ofList do return (← (ev.run env t p).final none).toList
  | "limit", [n, t] =>
    some <| ((ev.values env n v).mapExcept Value.asInteger).andThen fun n =>
      (ev.run env t p).take n.toNat
  | "skip", [n, t] =>
    some <| ((ev.values env n v).mapExcept Value.asInteger).andThen fun n =>
      (ev.run env t p).drop n.toNat
  | "sort_by", [t] =>
    some <| p.computed fun _ => .ofStop do
      return .array ((← ev.sortedBy env t v).map Prod.snd)
  | "group_by", [t] =>
    some <| p.computed fun _ => .ofStop do
      return .array ((groups (← ev.sortedBy env t v)).map fun g => .array g.2)
  | "min_by_or_empty", [t] =>
    some <| p.computed fun _ => ofList do
      return ((← ev.sortedBy env t v).map Prod.snd).take 1
  | "max_by_or_empty", [t] =>
    some <| p.computed fun _ => ofList do
      return ((← ev.sortedBy env t v).map Prod.snd).getLast?.toList
  | _, _ => none

/-- The results of a call. -/
def call (env : Env) (p : Place) (name : String) (args : List Term) : Outcome Place :=
  match env.callee? name args.length with
  | some (.argument body env') => ev.run env' body p
  | some (.definition d env') =>
    (ev.bindParams env p.value (d.params.zip args) env').andThen fun env => ev.run env d.body p
  | none =>
    match ev.special env p name args with
    | some r => r
    | none =>
      match Builtin.find? name args.length with
      | none => .none
      | some b =>
        p.computed fun _ =>
          (ev.arguments env p.value args).andThen fun xs =>
            .ofExcept (b.run ev.around p.value xs)

/-! ## Terms -/

/-- The results of a term.  Labels are told apart by how many terms there are around them. -/
def runTerm (env : Env) (t : Term) (p : Place) : Outcome Place :=
  let v := p.value
  match t with
  | .identity => .ok p
  | .recurse => p.descend v.depth
  | .number text => p.computed fun _ => .ok (.ofNumberText text)
  | .string format parts =>
    p.computed fun _ =>
      sum (.string "") (parts.map fun part _ => ev.partValues env v format part)
  | .array none => p.computed fun _ => .ok (.array [])
  | .array (some t) =>
    p.computed fun _ => .ofStop do return .array (← (ev.values env t v).collect)
  | .object entries =>
    p.computed fun _ => sum (.object []) (entries.map fun e _ => ev.entryValues env v e)
  | .negate t => p.computed fun _ => (ev.values env t v).mapExcept Value.negate
  | .pipe l r => (ev.run env l p).andThen (ev.run env r)
  | .bind l pattern r =>
    (ev.bindings env l pattern v).andThen fun env => ev.run env r p
  | .binary l .comma r => (ev.run env l p).append fun _ => ev.run env r p
  | .binary l .alternative r =>
    match truthful (ev.run env l p) with
    | .nil => ev.run env r p
    | results => results
  | .binary l op r => p.computed fun _ => ev.operate env v l op r
  | .label name t => (ev.run (.label name ev.depth env) t p).untilLeave ev.depth
  | .leave name => .stop (.leave ((env.label? name).getD 0))
  | .fold name source pattern args => ev.fold env p name source pattern args
  | .attempt t handler =>
    Results.bind (ev.run env t p) fun
      | .error (.error e) =>
        match handler with
        | none => Outcome.none
        | some h => ev.run env h ⟨e.toValue, p.path⟩
      | r => .one r
  | .choose cases otherwise => ev.chosen env p cases otherwise
  | .define d t => ev.run (.definition d env) t p
  | .call name args => ev.call env p name args
  | .var name => p.computed fun _ => .ok ((env.value? name).getD .null)
  | .path head parts =>
    (ev.run env head p).andThen fun q =>
      (ev.paths env v parts).andThen fun steps => Place.follow steps q

end Evaluator

end Assay.Filter

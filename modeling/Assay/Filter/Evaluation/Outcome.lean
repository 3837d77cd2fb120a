import Assay.Filter.Results
import Assay.Filter.Value

/-!
# Outcomes

What evaluation yields: results, among which there may be errors.  An error does not keep
the results after it from being computed; who asks for them may stop at it.
-/

namespace Assay.Filter

/-- Why evaluation stops. -/
inductive Stop where
  | error (e : Error)
  /-- A label is left. -/
  | leave (label : Nat)

/-- Results or stops, in order. -/
abbrev Outcome (α : Type) := Results (Except Stop α)

namespace Outcome

variable {α β : Type}

/-- No results. -/
def none : Outcome α := Results.nil

def ok (x : α) : Outcome α := Results.one (.ok x)

def stop (s : Stop) : Outcome α := Results.one (.error s)

def fail (e : Error) : Outcome α := stop (.error e)

/-- One result or stop, or an ending. -/
def ofStop : Except (Obstacle Stop) α → Outcome α
  | .ok x => ok x
  | .error (.fault s) => stop s
  | .error (.ended why) => .ended why

/-- One result or error, or an ending. -/
def ofExcept : Except (Obstacle Error) α → Outcome α
  | .ok x => ok x
  | .error (.fault e) => fail e
  | .error (.ended why) => .ended why

/-- The outcome of a function on every result. -/
def andThen (r : Outcome α) (f : α → Outcome β) : Outcome β :=
  Results.bind r fun
    | .ok x => f x
    | .error s => stop s

/-- Every result of one outcome with every result of another.  A stop stands in for a pair
as often as there would be pairs. -/
def pairs (l : Outcome α) (r : Unit → Outcome β) : Outcome (α × β) :=
  Results.bind l fun x => (r ()).map fun y => do return (← x, ← y)

/-- A function on every result. -/
def mapOk (f : α → β) (r : Outcome α) : Outcome β := Results.map (Except.map f) r

/-- A function that may fail on every result. -/
def mapExcept (f : α → Except Error β) (r : Outcome α) : Outcome β :=
  Results.map (fun
    | .error s => .error s
    | .ok x =>
      match f x with
      | .ok y => .ok y
      | .error e => .error (.error e)) r

/-- All results after those that are given, the last one first, or the first stop. -/
def collectOnto (acc : List α) : Outcome α → Except (Obstacle Stop) (List α)
  | .nil => .ok acc.reverse
  | .cons (.ok x) t => collectOnto (x :: acc) (t ())
  | .cons (.error s) _ => .error (.fault s)
  | .ended why => .error (.ended why)

/-- All results, or the first stop. -/
def collect (r : Outcome α) : Except (Obstacle Stop) (List α) := collectOnto [] r

/-- The first result, if there is one. -/
def first : Outcome α → Except (Obstacle Stop) (Option α)
  | .nil => .ok .none
  | .cons (.ok x) _ => .ok (some x)
  | .cons (.error s) _ => .error (.fault s)
  | .ended why => .error (.ended why)

/-- The last result, if there is one, or the first stop. -/
def final (x : Option α) : Outcome α → Except (Obstacle Stop) (Option α)
  | .nil => .ok x
  | .cons (.ok y) t => final (some y) (t ())
  | .cons (.error s) _ => .error (.fault s)
  | .ended why => .error (.ended why)

/-- The results up to where a label is left. -/
def untilLeave (label : Nat) : Outcome α → Outcome α
  | .nil => .nil
  | .cons (.error (.leave l)) t =>
    if l = label then .nil else .cons (.error (.leave l)) fun _ => untilLeave label (t ())
  | .cons x t => .cons x fun _ => untilLeave label (t ())
  | .ended why => .ended why

/-- The outcome of one step after another, from a start. -/
def reduce (step : β → α → Outcome α) : Outcome β → α → Outcome α
  | .nil, x => ok x
  | .cons (.error s) _, _ => stop s
  | .cons (.ok b) t, x => andThen (step b x) (reduce step (t ()))
  | .ended why, _ => .ended why

end Outcome

end Assay.Filter

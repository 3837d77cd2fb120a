/-!
# Results

The results of a filter, in order.  The tail of a list of results is computed when it is
asked for, so that a filter that has many results can be cut short.  Instead of a further
result there may be an ending: the program exits or breaks off, or the steps are used up that
were allowed.
-/

namespace Assay.Filter

/-- Why there are no further results, although the list of them is not complete. -/
inductive Ending where
  /-- The program exits with a status, after it printed a text. -/
  | exit (status : Nat) (output : String)
  /-- The program breaks off. -/
  | crash
  /-- The steps that were allowed are used up. -/
  | unfinished
deriving DecidableEq

/-- Why a computation has no result: because of a fault, or because of an ending. -/
inductive Obstacle (ε : Type) where
  | fault (e : ε)
  | ended (why : Ending)

/-- Puts a fault in other terms. -/
def Obstacle.map {ε δ : Type} (f : ε → δ) : Obstacle ε → Obstacle δ
  | fault e => fault (f e)
  | ended why => ended why

/-- A list whose tail waits to be asked for. -/
inductive Results (α : Type) where
  | nil
  | cons (head : α) (tail : Unit → Results α)
  | ended (why : Ending)

namespace Results

variable {α β : Type}

instance : Inhabited (Results α) := ⟨nil⟩

/-- One result. -/
def one (x : α) : Results α := cons x fun _ => nil

/-- The results of a list. -/
def ofList : List α → Results α
  | [] => nil
  | x :: xs => cons x fun _ => ofList xs

/-- The results of one list and then those of another. -/
def append : Results α → (Unit → Results α) → Results α
  | nil, r => r ()
  | cons x t, r => cons x fun _ => append (t ()) r
  | ended why, _ => ended why

def map (f : α → β) : Results α → Results β
  | nil => nil
  | cons x t => cons (f x) fun _ => map f (t ())
  | ended why => ended why

/-- The results of a function on every result. -/
def bind : Results α → (α → Results β) → Results β
  | nil, _ => nil
  | cons x t, f => append (f x) fun _ => bind (t ()) f
  | ended why, _ => ended why

def filter (p : α → Bool) : Results α → Results α
  | nil => nil
  | cons x t => if p x then cons x fun _ => filter p (t ()) else filter p (t ())
  | ended why => ended why

/-- The first `n` results.  No more results are asked for than these. -/
def take : Nat → Results α → Results α
  | 0, _ => nil
  | _ + 1, nil => nil
  | n + 1, cons x t => cons x fun _ => if n = 0 then nil else take n (t ())
  | _ + 1, ended why => ended why

/-- The results after the first `n`. -/
def drop : Nat → Results α → Results α
  | 0, r => r
  | _ + 1, nil => nil
  | n + 1, cons _ t => drop n (t ())
  | _ + 1, ended why => ended why

end Results

end Assay.Filter

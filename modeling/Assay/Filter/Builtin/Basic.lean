import Assay.Filter.Results
import Assay.Filter.Value

/-!
# Built-in filters

Filters that take values as arguments and have one result.  Some of them also look at what
surrounds the program.
-/

namespace Assay.Filter

/-- What surrounds the program while it runs. -/
structure Surroundings where
  /-- The seconds since the start of 1970. -/
  now : Float
  /-- The variables of the environment. -/
  environment : List (String × String)
  /-- By how many seconds the local time is ahead at a moment, given as the seconds since the
  start of 1970. -/
  ahead : Int → Int

/-- A built-in filter with a number of arguments. -/
structure Builtin where
  name : String
  arity : Nat
  run : Surroundings → Value → List Value → Except (Obstacle Error) Value

namespace Builtin

/-- A built-in filter without arguments that looks at what surrounds the program, or that may
end it. -/
def plainIn (name : String) (f : Surroundings → Value → Except (Obstacle Error) Value) :
    Builtin :=
  ⟨name, 0, fun around v _ => f around v⟩

/-- A built-in filter without arguments. -/
def plain (name : String) (f : Value → Except Error Value) : Builtin :=
  plainIn name fun _ v => (f v).mapError .fault

/-- A built-in filter with one argument that looks at what surrounds the program, or that may
end it. -/
def withOneIn (name : String)
    (f : Surroundings → Value → Value → Except (Obstacle Error) Value) : Builtin :=
  ⟨name, 1, fun around v args =>
    match args with
    | [a] => f around v a
    | _ => .ok v⟩

/-- A built-in filter with one argument. -/
def withOne (name : String) (f : Value → Value → Except Error Value) : Builtin :=
  withOneIn name fun _ v a => (f v a).mapError .fault

/-- A built-in filter with two arguments. -/
def withTwo (name : String) (f : Value → Value → Value → Except Error Value) : Builtin :=
  ⟨name, 2, fun _ v args =>
    match args with
    | [a, b] => (f v a b).mapError .fault
    | _ => .ok v⟩

/-- A built-in filter with three arguments. -/
def withThree (name : String) (f : Value → Value → Value → Value → Except Error Value) :
    Builtin :=
  ⟨name, 3, fun _ v args =>
    match args with
    | [a, b, c] => (f v a b c).mapError .fault
    | _ => .ok v⟩

end Builtin

end Assay.Filter

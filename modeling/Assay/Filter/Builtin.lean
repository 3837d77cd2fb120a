import Assay.Filter.Builtin.Collection
import Assay.Filter.Builtin.Matching
import Assay.Filter.Builtin.Number
import Assay.Filter.Builtin.Text
import Assay.Filter.Builtin.Time

/-!
# All built-in filters

The filters that end the program or tell what surrounds it, and the list of all built-in
filters.
-/

namespace Assay.Filter.Builtin

open Value

/-- What is printed of a value when the program exits: a string as it is, and any other value as
a line of JSON. -/
def lastWords : Value → String
  | string s => s
  | v => v.text ++ "\n"

/-- The built-in filters that end the program or tell what surrounds it. -/
def onSurroundings : List Builtin :=
  [plainIn "halt" fun _ _ => .error (.ended (.exit 0 "")),
   withOneIn "halt_error" fun _ v status => do
    -- Of the status only a byte is passed on.
    let i ← status.asInteger.mapError .fault
    throw (.ended (.exit (i % 256).toNat (lastWords v))),
   plainIn "now" fun around _ => .ok (float around.now),
   plainIn "env" fun around _ => .ok (ofMembers (around.environment.map fun m => (m.1, string m.2)))]

/-- All built-in filters with one result. -/
def all : List Builtin :=
  onCollections ++ onTexts ++ onMatches ++ onNumbers ++ onMoments ++ onSurroundings

/-- The built-in filter of a name and a number of arguments. -/
def find? (name : String) (arity : Nat) : Option Builtin :=
  all.find? fun b => b.name == name && b.arity == arity

end Assay.Filter.Builtin

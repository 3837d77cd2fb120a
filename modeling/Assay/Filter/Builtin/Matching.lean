import Assay.Filter.Builtin.Basic
import Assay.Regex.Matching

/-!
# Built-in filters on regular expressions

The matches of an expression in a string, and the text between them.
-/

namespace Assay.Filter.Builtin

open Value

/-- How an expression is searched for. -/
structure Search where
  /-- Whether all matches are searched for and not only the first. -/
  everywhere : Bool
  /-- Whether empty matches are dropped. -/
  skipEmpty : Bool
  flags : Regex.Flags

/-- The search of flags, or the first letter that is no flag. -/
def searchOf : List Char → Search → Except Char Search
  | [], s => .ok s
  | c :: cs, s =>
    if c = 'g' then searchOf cs { s with everywhere := true }
    else if c = 'n' then searchOf cs { s with skipEmpty := true }
    else if c = 'i' then searchOf cs { s with flags := { s.flags with ignoreCase := true } }
    else if c = 'x' then searchOf cs { s with flags := { s.flags with ignoreBlanks := true } }
    else if c = 's' then searchOf cs { s with flags := { s.flags with dotAll := true } }
    else if c = 'l' then searchOf cs { s with flags := { s.flags with swapGreed := true } }
    else if c = 'p' then
      searchOf cs { s with skipEmpty := true, flags := { s.flags with dotAll := true } }
    else .error c

/-- The value of a group that matches from one place to another. -/
def groupValue (text : List Char) (name : Option String) (start stop : Nat) : Value :=
  object
    ([("offset", int start), ("length", int (stop - start : Nat)),
      ("string", string (.ofList ((text.drop start).take (stop - start))))]
      ++ (name.map fun n => ("name", string n)).toList)

/-- The value of a match: the whole of it and then its groups. -/
def matchValue (text : List Char) (names : List (Option String)) (m : Regex.Match) : Value :=
  array (groupValue text none m.start m.stop :: names.zipIdx.filterMap fun (name, i) =>
    (m.spans.lookup (i + 1)).map fun (start, stop) => groupValue text name start stop)

/-- The matches, and the text between them if it is asked for. -/
def results (between found : Bool) (text : List Char) (names : List (Option String)) :
    Nat → List Regex.Match → List Value
  | from_, [] => if between then [string (.ofList (text.drop from_))] else []
  | from_, m :: rest =>
    (if between then [string (.ofList ((text.drop from_).take (m.start - from_)))] else [])
      ++ (if found then [matchValue text names m] else [])
      ++ results between found text names m.stop rest

/-- Searches a string for an expression. -/
def search (between found : Bool) (v expression flags : Value) : Except Error Value := do
  let s ← match searchOf (← flags.asString).toList ⟨false, false, .none⟩ with
    | .ok s => pure s
    | .error c => throw (.ofText ("invalid regex flag: " ++ c.toString))
  let r ← match Regex.compile s.flags (← expression.asString) with
    | .ok r => pure r
    | .error message => throw (.ofText ("invalid regex: " ++ message))
  let text := (← v.asString).toList
  let ms := (r.body.allMatches text).filter fun m =>
    m.start < text.length && !(s.skipEmpty && m.start == m.stop)
  let ms := if s.everywhere then ms else ms.take 1
  return array (results between found text r.names 0 ms)

/-- The built-in filters on regular expressions. -/
def onMatches : List Builtin :=
  [withTwo "matches" (search false true),
   withTwo "split_matches" (search true true),
   withTwo "split_" (search true false)]

end Assay.Filter.Builtin

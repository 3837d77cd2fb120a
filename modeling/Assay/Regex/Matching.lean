import Assay.Regex.Syntax

/-!
# Matching regular expressions

Where an expression matches in a text.  Among the matches that start first, the one is
taken that prefers earlier branches, and more repetitions where they are greedy.
-/

namespace Assay.Regex

/-- A place in a text, with the spans of the groups that were matched before it. -/
structure Point where
  before : Option Char
  rest : List Char
  position : Nat
  spans : List (Nat × Nat × Nat)

/-- Where a match starts and ends, and its groups by index. -/
structure Match where
  start : Nat
  stop : Nat
  spans : List (Nat × Nat × Nat)

def isWordChar (c : Char) : Bool := c.isAlphanum || c == '_'

/-- Whether a condition holds at a place. -/
def Anchor.holds (a : Anchor) (p : Point) : Bool :=
  let left := (p.before.map isWordChar).getD false
  let right := (p.rest.head?.map isWordChar).getD false
  match a with
  | start => p.before.isNone
  | stop => p.rest.isEmpty
  | lineStart => p.before.isNone || p.before == some '\n'
  | lineStop => p.rest.isEmpty || p.rest.head? == some '\n'
  | wordBoundary => left != right
  | noWordBoundary => left == right
  | wordStart => !left && right
  | wordStop => left && !right

def inSet (negated : Bool) (ranges : List (Char × Char)) (c : Char) : Bool :=
  (ranges.any fun r => r.1 ≤ c && c ≤ r.2) != negated

/-- Matches a body `least` times, and then up to `more` times. -/
def bounded (body : Point → (Point → Option Point) → Option Point) (greedy : Bool) :
    Nat → Nat → Point → (Point → Option Point) → Option Point
  | least + 1, more, p, k => body p fun q => bounded body greedy least more q k
  | 0, 0, p, k => k p
  | 0, more + 1, p, k =>
    let again (_ : Unit) := body p fun q => bounded body greedy 0 more q k
    if greedy then (again ()).orElse fun _ => k p else (k p).orElse again

/-- Matches a body at least `least` times, and then as often as it gets further.  A body
that matches nothing ends the repetition. -/
def unbounded (body : Point → (Point → Option Point) → Option Point) (greedy : Bool) :
    Nat → Nat → Point → (Point → Option Point) → Option Point
  | least + 1, room, p, k => body p fun q => unbounded body greedy least room q k
  | 0, 0, p, k => k p
  | 0, room + 1, p, k =>
    let again (_ : Unit) := body p fun q =>
      if q.position = p.position then k q else unbounded body greedy 0 room q k
    if greedy then (again ()).orElse fun _ => k p else (k p).orElse again

mutual

/-- Matches an expression at a place and goes on with what follows. -/
def matchAt : Regex → Point → (Point → Option Point) → Option Point
  | empty, p, k => k p
  | oneOf negated ranges, p, k =>
    match p.rest with
    | [] => none
    | c :: rest =>
      if inSet negated ranges c then
        k { p with before := some c, rest := rest, position := p.position + 1 }
      else none
  | anchor a, p, k => if a.holds p then k p else none
  | group index body, p, k =>
    matchAt body p fun q =>
      k { q with spans := (index, p.position, q.position) :: q.spans.filter (·.1 ≠ index) }
  | repetition least most greedy body, p, k =>
    match most with
    | some m => bounded (matchAt body) greedy least (m - least) p k
    | none => unbounded (matchAt body) greedy least (p.rest.length + 1) p k
  | sequence parts, p, k => matchAll parts p k
  | choice branches, p, k => matchAny branches p k

def matchAll : List Regex → Point → (Point → Option Point) → Option Point
  | [], p, k => k p
  | r :: rest, p, k => matchAt r p fun q => matchAll rest q k

def matchAny : List Regex → Point → (Point → Option Point) → Option Point
  | [], _, _ => none
  | r :: rest, p, k =>
    match matchAt r p k with
    | some q => some q
    | none => matchAny rest p k

end

/-- The first match at or after a place. -/
def search (r : Regex) : Option Char → List Char → Nat → Option Match
  | before, [], position => atPlace r before [] position
  | before, c :: rest, position =>
    match atPlace r before (c :: rest) position with
    | some m => some m
    | none => search r (some c) rest (position + 1)
where
  /-- The match at a place. -/
  atPlace (r : Regex) (before : Option Char) (rest : List Char) (position : Nat) :
      Option Match :=
    (matchAt r ⟨before, rest, position, []⟩ some).map fun q => ⟨position, q.position, q.spans⟩

/-- All matches, none of them inside another.  An empty match does not stand at the end of
the match before it. -/
def allMatches (r : Regex) (text : List Char) : List Match :=
  go (2 * text.length + 2) none text 0 none
where
  /-- The matches from a place on, with the end of the last one. -/
  go : Nat → Option Char → List Char → Nat → Option Nat → List Match
    | 0, _, _, _, _ => []
    | fuel + 1, before, rest, position, last =>
      match search r before rest position with
      | none => []
      | some m =>
        let step := m.stop - position
        let before' := if step = 0 then before else (rest.take step).getLast?
        let rest' := rest.drop step
        if m.start = m.stop ∧ last = some m.stop then
          match rest' with
          | [] => []
          | c :: rest'' => go fuel (some c) rest'' (m.stop + 1) last
        else m :: go fuel before' rest' m.stop (some m.stop)

end Assay.Regex

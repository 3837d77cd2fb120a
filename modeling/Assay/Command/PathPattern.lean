import Assay.Command.FileTree
import Assay.Decimal.Digits

/-!
# Path patterns

Patterns of paths with wildcards: a question mark stands for one character, a star for any
number of them, brackets for one of a set, and two stars for any number of directories.  The
paths that match a pattern come in the order of their names, directory by directory.  A
directory that cannot be read is a fault, unlike one that is not there.
-/

namespace Assay

/-- A part of a pattern. -/
inductive PathToken where
  | char (c : Char)
  | any
  /-- A character in one of the ranges, or in none of them. -/
  | oneOf (negated : Bool) (ranges : List (Char × Char))
  | star
  /-- Any number of directories. -/
  | directories
deriving DecidableEq

/-- What is wrong with a pattern, and near which of its characters. -/
structure PatternFault where
  position : Nat
  reason : String
deriving DecidableEq

/-- Why the paths that match a pattern are not found. -/
inductive ExpansionFault where
  | malformed (fault : PatternFault)
  /-- A directory that may hold some of the paths cannot be read. -/
  | unreadable (path : String) (fault : ReadFault)
deriving DecidableEq

namespace PathPattern

/-- The wording of a fault of a pattern. -/
def message (text : String) : ExpansionFault → String
  | .malformed f =>
    "bad glob pattern: " ++ text ++ ": Pattern syntax error near position "
      ++ String.ofList (Decimal.digits f.position) ++ ": " ++ f.reason
  | .unreadable path fault =>
    "attempting to read \x60" ++ path ++ "\x60 resulted in an error: " ++ fault.message

def wildcards : String := "wildcards are either regular \x60*\x60 or recursive \x60**\x60"

def recursiveWildcards : String := "recursive wildcards must form a single path component"

def invalidRange : String := "invalid range pattern"

/-- The ranges in brackets. -/
def ranges : List Char → List (Char × Char)
  | a :: '-' :: b :: rest => (a, b) :: ranges rest
  | c :: rest => (c, c) :: ranges rest
  | [] => []

/-- The content of brackets, and what comes after them.  The first character may be a
closing bracket. -/
def bracketed : List Char → Option (List Char × List Char)
  | [] => none
  | first :: rest =>
    match rest.span (· ≠ ']') with
    | (_, []) => none
    | (inner, _ :: after) => some (first :: inner, after)

/-- The tokens of a pattern.  The fuel is its length, `position` is how far it was read, and
`before` is the character in front. -/
def tokens : Nat → Nat → Option Char → List Char → Except PatternFault (List PathToken)
  | 0, _, _, _ => .ok []
  | _, _, _, [] => .ok []
  | fuel + 1, position, before, c :: cs =>
    if c = '?' then do return .any :: (← tokens fuel (position + 1) (some c) cs)
    else if c = '*' then
      let stars := (c :: cs).takeWhile (· = '*')
      let rest := (c :: cs).dropWhile (· = '*')
      let next := position + stars.length
      if 2 < stars.length then .error ⟨position + 2, wildcards⟩
      else if stars.length = 2 then
        if before.isSome ∧ before ≠ some '/' then .error ⟨position - 1, recursiveWildcards⟩
        else match rest with
          | [] => .ok [.directories]
          | '/' :: rest => do
            return .directories :: (← tokens fuel (next + 1) (some '/') rest)
          | _ => .error ⟨next, recursiveWildcards⟩
      else do return .star :: (← tokens fuel next (some c) rest)
    else if c = '[' then
      let (negated, inside) := match cs with
        | '!' :: ds => (true, ds)
        | ds => (false, ds)
      match bracketed inside with
      | none => .error ⟨position, invalidRange⟩
      | some (inner, after) => do
        let length := inner.length + (if negated then 3 else 2)
        return .oneOf negated (ranges inner) :: (← tokens fuel (position + length) (some ']') after)
    else do return .char c :: (← tokens fuel (position + 1) (some c) cs)

/-- The tokens of a text. -/
def parse (cs : List Char) : Except PatternFault (List PathToken) := tokens cs.length 0 none cs

/-- Whether a star, or two, match some of a text so that the tokens after them match the
rest. -/
def matchesRest (goOn : List Char → Bool) : List Char → Bool
  | [] => goOn []
  | c :: cs => goOn (c :: cs) || matchesRest goOn cs

/-- Whether tokens match a name. -/
def matchesName : List PathToken → List Char → Bool
  | [], cs => cs.isEmpty
  | .star :: ts, cs | .directories :: ts, cs => matchesRest (matchesName ts) cs
  | _ :: _, [] => false
  | .any :: ts, _ :: cs => matchesName ts cs
  | .char d :: ts, c :: cs => c = d && matchesName ts cs
  | .oneOf negated rs :: ts, c :: cs =>
    ((rs.any fun r => r.1 ≤ c && c ≤ r.2) != negated) && matchesName ts cs

/-- The name that tokens spell, if they have no wildcards. -/
def literal? : List PathToken → Option (List Char)
  | [] => some []
  | .char c :: ts => (literal? ts).map (c :: ·)
  | _ :: _ => none

/-- Whether a pattern of a name stands for any number of directories. -/
def isRecursive (ts : List PathToken) : Bool := ts.contains .directories

/-- Whether a path is the directory in which the program runs. -/
def isHere (path : String) : Bool :=
  path.startsWith "." && (path.toList.splitOn '/').all fun p => p = [] || p = ['.']

/-- The path of a name in a directory. -/
def join (path name : String) : String :=
  if name.startsWith "/" then name
  else if path.isEmpty ∨ path.endsWith "/" then path ++ name
  else path ++ "/" ++ name

/-- The path of a name in a directory, without the directory in which the program runs. -/
def child (path name : String) : String := if isHere path then name else join path name

/-- The last name of a path, if it has one that is not special. -/
def fileName? (path : String) : Option (List Char) :=
  match ((path.toList.splitOn '/').filter fun p => p ≠ [] ∧ p ≠ ['.']).getLast? with
  | none => none
  | some p => if p = ['.', '.'] then none else some p

/-- Names in order. -/
def sortNames (names : List String) : List String := names.mergeSort fun a b => !(b < a)

/-- Drops all but the last of the patterns in front that stand for directories. -/
def collapse : List (List PathToken) → List (List PathToken)
  | p :: q :: rest => if isRecursive p ∧ isRecursive q then collapse (q :: rest) else p :: q :: rest
  | ps => ps

/-- The special names that a pattern matches.  It must spell their first dot. -/
def specialNames (ts : List PathToken) : List String :=
  if ts.head? = some (.char '.') then
    ["..", "."].filter fun s => matchesName ts s.toList
  else []

variable {m : Type → Type} [Monad m] (files : Files m)

/-- Whether there is a directory at a path. -/
def isDirectory (path : String) : ExceptT ExpansionFault m Bool := do
  return (← files.names path).isSome

/-- A path, if it may be a result. -/
def result (onlyDirectories : Bool) (path : String) : ExceptT ExpansionFault m (List String) := do
  if onlyDirectories then
    if ← isDirectory files path then return [path] else return []
  else return [path]

mutual

/-- The paths under a directory that match patterns of names.  The fuel bounds the nesting
of directories and patterns. -/
def within (onlyDirectories : Bool) :
    Nat → List (List PathToken) → String → ExceptT ExpansionFault m (List String)
  | 0, _, _ => return []
  | _ + 1, [], path => result files onlyDirectories path
  | fuel + 1, p :: rest, path => do
    match literal? p with
    | some name =>
      let name := String.ofList name
      let next := child path name
      let there ←
        if name = "." ∨ name = ".." then isDirectory files path else files.present next
      if there then within onlyDirectories fuel rest next else return []
    | none =>
      match ← files.names path with
      | none => return []
      | some (.error fault) => throw (.unreadable path fault)
      | some (.ok names) =>
        let special ← (specialNames p).flatMapM fun s =>
          within onlyDirectories fuel rest (join path s)
        let regular ← (sortNames names).flatMapM fun n =>
          visit onlyDirectories fuel (p :: rest) (child path n)
        return special ++ regular

/-- The results at and under a path, of which the last name is still to be matched. -/
def visit (onlyDirectories : Bool) :
    Nat → List (List PathToken) → String → ExceptT ExpansionFault m (List String)
  | 0, _, _ => return []
  | fuel + 1, ps, path => do
    match collapse ps with
    | [] => return []
    | p :: rest =>
      if isRecursive p then
        let directory ← isDirectory files path
        let own ← match rest with
          | [] => pure (if directory then [path] else [])
          | q :: rest => named onlyDirectories fuel q rest path
        let inner ← if directory then within onlyDirectories fuel (p :: rest) path else pure []
        return own ++ inner
      else named onlyDirectories fuel p rest path

/-- The results at and under a path if its last name matches a pattern. -/
def named (onlyDirectories : Bool) :
    Nat → List PathToken → List (List PathToken) → String → ExceptT ExpansionFault m (List String)
  | 0, _, _, _ => return []
  | fuel + 1, p, rest, path => do
    match fileName? path with
    | none => return []
    | some name =>
      if matchesName p name then
        match rest with
        | [] => result files onlyDirectories path
        | _ :: _ => within onlyDirectories fuel rest path
      else return []

end

/-- The names that a pattern is made of, and the directory that it starts from. -/
def components (cs : List Char) : String × List (List Char) :=
  match cs with
  | '/' :: rest => ("/", names (rest.dropWhile (· = '/')))
  | cs => (".", names cs)
where
  names (cs : List Char) : List (List Char) :=
    let pieces := cs.splitOn '/'
    if pieces.getLast? = some [] then pieces.dropLast else pieces

/-- The number of bytes that no path has which the system follows. -/
def pathLimit : Nat := 4096

/-- The paths that match a pattern. -/
def expand (pattern : String) : ExceptT ExpansionFault m (List String) := do
  let cs := pattern.toList
  match parse cs with
  | .error f => throw (.malformed f)
  | .ok _ =>
    let (start, names) := components cs
    match names.mapM parse with
    | .error f => throw (.malformed f)
    | .ok [] => return []
    -- Each name of a path takes three steps at most, and so does each name of the pattern.
    | .ok ps =>
      within files (cs.getLast? = some '/') (3 * (pathLimit + pattern.length)) ps start

end PathPattern

end Assay

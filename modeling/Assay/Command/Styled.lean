/-!
# Styled text

Text of which parts stand out on a terminal that shows colours.
-/

namespace Assay

/-- How a part of a text looks. -/
inductive Look where
  | plain
  | bold
  | heading
  | dimmed
  | red
  | green
  | yellow
  | alarm
deriving DecidableEq

/-- The codes that turn a look on. -/
def Look.codes : Look → List String
  | plain => []
  | bold => ["1"]
  | heading => ["1", "4"]
  | dimmed => ["2"]
  | red => ["31"]
  | green => ["32"]
  | yellow => ["33"]
  | alarm => ["1", "31"]

/-- A part of a text and how it looks. -/
structure Span where
  look : Look
  text : String

/-- A text with parts that look different. -/
abbrev Styled := List Span

namespace Styled

/-- A text that looks as told. -/
def of (look : Look) (text : String) : Styled := [⟨look, text⟩]

/-- A text that looks like any other. -/
def plain (text : String) : Styled := of .plain text

/-- The code of a terminal for a way to look. -/
def code (n : String) : String := "\x1b[" ++ n ++ "m"

/-- A text in which `codes` follow every code that turns a look off. -/
def reapply (codes : List Char) : List Char → List Char
  | '\x1b' :: '[' :: '0' :: 'm' :: rest =>
    ['\x1b', '[', '0', 'm'] ++ codes ++ reapply codes rest
  | c :: rest => c :: reapply codes rest
  | [] => []

/-- A part as a terminal is sent it.  A text that turns its look off gets it back. -/
def renderSpan (colour : Bool) (s : Span) : String :=
  if colour ∧ s.look ≠ .plain then
    let codes := String.join (s.look.codes.map code)
    codes ++ String.ofList (reapply codes.toList s.text.toList) ++ code "0"
  else s.text

/-- A text as a terminal is sent it, with or without colours. -/
def render (colour : Bool) (t : Styled) : String := .join (t.map (renderSpan colour))

end Styled

end Assay

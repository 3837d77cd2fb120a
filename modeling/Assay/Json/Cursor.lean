import Assay.Json.Fault

/-!
# Cursors

What a reader knows of its text: the units not yet read and the place of the first of
them.  The units are characters, or bytes of UTF-8.  A reader looks at a unit through its
`glyph`; a byte outside ASCII looks like some character outside ASCII, which stands for
nothing in the syntax.  Places count bytes in both cases.
-/

namespace Assay.Json

/-- The units of a text that can be read. -/
class Source (α : Type) where
  /-- The character that a unit looks like. -/
  glyph : α → Char
  /-- The number of bytes of a unit. -/
  width : α → Nat
  /-- The characters of a string, from its units and the characters it escapes. -/
  decode : List (α ⊕ Char) → Option (List Char)

export Source (glyph)

/-- The characters of a text are its units. -/
instance : Source Char where
  glyph c := c
  width c := c.utf8Size
  decode pieces := some (pieces.map (Sum.elim id id))

/-- The bytes of one piece of a string. -/
def pieceBytes : UInt8 ⊕ Char → List UInt8
  | .inl b => [b]
  | .inr c => String.utf8EncodeChar c

/-- The bytes of a text are its units.  A string of them has to be UTF-8. -/
instance : Source UInt8 where
  glyph b := Char.ofNat b.toNat
  width _ := 1
  decode pieces := (ByteArray.mk (pieces.flatMap pieceBytes).toArray).utf8Decode?.map Array.toList

/-- The place after a unit of a width that looks like `c`. -/
def Place.after (p : Place) (c : Char) (width : Nat) : Place :=
  if c = '\n' then ⟨p.line + 1, 0⟩ else ⟨p.line, p.column + width⟩

/-- What is left of a text, and where it starts. -/
structure Cursor (α : Type) where
  rest : List α
  place : Place

/-- The start of a text. -/
def Cursor.start {α : Type} (text : List α) : Cursor α := ⟨text, ⟨1, 0⟩⟩

/-- Reading with a cursor, which may fail. -/
abbrev Reader (α : Type) := StateT (Cursor α) (Except Fault)

namespace Reader

variable {α β : Type} [Source α]

/-- Fails at a place. -/
def failAt (place : Place) (cause : Cause) : Reader α β :=
  throw ⟨cause, some place, []⟩

/-- Fails at the place before the next unit. -/
def fail (cause : Cause) : Reader α β := do
  failAt (← get).place cause

/-- Fails at the place after the first byte of the next unit. -/
def failNext (cause : Cause) : Reader α β := do
  let c ← get
  match c.rest with
  | [] => failAt c.place cause
  | u :: _ => failAt (c.place.after (glyph u) 1) cause

/-- What the next unit looks like. -/
def peek : Reader α (Option Char) := do
  return (← get).rest.head?.map glyph

/-- Steps over the next unit. -/
def skip : Reader α Unit :=
  modify fun c =>
    match c.rest with
    | [] => c
    | u :: rest => ⟨rest, c.place.after (glyph u) (Source.width u)⟩

/-- Whether a character is white space between the parts of a JSON text. -/
def isSpace (c : Char) : Bool := c = ' ' || c = '\n' || c = '\t' || c = '\r'

/-- The cursor after the white space in front of it. -/
def skipSpace : List α → Place → Cursor α
  | [], p => ⟨[], p⟩
  | u :: rest, p =>
    if isSpace (glyph u) then skipSpace rest (p.after (glyph u) (Source.width u))
    else ⟨u :: rest, p⟩

/-- Steps over white space and tells what the unit after it looks like. -/
def next : Reader α (Option Char) := do
  modify fun c => skipSpace c.rest c.place
  peek

/-- Reads a part one step further in: the path of its fault starts with that step. -/
def within (step : Step) (r : Reader α β) : Reader α β := fun c =>
  match r c with
  | .ok x => .ok x
  | .error f => .error { f with path := step :: f.path }

/-- The place after `n` more bytes, if the text has them. -/
def placeAfter : Nat → List α → Place → Option Place
  | 0, _, p => some p
  | _ + 1, [], _ => none
  | n + 1, u :: rest, p =>
    if Source.width u ≤ n + 1 then
      placeAfter (n + 1 - Source.width u) rest (p.after (glyph u) (Source.width u))
    else some (p.after (glyph u) (n + 1))
termination_by _ us => us.length

/-- The place at the end of a text. -/
def endPlace (us : List α) (p : Place) : Place :=
  us.foldl (fun p u => p.after (glyph u) (Source.width u)) p

end Reader

end Assay.Json

import Assay.Filter.Token

/-!
# Filter terms

The terms of the filter language.  A term takes a value to a list of values.
-/

namespace Assay.Filter

/-- An operator on numbers and on what else it is defined on. -/
inductive Arithmetic where
  | add
  | sub
  | mul
  | div
  | rem
deriving DecidableEq

/-- The sign of an operator. -/
def Arithmetic.sign : Arithmetic → String
  | add => "+"
  | sub => "-"
  | mul => "*"
  | div => "/"
  | rem => "%"

/-- A comparison of values. -/
inductive Comparison where
  | lt
  | le
  | gt
  | ge
  | eq
  | ne
deriving DecidableEq

/-- An operator between two terms. -/
inductive Operator where
  /-- The results of both. -/
  | comma
  /-- The results of the first that count as true, or else those of the second. -/
  | alternative
  | or
  | and
  | arithmetic (op : Arithmetic)
  | comparison (op : Comparison)
  | assign
  | update
  | updateArithmetic (op : Arithmetic)
  | updateAlternative

/-- A pattern that takes a value apart and names its parts. -/
inductive Pattern (τ : Type) where
  | var (name : String)
  | array (items : List (Pattern τ))
  | object (entries : List (τ × Pattern τ))

/-- A step of a path: an index, a range, or all elements. -/
inductive PathPart (τ : Type) where
  | index (i : τ)
  | range (start : Option τ) (stop : Option τ)

/-- A definition of a filter with parameters.  A parameter that starts with a dollar sign
is a value, another one a filter. -/
structure Definition (τ : Type) where
  name : String
  params : List String
  body : τ

/-- A term of the filter language. -/
inductive Term where
  | identity
  | recurse
  | number (text : String)
  | string (format : Option String) (parts : List (Part Term))
  | array (body : Option Term)
  | object (entries : List (Term × Option Term))
  | negate (body : Term)
  | pipe (left right : Term)
  | bind (left : Term) (pattern : Pattern Term) (right : Term)
  | binary (left : Term) (op : Operator) (right : Term)
  | label (name : String) (body : Term)
  | leave (name : String)
  | fold (name : String) (source : Term) (pattern : Pattern Term) (args : List Term)
  | attempt (body : Term) (handler : Option Term)
  | choose (cases : List (Term × Term)) (otherwise : Option Term)
  | define (definition : Definition Term) (body : Term)
  | call (name : String) (args : List Term)
  | var (name : String)
  /-- A head followed by steps; a step with a mark drops its errors. -/
  | path (head : Term) (parts : List (PathPart Term × Bool))
deriving Inhabited

namespace Term

/-- A string without interpolations. -/
def text (s : String) : Term := string none (if s.isEmpty then [] else [.text s])

end Term

/-- How strongly an operator binds. -/
def Operator.precedence : Operator → Nat
  | comma => 0
  | assign | update | updateArithmetic _ | updateAlternative => 1
  | alternative => 2
  | or => 3
  | and => 4
  | comparison .eq | comparison .ne => 5
  | comparison _ => 6
  | arithmetic .add | arithmetic .sub => 7
  | arithmetic .mul | arithmetic .div => 8
  | arithmetic .rem => 9

/-- Whether a chain of an operator is grouped from the right. -/
def Operator.rightAssociative : Operator → Bool
  | assign | update | updateArithmetic _ | updateAlternative | alternative => true
  | _ => false

/-- The operator of a symbol or word. -/
def Operator.ofText? (withComma : Bool) : String → Option Operator
  | "," => if withComma then some comma else none
  | "//" => some alternative
  | "or" => some or
  | "and" => some and
  | "+" => some (arithmetic .add)
  | "-" => some (arithmetic .sub)
  | "*" => some (arithmetic .mul)
  | "/" => some (arithmetic .div)
  | "%" => some (arithmetic .rem)
  | "<" => some (comparison .lt)
  | "<=" => some (comparison .le)
  | ">" => some (comparison .gt)
  | ">=" => some (comparison .ge)
  | "==" => some (comparison .eq)
  | "!=" => some (comparison .ne)
  | "=" => some assign
  | "|=" => some update
  | "+=" => some (updateArithmetic .add)
  | "-=" => some (updateArithmetic .sub)
  | "*=" => some (updateArithmetic .mul)
  | "/=" => some (updateArithmetic .div)
  | "%=" => some (updateArithmetic .rem)
  | "//=" => some updateAlternative
  | _ => none

end Assay.Filter

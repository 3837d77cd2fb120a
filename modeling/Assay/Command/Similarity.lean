/-!
# Similarity of words

How alike two words are: the share of characters that they have in common at about the same
place, less half the number of those that are in another order.
-/

namespace Assay.Similarity

/-- Whether a character stands at one of the places from `low` up to below `high` that are
not taken, and the places with it marked as taken. -/
def takePlace (c : Char) (low high : Nat) : Nat → List (Char × Bool) →
    Option (List (Char × Bool))
  | _, [] => none
  | j, (d, taken) :: rest =>
    if high ≤ j then none
    else if low ≤ j ∧ c = d ∧ ¬ taken then some ((d, true) :: rest)
    else (takePlace c low high (j + 1) rest).map ((d, taken) :: ·)

/-- The characters of a word that are found in another, with those of the other that are
taken. -/
def common (reach : Nat) :
    Nat → List Char → List (Char × Bool) → List Char × List (Char × Bool)
  | _, [], places => ([], places)
  | i, c :: cs, places =>
    match takePlace c (i - reach) (i + reach + 1) 0 places with
    | some places =>
      let (found, places) := common reach (i + 1) cs places
      (c :: found, places)
    | none => common reach (i + 1) cs places

/-- How alike two words are, as a quotient. -/
def score (a b : List Char) : Nat × Nat :=
  let reach := max a.length b.length / 2 - 1
  let (found, places) := common reach 0 a (b.map (·, false))
  let others := (places.filter Prod.snd).map Prod.fst
  let m := found.length
  if m = 0 then (if a.isEmpty ∧ b.isEmpty then 1 else 0, 1)
  else
    let moved := ((found.zip others).filter fun p => p.1 ≠ p.2).length / 2
    (m * m * b.length + m * m * a.length + (m - moved) * a.length * b.length,
      3 * a.length * b.length * m)

/-- Puts a word into a list by its score, after those that are not more alike. -/
def insert (x : String × Nat × Nat) :
    List (String × Nat × Nat) → List (String × Nat × Nat)
  | [] => [x]
  | y :: rest =>
    if y.2.1 * x.2.2 > x.2.1 * y.2.2 then x :: y :: rest else y :: insert x rest

/-- The words that are more than 70 percent like a word, the most similar one last. -/
def similar (word : String) (words : List String) : List String :=
  let scored := words.map fun w => (w, score word.toList w.toList)
  let close := scored.filter fun x => 10 * x.2.1 > 7 * x.2.2
  (close.foldl (fun acc x => insert x acc) []).map Prod.fst

end Assay.Similarity

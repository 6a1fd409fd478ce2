/-!
# Similar words

Two words are similar if enough of their characters match: each character of the
first is paired with the first equal character of the second that is near and free.
The measure is the mean of three shares: the paired characters among those of either
word, and the pairs that are in order among all pairs.
-/

set_option autoImplicit false

namespace QueryBridge.Text.Similarity

/-- How far apart the places of a pair may be, for the lengths of the words. -/
def reach (a b : Nat) : Nat :=
  max a b / 2 - 1

/-- The second word with the partner of a character taken: the first equal character that is free
and stands from `low` on and before `high`. -/
def pair? (c : Char) (low high : Nat) : Nat → List (Char × Bool) → Option (List (Char × Bool))
  | _, [] => none
  | place, (d, taken) :: rest =>
    if low ≤ place && place < high && c = d && !taken then some ((d, true) :: rest)
    else (pair? c low high (place + 1) rest).map ((d, taken) :: ·)

/-- The characters of the first word that find a partner, and the second word with the partners
taken. -/
def pairAll (span : Nat) : Nat → List Char → List (Char × Bool) → List Char × List (Char × Bool)
  | _, [], second => ([], second)
  | place, c :: rest, second =>
    match pair? c (place - span) (place + span + 1) 0 second with
    | some after =>
      let (paired, last) := pairAll span (place + 1) rest after
      (c :: paired, last)
    | none => pairAll span (place + 1) rest second

/-- The number of pairs of two words, and how many of them are out of order. -/
def pairs (a b : List Char) : Nat × Nat :=
  let (paired, second) := pairAll (reach a.length b.length) 0 a (b.map fun c => (c, false))
  let partners := (second.filter (·.2)).map (·.1)
  (paired.length, (paired.zip partners).countP (fun (c, d) => c ≠ d) / 2)

/-- Whether the measure of two words is above seven tenths. -/
def isClose (a b : List Char) : Bool :=
  let (m, crossed) := pairs a b
  let (x, y) := (a.length, b.length)
  21 * (x * y * m) < 10 * (m * m * y + m * m * x + (m - crossed) * (x * y))

end QueryBridge.Text.Similarity

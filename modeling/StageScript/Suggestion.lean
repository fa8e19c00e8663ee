/-!
# Suggestions for a mistyped name

The distance of two names is the least number of insertions, deletions, replacements and swaps of
neighbours that lead from one to the other, where swapped letters may be edited further. The known
name with the least distance for its length is suggested, if it is close enough.
-/

namespace StageScript.Suggestion

/-- The entry of a table of distances; zero outside. -/
def entry (rows : Array (Array Nat)) (i j : Nat) : Nat := (rows.getD i #[]).getD j 0

/-- The last of the first `count` places, counted from one, at which `c` stands; zero if there is
none. -/
def lastPlace (word : Array Char) (c : Char) (count : Nat) : Nat :=
  (List.range count).foldl (fun found i => if word[i]? = some c then i + 1 else found) 0

/-- The distance of the first `i` letters of `a` and the first `j` letters of `b`, both at least
one, given the rows above and the row so far. The swap is between the last letter of either word
and its last place in the other. -/
def distanceAt (a b : Array Char) (rows : Array (Array Nat)) (row : Array Nat) (i j : Nat) : Nat :=
  let x := a.getD (i - 1) ' '
  let y := b.getD (j - 1) ' '
  let replaced := entry rows (i - 1) (j - 1) + (if x = y then 0 else 1)
  let inserted := row.getD (j - 1) 0 + 1
  let deleted := entry rows (i - 1) j + 1
  let best := min replaced (min inserted deleted)
  let k := lastPlace a y (i - 1)
  let l := lastPlace b x (j - 1)
  if k = 0 || l = 0 then best
  else min best (entry rows (k - 1) (l - 1) + (i - k - 1) + 1 + (j - l - 1))

/-- The row of distances of the first `i` letters of `a`. -/
def distanceRow (a b : Array Char) (rows : Array (Array Nat)) (i : Nat) : Array Nat :=
  (List.range b.size).foldl (fun row j => row.push (distanceAt a b rows row i (j + 1))) #[i]

/-- The number of edits between two names. -/
def distance (a b : String) : Nat :=
  let a := a.toList.toArray
  let b := b.toList.toArray
  let first := (List.range (b.size + 1)).toArray
  let rows := (List.range a.size).foldl
    (fun rows i => rows.push (distanceRow a b rows (i + 1))) #[first]
  entry rows a.size b.size

/-- A known name with its distance to the unknown one and the length of the longer of the two. -/
structure Candidate where
  name : String
  distance : Nat
  length : Nat

/-- The candidate of a known name. -/
def candidate (unknown known : String) : Candidate :=
  ⟨known, Suggestion.distance known unknown, max known.length unknown.length⟩

/-- Whether `a` is closer for its length than `b`. -/
def Candidate.closerThan (a b : Candidate) : Bool := a.distance * b.length < b.distance * a.length

/-- Whether less than three fifths of the letters differ. -/
def Candidate.closeEnough (c : Candidate) : Bool := 5 * c.distance < 3 * c.length

/-- The closer of the best so far and the next; the earlier wins a tie. -/
def better (best : Option Candidate) (next : Candidate) : Option Candidate :=
  match best with
  | none => some next
  | some b => if next.closerThan b then some next else some b

/-- The known name that was probably meant. -/
def closest? (unknown : String) (known : List String) : Option String :=
  match (known.map (candidate unknown)).foldl better none with
  | some best => if best.closeEnough then some best.name else none
  | none => none

end StageScript.Suggestion

/-
Module: TypedManifests.Diff.Stretch
Purpose: The equal stretches of two lists of lines.
Main exports: Stretch, frequentLines, longest, stretches, common
-/

/-!
What two lists of lines have in common: stretches of equal lines, found by taking the longest
stretch first and then looking on both sides of it. A line that is too frequent is no reason to
begin a stretch, but it may extend one.
-/

namespace TypedManifests.Diff

/-- `size` equal lines, from `left` on in the first list and from `right` on in the second. -/
structure Stretch where
  left : Nat
  right : Nat
  size : Nat
deriving DecidableEq, Repr

/-- A list of this length or more may have lines that are too frequent. -/
def manyLines : Nat := 200

/-- The lines of a long list that make up more than a hundredth of it. -/
def frequentLines (lines : List String) : List String :=
  if lines.length < manyLines then []
  else lines.eraseDups.filter fun line => lines.length / 100 + 1 < lines.count line

/-- For each line of the second list, how long the stretch is that ends there and at `line` of the
first; `before` tells the same for the line before that. -/
def endingAt (frequent : List String) (line : String) : List Nat → List String → List Nat
  | size :: before, other :: rest =>
    (if other = line ∧ other ∉ frequent then size + 1 else 0) :: endingAt frequent line before rest
  | _, _ => []

/-- The first of the longest stretches that end in one row, and whose last lines are `leftEnd` and,
from `rightEnd` on, those of the second list; or `best` if that is as long. -/
def bestInRow (leftEnd : Nat) (best : Stretch) : Nat → List Nat → Stretch
  | _, [] => best
  | rightEnd, size :: rest =>
    let best :=
      if best.size < size then ⟨leftEnd + 1 - size, rightEnd + 1 - size, size⟩ else best
    bestInRow leftEnd best (rightEnd + 1) rest

/-- The first of the longest stretches without frequent lines, from the row `leftEnd` on. -/
def longestFrom (frequent : List String) (right : List String) (best : Stretch) (leftEnd : Nat)
    (before : List Nat) : List String → Stretch
  | [] => best
  | line :: rest =>
    let row := endingAt frequent line (0 :: before) right
    longestFrom frequent right (bestInRow leftEnd best 0 row) (leftEnd + 1) row rest

/-- How many lines two lists begin with in common. -/
def sharedLength : List String → List String → Nat
  | a :: rest, b :: others => if a = b then sharedLength rest others + 1 else 0
  | _, _ => 0

/-- The longest stretch, drawn out at both ends as far as the lines are equal. -/
def longest (frequent : List String) (left right : List String) : Stretch :=
  let s := longestFrom frequent right ⟨0, 0, 0⟩ 0 (right.map fun _ => 0) left
  let before := sharedLength (left.take s.left).reverse (right.take s.right).reverse
  let after := sharedLength (left.drop (s.left + s.size)) (right.drop (s.right + s.size))
  ⟨s.left - before, s.right - before, before + s.size + after⟩

/-- All stretches in their order; the lists begin at the lines `leftStart` and `rightStart`. -/
def stretches (frequent : List String) (leftStart rightStart : Nat) (left right : List String) :
    List Stretch :=
  match longest frequent left right with
  | ⟨i, j, size⟩ =>
    if size = 0 ∨ left.length < i + size then []
    else
      stretches frequent leftStart rightStart (left.take i) (right.take j) ++
        ⟨leftStart + i, rightStart + j, size⟩ ::
          stretches frequent (leftStart + i + size) (rightStart + j + size)
            (left.drop (i + size)) (right.drop (j + size))
termination_by left.length
decreasing_by
  all_goals simp only [List.length_take, List.length_drop]
  all_goals omega

/-- Joins stretches that follow each other without a gap. -/
def joinAdjacent : List Stretch → List Stretch
  | [] => []
  | s :: rest =>
    match joinAdjacent rest with
    | [] => [s]
    | next :: more =>
      if s.left + s.size = next.left ∧ s.right + s.size = next.right then
        ⟨s.left, s.right, s.size + next.size⟩ :: more
      else s :: next :: more

/-- What two lists of lines have in common. -/
def common (left right : List String) : List Stretch :=
  joinAdjacent (stretches (frequentLines right) 0 0 left right)

end TypedManifests.Diff

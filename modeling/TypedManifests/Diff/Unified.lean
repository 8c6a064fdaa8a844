/-
Module: TypedManifests.Diff.Unified
Purpose: The difference of two lists of lines in unified form: groups of changes with a few lines
  around them.
Main exports: Span, Part, parts, groups, unified
-/
import TypedManifests.Diff.Stretch

namespace TypedManifests.Diff

/-- The lines from `start` as far as `stop`, which is not among them. -/
structure Span where
  start : Nat
  stop : Nat
deriving DecidableEq, Repr

namespace Span

def size (s : Span) : Nat := s.stop - s.start

/-- The lines of the span. -/
def of (lines : List String) (s : Span) : List String := (lines.drop s.start).take s.size

/-- The first `n` lines of the span. -/
def first (n : Nat) (s : Span) : Span := ⟨s.start, min s.stop (s.start + n)⟩

/-- The last `n` lines of the span. -/
def last (n : Nat) (s : Span) : Span := ⟨max s.start (s.stop - n), s.stop⟩

/-- The number of the first line and how many there are. Lines are counted from one, and of no lines
the line before them is named. -/
def describe (s : Span) : String :=
  if s.size = 1 then s!"{s.start + 1}"
  else if s.size = 0 then s!"{s.start},0"
  else s!"{s.start + 1},{s.size}"

end Span

/-- A part of both lists that is the same in both, or that is changed from one to the other. -/
structure Part where
  same : Bool
  left : Span
  right : Span
deriving DecidableEq, Repr

/-- The parts around and in stretches, from the given lines on. -/
def partsFrom (left right leftEnd rightEnd : Nat) : List Stretch → List Part
  | [] =>
    if left = leftEnd ∧ right = rightEnd then []
    else [⟨false, ⟨left, leftEnd⟩, ⟨right, rightEnd⟩⟩]
  | s :: rest =>
    (if left = s.left ∧ right = s.right then []
      else [⟨false, ⟨left, s.left⟩, ⟨right, s.right⟩⟩]) ++
    ⟨true, ⟨s.left, s.left + s.size⟩, ⟨s.right, s.right + s.size⟩⟩ ::
      partsFrom (s.left + s.size) (s.right + s.size) leftEnd rightEnd rest

/-- All parts of two lists. -/
def parts (left right : List String) : List Part :=
  partsFrom 0 0 left.length right.length (common left right)

/-- How many lines are shown around a change. -/
def contextSize : Nat := 3

def Part.first (n : Nat) (p : Part) : Part :=
  { p with left := p.left.first n, right := p.right.first n }
def Part.last (n : Nat) (p : Part) : Part :=
  { p with left := p.left.last n, right := p.right.last n }

/-- Shortens a part at the beginning of all that is the same in both. -/
def trimFirst : List Part → List Part
  | p :: rest => (if p.same then p.last contextSize else p) :: rest
  | [] => []

/-- Shortens a part at the end of all that is the same in both. -/
def trimLast : List Part → List Part
  | [] => []
  | [p] => [if p.same then p.first contextSize else p]
  | p :: rest => p :: trimLast rest

/-- Cuts the parts in groups, in the middle of long parts that are the same; `group` are the parts
of the group so far, the last one first. -/
def groupsFrom (group : List Part) : List Part → List (List Part)
  | [] => [group.reverse]
  | p :: rest =>
    if p.same ∧ 2 * contextSize < p.left.size then
      (p.first contextSize :: group).reverse :: groupsFrom [p.last contextSize] rest
    else groupsFrom (p :: group) rest

/-- The groups in which something is changed. -/
def groups (left right : List String) : List (List Part) :=
  (groupsFrom [] (trimLast (trimFirst (parts left right)))).filter fun group =>
    group.any fun p => !p.same

/-- The lines of a part: those of both lists, or those that go and then those that come. -/
def Part.lines (left right : List String) (p : Part) : List String :=
  if p.same then (p.left.of left).map (" " ++ ·)
  else (p.left.of left).map ("-" ++ ·) ++ (p.right.of right).map ("+" ++ ·)

/-- The lines of a group, after one that tells where they stand. -/
def groupLines (left right : List String) (group : List Part) : List String :=
  match group.head?, group.getLast? with
  | some first, some last =>
    let leftSpan : Span := ⟨first.left.start, last.left.stop⟩
    let rightSpan : Span := ⟨first.right.start, last.right.stop⟩
    ("@@ -" ++ leftSpan.describe ++ " +" ++ rightSpan.describe ++ " @@") ::
      group.flatMap (Part.lines left right)
  | _, _ => []

/-- The difference in unified form, under the names of both lists. There are no lines if there is no
difference. -/
def unified (leftName rightName : String) (left right : List String) : List String :=
  match groups left right with
  | [] => []
  | found => ("--- " ++ leftName) :: ("+++ " ++ rightName) :: found.flatMap (groupLines left right)

end TypedManifests.Diff

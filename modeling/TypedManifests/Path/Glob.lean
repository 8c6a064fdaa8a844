/-
Module: TypedManifests.Path.Glob
Purpose: Glob patterns for paths. A pattern is tried segment by segment, from the right: a relative
  pattern against the last segments of a path, an absolute one against all of them. In a segment `*`
  stands for any text, `?` for any character, and brackets for a set of characters, or with `!` for
  those outside it.
Main exports: CharSet, Item, items, segmentMatches, PatternError, pathMatches, isIgnored
-/
import TypedManifests.Path.Basic

namespace TypedManifests.Path.Glob

open TypedManifests.Text

/-- The characters in brackets: pieces of literal characters, with a range from the last character
of each piece to the first one of the next. -/
structure CharSet where
  negated : Bool
  pieces : List (List Char)
deriving DecidableEq, Repr

inductive Item where
  | char (c : Char)
  | anyChar
  | anyText
  | set (s : CharSet)
deriving DecidableEq, Repr

/-- Cuts the text in brackets at the hyphens that make ranges. A hyphen makes one unless it is among
the first `skip` characters; after a range, it takes two more characters to the next one. -/
def pieces (skip : Nat) (text : List Char) : List (List Char) :=
  let before := text.take skip ++ (text.drop skip).takeWhile (· ≠ '-')
  match _h : (text.drop skip).dropWhile (· ≠ '-') with
  | [] => [text]
  | _ :: rest => before :: pieces 2 rest
termination_by text.length
decreasing_by
  have h₁ :=
    (List.dropWhile_sublist (fun c : Char => decide (c ≠ '-')) (l := text.drop skip)).length_le
  rw [_h] at h₁
  simp only [List.length_cons, List.length_drop] at h₁
  omega

/-- A hyphen at the end, with no character after it, is literal. -/
def joinLastHyphen : List (List Char) → List (List Char)
  | [] => []
  | [piece] => [piece]
  | [piece, []] => [piece ++ ['-']]
  | piece :: rest => piece :: joinLastHyphen rest

/-- Takes out the ranges whose ends are in the wrong order, from the last range to the first. -/
def dropEmptyRanges : List (List Char) → List (List Char)
  | [] => []
  | piece :: rest =>
    match dropEmptyRanges rest with
    | [] => [piece]
    | next :: more =>
      match piece.getLast?, next with
      | some low, high :: after =>
        if high < low then (piece.dropLast ++ after) :: more else piece :: next :: more
      | _, _ => piece :: next :: more

/-- The set that the text in brackets denotes. -/
def CharSet.ofText (text : List Char) : CharSet :=
  let cut :=
    if '-' ∈ text then
      dropEmptyRanges (joinLastHyphen (Glob.pieces (if text.head? = some '!' then 2 else 1) text))
    else [text]
  match cut with
  | ('!' :: piece) :: rest => ⟨true, piece :: rest⟩
  | _ => ⟨false, cut⟩

/-- The character lies in a range between two pieces that follow each other. -/
def inGap (c : Char) : List (List Char) → Bool
  | piece :: next :: rest =>
    (match piece.getLast?, next.head? with
      | some low, some high => low ≤ c && c ≤ high
      | _, _ => false) || inGap c (next :: rest)
  | _ => false

def CharSet.contains (s : CharSet) (c : Char) : Bool :=
  (s.pieces.any (·.contains c) || inGap c s.pieces) ≠ s.negated

/-- The text in brackets and what follows them; a bracket that closes at once, or after `!`, is
part of the text. -/
def bracketText? (text : List Char) : Option (List Char × List Char) :=
  let sign := if text.head? = some '!' then 1 else 0
  let start := if (text.drop sign).head? = some ']' then sign + 1 else sign
  (splitFirst? ']' (text.drop start)).map fun (inside, after) => (text.take start ++ inside, after)

theorem bracketText?_length {text inside after : List Char}
    (h : bracketText? text = some (inside, after)) : after.length < text.length := by
  obtain ⟨⟨_, _⟩, hs, he⟩ := Option.map_eq_some_iff.1 h
  simp only [Prod.mk.injEq] at he
  have := congrArg List.length (splitFirst?_eq_some hs)
  simp only [List.length_drop, List.length_append, List.length_cons, he.2] at this
  omega

/-- The items of a pattern for one segment. -/
def items (pattern : List Char) : List Item :=
  match pattern with
  | [] => []
  | c :: rest =>
    if c = '*' then .anyText :: items rest
    else if c = '?' then .anyChar :: items rest
    else if c = '[' then
      match _h : bracketText? rest with
      | none => .char '[' :: items rest
      | some (inside, after) => .set (.ofText inside) :: items after
    else .char c :: items rest
termination_by pattern.length
decreasing_by
  all_goals simp only [List.length_cons]
  · omega
  · omega
  · omega
  · have := bracketText?_length _h
    omega
  · omega

/-- Some end of the text, the whole text included, has the property. -/
def anyTail (p : List Char → Bool) : List Char → Bool
  | [] => p []
  | c :: rest => p (c :: rest) || anyTail p rest

/-- The items match the whole text. -/
def itemsMatch : List Item → List Char → Bool
  | [], text => text.isEmpty
  | .char c :: rest, d :: text => c = d && itemsMatch rest text
  | .anyChar :: rest, _ :: text => itemsMatch rest text
  | .set s :: rest, d :: text => s.contains d && itemsMatch rest text
  | .anyText :: rest, text => anyTail (itemsMatch rest) text
  | _ :: _, [] => false

/-- One segment matches one segment of a pattern. -/
def segmentMatches (pattern segment : String) : Bool :=
  itemsMatch (items pattern.toList) segment.toList

/-- A pattern without a single segment matches nothing and is refused. -/
inductive PatternError where
  | empty
deriving DecidableEq, Repr

def PatternError.message : PatternError → String
  | .empty => "empty pattern"

/-- The path matches the pattern. -/
def pathMatches (pattern path : String) : Except PatternError Bool :=
  let wanted := parts pattern
  let given := parts path
  if wanted.isEmpty then .error .empty
  else if isAbsolute pattern then
    .ok (root pattern = root path && wanted.length = given.length &&
      (wanted.tail.zip given.tail).all fun (p, s) => segmentMatches p s)
  else
    .ok (wanted.length ≤ given.length &&
      (wanted.reverse.zip given.reverse).all fun (p, s) => segmentMatches p s)

/-- The pattern says to ignore the path. The empty path is never ignored. -/
def ignores (pattern path : String) : Except PatternError Bool :=
  if path = "" then .ok false else pathMatches pattern path

/-- Some pattern says to ignore the path; the patterns after it are not looked at. -/
def isIgnored (patterns : List String) (path : String) : Except PatternError Bool :=
  match patterns with
  | [] => .ok false
  | pattern :: rest =>
    match ignores pattern path with
    | .error e => .error e
    | .ok true => .ok true
    | .ok false => isIgnored rest path

end TypedManifests.Path.Glob

/-
Module: TypedManifests.Console.Markup
Purpose: The plain text of a text with style tags.
Main exports: MarkupError, tag?, close, plain
-/

/-!
Text with style tags in brackets. A tag begins with a lower-case letter or one of a few signs and
holds until a closing tag with its name; a closing tag without a name closes the latest one. A
backslash takes a tag its meaning.
-/

namespace TypedManifests.Markup

inductive MarkupError where
  /-- No open tag has the name of the closing tag at `position`. -/
  | unmatched (tag : String) (position : Nat)
  | nothingToClose (position : Nat)
deriving DecidableEq, Repr

def MarkupError.message : MarkupError → String
  | .unmatched tag position =>
    "closing tag '[" ++ tag ++ s!"]' at position {position} doesn't match any open tag"
  | .nothingToClose position => s!"closing tag '[/]' at position {position} has nothing to close"

/-- A character that a tag may begin with. -/
def startsTag (c : Char) : Bool := ('a' ≤ c && c ≤ 'z') || c = '#' || c = '/' || c = '@'

/-- A tag after its opening bracket: what is in it, and what follows it. -/
def tag? (text : List Char) : Option (List Char × List Char) :=
  let body := text.takeWhile fun c => c ≠ ']' && c ≠ '['
  match text.head?, text.drop body.length with
  | some c, ']' :: rest => if startsTag c then some (body, rest) else none
  | _, _ => none

/-- The name of a tag, which ends at an equals sign, as it is compared with others. -/
def tagName (body : List Char) : List Char :=
  let name := (body.takeWhile (· ≠ '=')).map Char.toLower
  ((name.dropWhile (· = ' ')).reverse.dropWhile (· = ' ')).reverse

/-- The open tags after a closing tag, the latest first. -/
def close (position : Nat) (body : List Char) (opened : List (List Char)) :
    Except MarkupError (List (List Char)) :=
  let name := tagName body.tail
  if name.isEmpty then
    match opened with
    | [] => .error (.nothingToClose position)
    | _ :: rest => .ok rest
  else if opened.contains name then .ok (opened.erase name)
  else .error (.unmatched (String.ofList body) position)

/-- The text without its tags, from `position` on, where the given tags are open. -/
def plainFrom (position : Nat) (opened : List (List Char)) (text : List Char) :
    Except MarkupError (List Char) :=
  let slashes := (text.takeWhile (· = '\\')).length
  match _h : text.drop slashes with
  | '[' :: inside =>
    match tag? inside with
    | some (body, rest) =>
      let kept := List.replicate (slashes / 2) '\\'
      let after := position + slashes + body.length + 2
      if _hr : rest.length < text.length then
        if slashes % 2 = 1 then
          (plainFrom after opened rest).map fun more => kept ++ '[' :: body ++ ']' :: more
        else if body.head? = some '/' then
          match close (position + slashes) body opened with
          | .error e => .error e
          | .ok opened => (plainFrom after opened rest).map (kept ++ ·)
        else (plainFrom after (tagName body :: opened) rest).map (kept ++ ·)
      else .ok []
    | none =>
      -- a backslash before a bracket that begins no tag is left out
      (plainFrom (position + slashes + 1) opened inside).map fun more =>
        List.replicate (slashes - 1) '\\' ++ '[' :: more
  | c :: rest =>
    (plainFrom (position + slashes + 1) opened rest).map fun more =>
      List.replicate slashes '\\' ++ c :: more
  | [] => .ok (List.replicate slashes '\\')
termination_by text.length
decreasing_by
  all_goals first | exact _hr | skip
  all_goals
    have h₁ := congrArg List.length _h
    simp only [List.length_drop, List.length_cons] at h₁
    omega

/-- The text without its tags. -/
def plain (text : String) : Except MarkupError String :=
  (plainFrom 0 [] text.toList).map String.ofList

end TypedManifests.Markup

/-
Module: TypedManifests.Text.Position
Purpose: Places in a text: the offset counts characters from 0, line and column count from 1. A line
  feed ends its line.
Main exports: Position, Position.start, Position.next, Position.after, Position.after_append
-/

namespace TypedManifests.Text

structure Position where
  offset : Nat
  line : Nat
  column : Nat
deriving DecidableEq, Repr, Inhabited

namespace Position

/-- Before the first character. -/
def start : Position := ⟨0, 1, 1⟩

/-- The place after `c`, which stands at `p`. -/
def next (p : Position) (c : Char) : Position :=
  if c = '\n' then ⟨p.offset + 1, p.line + 1, 1⟩ else ⟨p.offset + 1, p.line, p.column + 1⟩

/-- The place after a text that begins at `p`. -/
def after (p : Position) (text : List Char) : Position :=
  text.foldl next p

@[simp] theorem after_nil (p : Position) : p.after [] = p := rfl

@[simp] theorem after_cons (p : Position) (c : Char) (text : List Char) :
    p.after (c :: text) = (p.next c).after text := rfl

theorem after_append (p : Position) (s t : List Char) :
    p.after (s ++ t) = (p.after s).after t := List.foldl_append

@[simp] theorem offset_next (p : Position) (c : Char) : (p.next c).offset = p.offset + 1 := by
  unfold next; split <;> rfl

/-- An offset counts the characters that were passed. -/
theorem offset_after (p : Position) (text : List Char) :
    (p.after text).offset = p.offset + text.length := by
  induction text generalizing p with
  | nil => rfl
  | cons c text ih => simp only [after_cons, ih, offset_next, List.length_cons]; omega

end Position

end TypedManifests.Text

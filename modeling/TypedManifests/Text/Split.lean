/-
Module: TypedManifests.Text.Split
Purpose: Cutting a text in two at the first or at the last place where a character stands, or at all
  of them.
Main exports: splitFirst?, splitFirst?_eq_some, splitLast?, splitAll
-/

namespace TypedManifests.Text

/-- What stands before and after the first `c`. -/
def splitFirst? (c : Char) : List Char → Option (List Char × List Char)
  | [] => none
  | d :: rest =>
    if d = c then some ([], rest)
    else (splitFirst? c rest).map fun (before, after) => (d :: before, after)

/-- The parts and the character between them make up the text. -/
theorem splitFirst?_eq_some {c : Char} {text before after : List Char}
    (h : splitFirst? c text = some (before, after)) : text = before ++ c :: after := by
  induction text generalizing before with
  | nil => simp [splitFirst?] at h
  | cons d text ih =>
    rw [splitFirst?] at h
    split at h
    · next hc => simp_all
    · obtain ⟨⟨b, a⟩, hb, he⟩ := Option.map_eq_some_iff.1 h
      simp only [Prod.mk.injEq] at he
      obtain ⟨rfl, rfl⟩ := he
      simp [ih hb]

/-- What stands before and after the last `c`. -/
def splitLast? (c : Char) : List Char → Option (List Char × List Char)
  | [] => none
  | d :: rest =>
    match splitLast? c rest with
    | some (before, after) => some (d :: before, after)
    | none => if d = c then some ([], rest) else none

/-- The parts of a text between the places where `c` stands. -/
def splitAll (c : Char) : List Char → List (List Char)
  | [] => [[]]
  | d :: rest =>
    if d = c then [] :: splitAll c rest
    else
      match splitAll c rest with
      | part :: parts => (d :: part) :: parts
      | [] => [[d]]

end TypedManifests.Text

/-
Module: TypedManifests.TypeExpr.Lexer
Purpose: From text to tokens. White space separates and is dropped, a word reaches as far as it can,
  and the text is refused at the first character that begins no token and at a backtick without a
  partner on its line.
Main exports: Lexed, LexError, quotedLabel?, lexFrom, lex
-/
import TypedManifests.TypeExpr.Token

namespace TypedManifests.TypeExpr

open TypedManifests.Text

/-- The tokens of a text, and where it ends. -/
structure Lexed where
  tokens : List Token
  finish : Position
deriving DecidableEq, Repr, Inhabited

inductive LexError.Cause where
  | unexpectedCharacter
  | unterminatedLabel
deriving DecidableEq, Repr

/-- Why and where a text has no tokens; `char` stands at `position`. -/
structure LexError where
  cause : LexError.Cause
  char : Char
  position : Position
deriving DecidableEq, Repr

/-- Splits what follows an opening backtick into the label and what follows the closing one. -/
def quotedLabel? : List Char → Option (List Char × List Char)
  | [] => none
  | c :: rest =>
    if c = backtick then some ([], rest)
    else if c = '\n' then none
    else (quotedLabel? rest).map fun (label, after) => (c :: label, after)

/-- A label and its closing backtick are taken off the front. -/
theorem quotedLabel?_eq_some {s label after : List Char}
    (h : quotedLabel? s = some (label, after)) :
    s = label ++ backtick :: after := by
  induction s generalizing label with
  | nil => simp [quotedLabel?] at h
  | cons c s ih =>
    rw [quotedLabel?] at h
    split at h
    · next hc => simp_all
    · split at h
      · simp at h
      · obtain ⟨⟨l, a⟩, hl, he⟩ := Option.map_eq_some_iff.1 h
        simp only [Prod.mk.injEq] at he
        obtain ⟨rfl, rfl⟩ := he
        simp [ih hl]

/-- The tokens of a text that begins at `p`. -/
def lexFrom (p : Position) (s : List Char) : Except LexError Lexed :=
  match s with
  | [] => .ok ⟨[], p⟩
  | c :: rest =>
    if isBlank c then lexFrom (p.next c) rest
    else
      match symbolKind? c with
      | some kind =>
        (lexFrom (p.next c) rest).map fun l => ⟨⟨kind, c.toString, p⟩ :: l.tokens, l.finish⟩
      | none =>
        if c = backtick then
          match _h : quotedLabel? rest with
          | none => .error ⟨.unterminatedLabel, c, p⟩
          | some (label, after) =>
            (lexFrom (p.after (c :: label ++ [backtick])) after).map fun l =>
              ⟨⟨.name, String.ofList label, p⟩ :: l.tokens, l.finish⟩
        else if isLabelStart c then
          let word := c :: rest.takeWhile isLabelChar
          (lexFrom (p.after word) (rest.dropWhile isLabelChar)).map fun l =>
            ⟨⟨wordKind (String.ofList word), String.ofList word, p⟩ :: l.tokens, l.finish⟩
        else .error ⟨.unexpectedCharacter, c, p⟩
termination_by s.length
decreasing_by
  all_goals simp only [List.length_cons]
  · omega
  · omega
  · have := congrArg List.length (quotedLabel?_eq_some _h)
    simp only [List.length_append, List.length_cons] at this
    omega
  · have := (List.dropWhile_sublist isLabelChar (l := rest)).length_le
    omega

/-- The tokens of a text. -/
def lex (source : String) : Except LexError Lexed :=
  lexFrom .start source.toList

end TypedManifests.TypeExpr

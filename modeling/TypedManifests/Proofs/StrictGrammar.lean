/-
Module: TypedManifests.Proofs.StrictGrammar
Purpose: A stricter grammar of types than the one that the parser accepts. The argument of a list or
  of an optional value stands in parentheses if it is a list or an optional value itself, no other
  parentheses are allowed, and a label without backticks is an ASCII word that is not reserved.
  Tokens do not tell whether a label was in backticks; the text that they were read from does.
Main exports: Written, MayStandBare, Strict, Strict.derives, Token.written, Lexeme.written,
  Strict.derives_tokens, Spaced.lex_written
-/
import TypedManifests.Proofs.Spacing
import TypedManifests.TypeExpr.Printer

namespace TypedManifests.TypeExpr

open TypedManifests.Text

/-!
### The grammar

    type     ::= name | List argument | Optional argument | record
    argument ::= name | record | ( List argument ) | ( Optional argument )
    record   ::= { (field (, field)*)? }
    field    ::= label : type

The terminals are tokens together with the way in which the text writes them.
-/

/-- A label that needs no backticks: a letter or an underscore and then letters, digits, `_`, `-`
and `/`, all of them ASCII, but no reserved word, alone or with a slash behind it. -/
structure MayStandBare (label : String) : Prop where
  simple : ∃ c rest, label.toList = c :: rest ∧ (c.isAlpha ∨ c = '_') ∧
    ∀ d ∈ rest, d.isAlphanum ∨ d = '_' ∨ d = '-' ∨ d = '/'
  unreserved : label ∉ reservedWords
  noPath : ∀ word ∈ reservedWords, ¬(word.toList ++ ['/']) <+: label.toList

/-- The type is written as a word and its argument. -/
inductive IsApplication : TypeExpr → Prop where
  | list (element : TypeExpr) : IsApplication (.list element)
  | optional (inner : TypeExpr) : IsApplication (.optional inner)

mutual

/-- `Strict ws t`: the tokens are a spelling of the type `t` in the stricter grammar. -/
inductive Strict : List Written → TypeExpr → Prop where
  | name {w : Written} (kind : w.kind = .name) : Strict [w] (.scalar w.text)
  | list {word : Written} {ws : List Written} {t : TypeExpr}
      (kind : word.kind = .listWord) (argument : StrictArgument ws t) :
      Strict (word :: ws) (.list t)
  | optional {word : Written} {ws : List Written} {t : TypeExpr}
      (kind : word.kind = .optionalWord) (argument : StrictArgument ws t) :
      Strict (word :: ws) (.optional t)
  | emptyRecord {opening closing : Written}
      (openKind : opening.kind = .openBrace) (closeKind : closing.kind = .closeBrace) :
      Strict [opening, closing] (.record [])
  | record {opening closing : Written} {ws : List Written} {fields : Fields}
      (openKind : opening.kind = .openBrace) (body : StrictFields ws fields)
      (distinct : (labels fields).Nodup) (closeKind : closing.kind = .closeBrace) :
      Strict (opening :: (ws ++ [closing])) (.record fields)

/-- A word with an argument of its own stands in parentheses, and nothing else does. -/
inductive StrictArgument : List Written → TypeExpr → Prop where
  | alone {ws : List Written} {t : TypeExpr} (single : ¬IsApplication t) (type : Strict ws t) :
      StrictArgument ws t
  | parens {opening closing : Written} {ws : List Written} {t : TypeExpr}
      (application : IsApplication t) (openKind : opening.kind = .openParen) (inner : Strict ws t)
      (closeKind : closing.kind = .closeParen) :
      StrictArgument (opening :: (ws ++ [closing])) t

/-- A label is in backticks, or it may do without them. -/
inductive StrictField : List Written → String × TypeExpr → Prop where
  | field {label colon : Written} {ws : List Written} {t : TypeExpr}
      (labelKind : label.kind = .name) (unmarked : label.quoted = false → MayStandBare label.text)
      (colonKind : colon.kind = .colon) (type : Strict ws t) :
      StrictField (label :: colon :: ws) (label.text, t)

inductive StrictFields : List Written → Fields → Prop where
  | one {ws : List Written} {field : String × TypeExpr} (only : StrictField ws field) :
      StrictFields ws [field]
  | more {ws others : List Written} {comma : Written} {field : String × TypeExpr} {fields : Fields}
      (first : StrictField ws field) (commaKind : comma.kind = .comma)
      (rest : StrictFields others fields) :
      StrictFields (ws ++ comma :: others) (field :: fields)

end

/-!
### The stricter grammar and the other one
-/

/-- Some token that says the same; where it stands does not matter. -/
def Written.token (w : Written) : Token := ⟨w.kind, w.text, .start⟩

mutual

/-- What is derived in the stricter grammar is derived in the other one. -/
theorem Strict.derives : ∀ {ws : List Written} {t : TypeExpr}, Strict ws t →
    Derives (ws.map Written.token) t
  | _, _, @Strict.name w kind => @Derives.name w.token kind
  | _, _, .list kind argument => .list kind argument.derives
  | _, _, .optional kind argument => .optional kind argument.derives
  | _, _, .emptyRecord openKind closeKind => .emptyRecord openKind closeKind
  | _, _, .record openKind body distinct closeKind => by
      rw [List.map_cons, List.map_append]
      exact .record openKind body.derives distinct closeKind

theorem StrictArgument.derives : ∀ {ws : List Written} {t : TypeExpr}, StrictArgument ws t →
    Derives (ws.map Written.token) t
  | _, _, .alone _ type => type.derives
  | _, _, .parens _ openKind inner closeKind => by
      rw [List.map_cons, List.map_append]
      exact .parens openKind inner.derives closeKind

theorem StrictField.derives : ∀ {ws : List Written} {field : String × TypeExpr},
    StrictField ws field → DerivesField (ws.map Written.token) field
  | _, _, @StrictField.field label _ _ _ labelKind _ colonKind type =>
      @DerivesField.field label.token _ _ _ (Or.inl labelKind) colonKind type.derives

theorem StrictFields.derives : ∀ {ws : List Written} {fields : Fields}, StrictFields ws fields →
    DerivesFields (ws.map Written.token) fields
  | _, _, .one only => .one only.derives
  | _, _, .more first commaKind rest => by
      rw [List.map_append, List.map_cons]
      exact .more first.derives commaKind rest.derives

end

/-- Positions do not matter to the grammar. -/
theorem Derives.of_saySame {tokens tokens' : List Token} {t : TypeExpr} (derived : Derives tokens t)
    (same : SaySame tokens tokens') : Derives tokens' t := by
  have taken : parseTokens ⟨tokens, .start⟩ = .ok t := parseTokens_eq_ok_iff.2 derived
  have alike := @parseTokens_alike ⟨tokens, .start⟩ ⟨tokens', .start⟩ same
  rw [taken] at alike
  rcases alike with ⟨s, _, left, right, rfl⟩ | ⟨_, _, left, _⟩
  · cases left
    exact parseTokens_eq_ok_iff.1 right
  · cases left

/-- The tokens of a text that derive a type in the stricter grammar derive it in the other one. -/
theorem Strict.derives_tokens {source : List Char} {tokens : List Token} {t : TypeExpr}
    (strict : Strict (tokens.map (Token.written source)) t) : Derives tokens t := by
  refine strict.derives.of_saySame ?_
  simp [SaySame, Token.content, Token.written, Written.token]

namespace Spaced

variable {lexemes : List Lexeme}

/-- The tokens of a text are written as its lexemes are. -/
theorem lex_written {source : String} (spaced : Spaced lexemes source.toList) :
    ∃ l, lex source = .ok l ∧
      l.tokens.map (Token.written source.toList) = lexemes.map Lexeme.written := by
  obtain ⟨tokens, q, written, read⟩ := spaced.reads .start [] rfl
  exact ⟨_, read.finish, written⟩

end Spaced

end TypedManifests.TypeExpr

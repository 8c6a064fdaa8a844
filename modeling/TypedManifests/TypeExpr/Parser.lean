/-
Module: TypedManifests.TypeExpr.Parser
Purpose: From the tokens of a type to the type.
Main exports: Expectation, ParseError, parseType, parseFields, ReadError, parse, parseRecord
-/
import TypedManifests.TypeExpr.Basic
import TypedManifests.TypeExpr.Lexer

/-!
From tokens to a type, by the grammar

    type   ::= record | List type | Optional type | ( type ) | name
    record ::= { } | { field , … , field }
    field  ::= label : type

with one token of lookahead. The labels of one record are pairwise different.
-/

namespace TypedManifests.TypeExpr

open TypedManifests.Text

/-- What would have been right in place of the token that was met. -/
inductive Expectation where
  | recordAtRoot
  | typeExpr
  | fieldLabel
  /-- A label other than this one, which the record already has. -/
  | otherLabel (label : String)
  | colon
  | closeParen
  | commaOrBrace
  | endOfText
  /-- A closing brace before the text ended. -/
  | closeBrace
deriving DecidableEq, Repr

/-- A token that cannot be right: what was expected, the token's text (none at the end of the text),
and where. A record that is never closed is reported at its opening brace. -/
structure ParseError where
  expected : Expectation
  actual : Option String
  position : Position
deriving DecidableEq, Repr

namespace ParseError

/-- The first of `tokens` is not what was expected. -/
def unexpected (expected : Expectation) (finish : Position) : List Token → ParseError
  | [] => ⟨expected, none, finish⟩
  | token :: _ => ⟨expected, some token.text, token.position⟩

end ParseError

/-- What is left of `tokens` after at least one of them was used. -/
abbrev Rest (tokens : List Token) := { rest : List Token // rest.length < tokens.length }

/-- Takes one token of the given kind. -/
def expect (kind : TokenKind) (expected : Expectation) (finish : Position) (tokens : List Token) :
    Except ParseError (Rest tokens) :=
  match tokens with
  | token :: rest =>
    if token.kind = kind then .ok ⟨rest, by simp⟩
    else .error (.unexpected expected finish (token :: rest))
  | [] => .error (.unexpected expected finish [])

mutual

/-- Takes one type off the front. -/
def parseType (finish : Position) (tokens : List Token) :
    Except ParseError (TypeExpr × Rest tokens) :=
  match tokens with
  | [] => .error (.unexpected .typeExpr finish [])
  | token :: rest =>
    match token.kind with
    | .openBrace =>
      match parseFields finish token.position rest with
      | .error e => .error e
      | .ok (fields, ⟨after, h⟩) => .ok (.record fields, ⟨after, by simp; omega⟩)
    | .listWord =>
      match parseType finish rest with
      | .error e => .error e
      | .ok (element, ⟨after, h⟩) => .ok (.list element, ⟨after, by simp; omega⟩)
    | .optionalWord =>
      match parseType finish rest with
      | .error e => .error e
      | .ok (inner, ⟨after, h⟩) => .ok (.optional inner, ⟨after, by simp; omega⟩)
    | .openParen =>
      match parseType finish rest with
      | .error e => .error e
      | .ok (inner, ⟨close, h⟩) =>
        match expect .closeParen .closeParen finish close with
        | .error e => .error e
        | .ok ⟨after, h'⟩ => .ok (inner, ⟨after, by simp; omega⟩)
    | .name => .ok (.scalar token.text, ⟨rest, by simp⟩)
    | .closeBrace | .colon | .comma | .closeParen =>
      .error (.unexpected .typeExpr finish (token :: rest))
termination_by (tokens.length, 0)
decreasing_by all_goals simp_wf; simp [Prod.lex_def]

/-- Takes what follows the brace that opened a record at `opening`, as far as its closing brace. -/
def parseFields (finish opening : Position) (tokens : List Token) :
    Except ParseError (Fields × Rest tokens) :=
  match tokens with
  | [] => .error ⟨.closeBrace, none, opening⟩
  | token :: rest =>
    if token.kind = .closeBrace then .ok ([], ⟨rest, by simp⟩)
    else parseMoreFields finish opening [] (token :: rest)
termination_by (tokens.length, 2)
decreasing_by all_goals simp_wf; simp [Prod.lex_def]

/-- Takes at least one field and what follows it, as far as the closing brace; `seen` are the labels
that the record already has. -/
def parseMoreFields (finish opening : Position) (seen : List String) (tokens : List Token) :
    Except ParseError (Fields × Rest tokens) :=
  match tokens with
  | [] => .error ⟨.closeBrace, none, opening⟩
  | label :: rest =>
    if label.kind.isLabel = false then .error (.unexpected .fieldLabel finish (label :: rest))
    else if label.text ∈ seen then .error ⟨.otherLabel label.text, some label.text, label.position⟩
    else
      match expect .colon .colon finish rest with
      | .error e => .error e
      | .ok ⟨afterColon, h₁⟩ =>
        match parseType finish afterColon with
        | .error e => .error e
        | .ok (type, ⟨[], _⟩) => .error ⟨.closeBrace, none, opening⟩
        | .ok (type, ⟨separator :: more, h₂⟩) =>
          match separator.kind with
          | .closeBrace => .ok ([(label.text, type)], ⟨more, by simp at h₂ ⊢; omega⟩)
          | .comma =>
            match parseMoreFields finish opening (label.text :: seen) more with
            | .error e => .error e
            | .ok (fields, ⟨after, h₃⟩) =>
              .ok ((label.text, type) :: fields, ⟨after, by simp at h₂ ⊢; omega⟩)
          | _ => .error (.unexpected .commaOrBrace finish (separator :: more))
termination_by (tokens.length, 1)
decreasing_by all_goals simp_wf; simp [Prod.lex_def]; simp at *; omega

end

/-- A complete text of one type. -/
def parseTokens (lexed : Lexed) : Except ParseError TypeExpr :=
  match parseType lexed.finish lexed.tokens with
  | .error e => .error e
  | .ok (type, ⟨[], _⟩) => .ok type
  | .ok (_, ⟨token :: rest, _⟩) => .error (.unexpected .endOfText lexed.finish (token :: rest))

/-- A complete text of one type that is a record. -/
def parseRecordTokens (lexed : Lexed) : Except ParseError TypeExpr :=
  match lexed.tokens with
  | ⟨.openBrace, _, _⟩ :: _ => parseTokens lexed
  | tokens => .error (.unexpected .recordAtRoot lexed.finish tokens)

/-- Why a text denotes no type. -/
inductive ReadError where
  | lex (error : LexError)
  | parse (error : ParseError)
deriving DecidableEq, Repr

/-- The type that a text denotes. -/
def parse (source : String) : Except ReadError TypeExpr :=
  match TypeExpr.lex source with
  | .error e => .error (.lex e)
  | .ok lexed => (parseTokens lexed).mapError .parse

/-- The record type that a text denotes. -/
def parseRecord (source : String) : Except ReadError TypeExpr :=
  match TypeExpr.lex source with
  | .error e => .error (.lex e)
  | .ok lexed => (parseRecordTokens lexed).mapError .parse

end TypedManifests.TypeExpr

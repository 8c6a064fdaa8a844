/-
Module: TypedManifests.Proofs.Grammar
Purpose: The grammar of type texts as a derivation relation between token sequences and types, and
  the parser's agreement with it in both directions. The relation is written from the grammar and
  knows nothing of positions, of errors or of the order in which the parser looks at tokens.
Main exports: Derives, parseType_sound, parseType_complete, Derives.unique,
  parse_and_parseRecord_iff_derives
-/
import Mathlib
import TypedManifests.Proofs.Lexing
import TypedManifests.TypeExpr.Parser

namespace TypedManifests.TypeExpr

open TypedManifests.Text

/-!
### The grammar

    type   ::= record | List type | Optional type | ( type ) | name
    record ::= { (field (, field)*)? }
    field  ::= label : type
-/

mutual

/-- `Derives tokens t`: the tokens are a spelling of the type `t`. -/
inductive Derives : List Token → TypeExpr → Prop where
  | name {token : Token} (kind : token.kind = .name) : Derives [token] (.scalar token.text)
  | list {word : Token} {tokens : List Token} {t : TypeExpr}
      (kind : word.kind = .listWord) (element : Derives tokens t) :
      Derives (word :: tokens) (.list t)
  | optional {word : Token} {tokens : List Token} {t : TypeExpr}
      (kind : word.kind = .optionalWord) (inner : Derives tokens t) :
      Derives (word :: tokens) (.optional t)
  | parens {opening closing : Token} {tokens : List Token} {t : TypeExpr}
      (openKind : opening.kind = .openParen) (inner : Derives tokens t)
      (closeKind : closing.kind = .closeParen) :
      Derives (opening :: (tokens ++ [closing])) t
  | emptyRecord {opening closing : Token}
      (openKind : opening.kind = .openBrace) (closeKind : closing.kind = .closeBrace) :
      Derives [opening, closing] (.record [])
  | record {opening closing : Token} {tokens : List Token} {fields : Fields}
      (openKind : opening.kind = .openBrace) (body : DerivesFields tokens fields)
      (distinct : (labels fields).Nodup) (closeKind : closing.kind = .closeBrace) :
      Derives (opening :: (tokens ++ [closing])) (.record fields)

/-- One field: a label, which may also be the word `List` or `Optional`, a colon and a type. -/
inductive DerivesField : List Token → String × TypeExpr → Prop where
  | field {label colon : Token} {tokens : List Token} {t : TypeExpr}
      (labelKind : label.kind = .name ∨ label.kind = .listWord ∨ label.kind = .optionalWord)
      (colonKind : colon.kind = .colon) (type : Derives tokens t) :
      DerivesField (label :: colon :: tokens) (label.text, t)

/-- At least one field, with commas between them. -/
inductive DerivesFields : List Token → Fields → Prop where
  | one {tokens : List Token} {field : String × TypeExpr} (only : DerivesField tokens field) :
      DerivesFields tokens [field]
  | more {tokens others : List Token} {comma : Token} {field : String × TypeExpr} {fields : Fields}
      (first : DerivesField tokens field) (commaKind : comma.kind = .comma)
      (rest : DerivesFields others fields) :
      DerivesFields (tokens ++ comma :: others) (field :: fields)

end

/-- The kinds that the parser takes for labels are those of the grammar. -/
theorem isLabel_iff {kind : TokenKind} :
    kind.isLabel = true ↔ kind = .name ∨ kind = .listWord ∨ kind = .optionalWord := by
  cases kind <;> simp [TokenKind.isLabel]

/-- A token that was taken had the expected kind and stood in front. -/
theorem expect_eq_ok {kind : TokenKind} {expected : Expectation} {finish : Position}
    {tokens : List Token} {rest : Rest tokens} (h : expect kind expected finish tokens = .ok rest) :
    ∃ token : Token, token.kind = kind ∧ tokens = token :: rest.1 := by
  cases tokens with
  | nil => simp [expect] at h
  | cons token tokens =>
      rw [expect] at h
      split at h
      · next same =>
        cases h
        exact ⟨token, same, rfl⟩
      · cases h

/-- A token of the expected kind is taken. -/
theorem expect_cons {kind : TokenKind} (expected : Expectation) (finish : Position) {token : Token}
    (tokens : List Token) (same : token.kind = kind) :
    expect kind expected finish (token :: tokens) = .ok ⟨tokens, Nat.lt_succ_self _⟩ := by
  simp [expect, same]

/-- What a successful run of `parseMoreFields` took first: a new label, a colon and a type, and then
the closing brace or a comma and further fields. -/
theorem parseMoreFields_eq_ok {finish opening : Position} {seen : List String} {label : Token}
    {tokens : List Token} {fields : Fields} {rest : Rest (label :: tokens)}
    (h : parseMoreFields finish opening seen (label :: tokens) = .ok (fields, rest)) :
    label.kind.isLabel = true ∧ label.text ∉ seen ∧
      ∃ colon after type separator more,
        colon.kind = .colon ∧ tokens = colon :: after ∧
          (∃ shorter, parseType finish after = .ok (type, ⟨separator :: more, shorter⟩)) ∧
            (separator.kind = .closeBrace ∧ fields = [(label.text, type)] ∧ rest.1 = more ∨
              separator.kind = .comma ∧ ∃ others rest',
                parseMoreFields finish opening (label.text :: seen) more = .ok (others, rest') ∧
                  fields = (label.text, type) :: others ∧ rest.1 = rest'.1) := by
  rw [parseMoreFields] at h
  split at h
  · cases h
  · next isLabel =>
    split at h
    · cases h
    · next fresh =>
      refine ⟨Bool.of_not_eq_false isLabel, fresh, ?_⟩
      split at h
      · cases h
      · next after shorter colonTaken =>
        obtain ⟨colon, colonKind, colonSplit⟩ := expect_eq_ok colonTaken
        split at h
        · cases h
        · cases h
        · next type separator more shorter typeTaken =>
          refine ⟨colon, after, type, separator, more, colonKind, colonSplit, ⟨_, typeTaken⟩, ?_⟩
          split at h
          · next closeKind =>
            cases h
            exact Or.inl ⟨closeKind, rfl, rfl⟩
          · next commaKind =>
            split at h
            · cases h
            · next others after shorter taken =>
              cases h
              exact Or.inr ⟨commaKind, others, _, taken, rfl, rfl⟩
          · cases h

/-!
### Soundness

What a parsing function took off the front of the tokens is derivable. The three functions call each
other on shorter and shorter rests, and the theorems follow their recursion. The labels that were
seen before are carried along: a record's labels are distinct because each one was compared with all
before it.
-/

mutual

/-- What `parseType` takes is a spelling of the type it returns. -/
theorem parseType_sound {finish : Position} :
    ∀ {tokens : List Token} {t : TypeExpr} {rest : Rest tokens},
      parseType finish tokens = .ok (t, rest) →
        ∃ used, tokens = used ++ rest.1 ∧ Derives used t
  | [], _, _, h => by simp [parseType] at h
  | token :: tokens, _, _, h => by
      rw [parseType] at h
      split at h
      · next kind =>
        split at h
        · cases h
        · next fields after shorter taken =>
          cases h
          obtain ⟨used, split, derived⟩ := parseFields_sound kind taken
          exact ⟨token :: used, by simp [split], derived⟩
      · next kind =>
        split at h
        · cases h
        · next element after shorter taken =>
          cases h
          obtain ⟨used, split, derived⟩ := parseType_sound taken
          exact ⟨token :: used, by simp [split], .list kind derived⟩
      · next kind =>
        split at h
        · cases h
        · next inner after shorter taken =>
          cases h
          obtain ⟨used, split, derived⟩ := parseType_sound taken
          exact ⟨token :: used, by simp [split], .optional kind derived⟩
      · next kind =>
        split at h
        · cases h
        · next inner close shorter taken =>
          split at h
          · cases h
          · next after shorter' closed =>
            cases h
            obtain ⟨used, split, derived⟩ := parseType_sound taken
            obtain ⟨closing, closeKind, closeSplit⟩ := expect_eq_ok closed
            refine ⟨token :: (used ++ [closing]), ?_, .parens kind derived closeKind⟩
            simp [split, closeSplit]
      · next kind =>
        cases h
        exact ⟨[token], rfl, .name kind⟩
      all_goals cases h
termination_by tokens => (tokens.length, 0)

/-- What `parseFields` takes completes the record that the brace before it opened. -/
theorem parseFields_sound {finish opening : Position} {brace : Token}
    (openKind : brace.kind = .openBrace) :
    ∀ {tokens : List Token} {fields : Fields} {rest : Rest tokens},
      parseFields finish opening tokens = .ok (fields, rest) →
        ∃ used, tokens = used ++ rest.1 ∧ Derives (brace :: used) (.record fields)
  | [], _, _, h => by simp [parseFields] at h
  | token :: tokens, _, _, h => by
      rw [parseFields] at h
      split at h
      · next closeKind =>
        cases h
        exact ⟨[token], rfl, .emptyRecord openKind closeKind⟩
      · obtain ⟨used, closing, closeKind, split, body, distinct, _⟩ := parseMoreFields_sound h
        refine ⟨used ++ [closing], ?_, .record openKind body distinct closeKind⟩
        simp [split]
termination_by tokens => (tokens.length, 2)

/-- What `parseMoreFields` takes are fields and a closing brace; no label repeats another one of the
record. -/
theorem parseMoreFields_sound {finish opening : Position} :
    ∀ {tokens : List Token} {seen : List String} {fields : Fields} {rest : Rest tokens},
      parseMoreFields finish opening seen tokens = .ok (fields, rest) →
        ∃ used closing, closing.kind = .closeBrace ∧ tokens = used ++ closing :: rest.1 ∧
          DerivesFields used fields ∧ (labels fields).Nodup ∧ ∀ l ∈ labels fields, l ∉ seen
  | [], _, _, _, h => by simp [parseMoreFields] at h
  | label :: tokens, seen, _, _, h => by
      obtain ⟨isLabel, fresh, colon, after, type, separator, more, colonKind, colonSplit,
        ⟨shorter, typeTaken⟩, continued⟩ := parseMoreFields_eq_ok h
      obtain ⟨used, typeSplit, derived⟩ := parseType_sound typeTaken
      have field : DerivesField (label :: colon :: used) (label.text, type) :=
        .field (isLabel_iff.1 isLabel) colonKind derived
      have fewer : more.length < tokens.length := by
        simp only [List.length_cons, colonSplit] at shorter ⊢
        omega
      rcases continued with ⟨closeKind, rfl, restEq⟩ | ⟨commaKind, others, _, taken, rfl, restEq⟩
      · refine ⟨label :: colon :: used, separator, closeKind, ?_, .one field, ?_, ?_⟩
        · simp [colonSplit, typeSplit, restEq]
        · simp [labels]
        · simpa [labels] using fresh
      · obtain ⟨used', closing, closeKind, split, body, distinct, unseen⟩ :=
          parseMoreFields_sound taken
        refine ⟨(label :: colon :: used) ++ separator :: used', closing, closeKind, ?_,
          .more field commaKind body, ?_, ?_⟩
        · simp [colonSplit, typeSplit, split, restEq]
        · refine List.nodup_cons.2 ⟨fun again => ?_, distinct⟩
          exact unseen _ again List.mem_cons_self
        · intro l member
          rcases List.mem_cons.1 member with rfl | member
          · exact fresh
          · exact fun before => unseen l member (List.mem_cons_of_mem _ before)
termination_by tokens => (tokens.length, 1)

end

/-!
### Completeness

Every derivation is found, whatever stands after the derived tokens: a type is complete with its
last token, so no continuation can be taken for a part of it. The induction is on the derivation.
For the fields of a record it is generalised over the labels already seen, which must differ from
the labels still to come.
-/

/-- Fields begin with a label, which is no closing brace. -/
theorem DerivesFields.exists_head {tokens : List Token} {fields : Fields}
    (derived : DerivesFields tokens fields) :
    ∃ label more, tokens = label :: more ∧ label.kind ≠ .closeBrace := by
  rcases derived with ⟨⟨labelKind, _, _⟩⟩ | ⟨⟨labelKind, _, _⟩, _, _⟩
  all_goals
    refine ⟨_, _, rfl, fun isBrace => ?_⟩
    simp [isBrace] at labelKind

/-- Unless the record is closed at once, its fields are read one after the other. -/
theorem parseFields_eq_parseMoreFields {finish opening : Position} {label : Token}
    {tokens : List Token} (h : label.kind ≠ .closeBrace) :
    parseFields finish opening (label :: tokens) =
      parseMoreFields finish opening [] (label :: tokens) := by
  rw [parseFields, if_neg h]

mutual

/-- A derived type is taken off the front of any tokens that begin with its spelling. -/
theorem parseType_complete (finish : Position) :
    ∀ {used : List Token} {t : TypeExpr}, Derives used t →
      ∀ (rest : List Token) {tokens : List Token}, tokens = used ++ rest →
        ∃ shorter, parseType finish tokens = .ok (t, ⟨rest, shorter⟩)
  | _, _, .name kind, rest, tokens, split => by
      rw [List.singleton_append] at split
      subst split
      refine ⟨by simp, ?_⟩
      rw [parseType]
      simp only [kind]
  | _, _, .list kind element, rest, tokens, split => by
      rw [List.cons_append] at split
      subst split
      obtain ⟨shorter, taken⟩ := parseType_complete finish element rest rfl
      refine ⟨Nat.lt_succ_of_lt shorter, ?_⟩
      rw [parseType]
      simp only [kind, taken]
  | _, _, .optional kind inner, rest, tokens, split => by
      rw [List.cons_append] at split
      subst split
      obtain ⟨shorter, taken⟩ := parseType_complete finish inner rest rfl
      refine ⟨Nat.lt_succ_of_lt shorter, ?_⟩
      rw [parseType]
      simp only [kind, taken]
  | _, _, @Derives.parens _ closing _ _ openKind inner closeKind, rest, tokens, split => by
      rw [List.cons_append, List.append_assoc, List.singleton_append] at split
      subst split
      obtain ⟨shorter, taken⟩ := parseType_complete finish inner (closing :: rest) rfl
      refine ⟨by simp only [List.length_cons, List.length_append]; omega, ?_⟩
      rw [parseType]
      simp only [openKind, taken, expect_cons _ _ _ closeKind]
  | _, _, .emptyRecord openKind closeKind, rest, tokens, split => by
      rw [List.cons_append, List.singleton_append] at split
      subst split
      refine ⟨by simp only [List.length_cons]; omega, ?_⟩
      rw [parseType]
      simp only [openKind, parseFields, closeKind, if_true]
  | _, _, @Derives.record opening closing _ _ openKind body distinct closeKind, rest, tokens,
      split => by
      rw [List.cons_append, List.append_assoc, List.singleton_append] at split
      subst split
      obtain ⟨shorter, taken⟩ := parseMoreFields_complete finish opening.position body [] distinct
        (by simp) closeKind rest rfl
      obtain ⟨label, more, rfl, noBrace⟩ := body.exists_head
      refine ⟨by simp only [List.length_cons, List.length_append]; omega, ?_⟩
      rw [parseType]
      simp only [openKind, List.cons_append, parseFields_eq_parseMoreFields noBrace] at taken ⊢
      simp only [taken]

/-- Derived fields and the closing brace after them are taken, if their labels are new. -/
theorem parseMoreFields_complete (finish opening : Position) :
    ∀ {used : List Token} {fields : Fields}, DerivesFields used fields →
      ∀ (seen : List String), (labels fields).Nodup → (∀ l ∈ labels fields, l ∉ seen) →
        ∀ {closing : Token}, closing.kind = .closeBrace →
          ∀ (rest : List Token) {tokens : List Token}, tokens = used ++ closing :: rest →
            ∃ shorter, parseMoreFields finish opening seen tokens = .ok (fields, ⟨rest, shorter⟩)
  | _, _, .one (@DerivesField.field label _ _ _ labelKind colonKind type), seen, distinct, fresh,
      closing, closeKind, rest, tokens, split => by
      rw [List.cons_append, List.cons_append] at split
      subst split
      obtain ⟨shorter, taken⟩ := parseType_complete finish type (closing :: rest) rfl
      have unseen : label.text ∉ seen := fresh _ (by simp [labels])
      refine ⟨by simp only [List.length_cons, List.length_append]; omega, ?_⟩
      rw [parseMoreFields]
      simp only [isLabel_iff.2 labelKind, unseen, expect_cons _ _ _ colonKind, taken, closeKind]
      rfl
  | _, _, @DerivesFields.more _ after comma _ fields
      (@DerivesField.field label _ _ _ labelKind colonKind type) commaKind others, seen, distinct,
      fresh, closing, closeKind, rest, tokens, split => by
      rw [List.append_assoc, List.cons_append, List.cons_append, List.cons_append] at split
      subst split
      have unseen : label.text ∉ seen := fresh _ (by simp [labels])
      obtain ⟨new, distinct⟩ := List.nodup_cons.1 distinct
      have fresh' : ∀ l ∈ labels fields, l ∉ label.text :: seen := by
        intro l member again
        rcases List.mem_cons.1 again with rfl | before
        · exact new member
        · exact fresh l (List.mem_cons_of_mem _ member) before
      obtain ⟨shorter, taken⟩ :=
        parseType_complete finish type (comma :: (after ++ closing :: rest)) rfl
      obtain ⟨shorter', taken'⟩ := parseMoreFields_complete finish opening others
        (label.text :: seen) distinct fresh' closeKind rest rfl
      refine ⟨by simp only [List.length_cons, List.length_append]; omega, ?_⟩
      rw [parseMoreFields]
      simp only [isLabel_iff.2 labelKind, unseen, expect_cons _ _ _ colonKind, taken, commaKind,
        taken']
      rfl

end

/-!
### Complete texts
-/

/-- All tokens of a text together are parsed as the type that they derive, and as no other. -/
theorem parseTokens_eq_ok_iff {lexed : Lexed} {t : TypeExpr} :
    parseTokens lexed = .ok t ↔ Derives lexed.tokens t := by
  constructor
  · intro h
    rw [parseTokens] at h
    split at h
    · cases h
    · next taken =>
      cases h
      obtain ⟨used, split, derived⟩ := parseType_sound taken
      simpa [split] using derived
    · cases h
  · intro derived
    obtain ⟨shorter, taken⟩ := parseType_complete lexed.finish derived [] (List.append_nil _).symm
    simp only [parseTokens, taken]

/-- A record's text begins with its brace. -/
theorem parseRecordTokens_eq_ok_iff {lexed : Lexed} {t : TypeExpr} :
    parseRecordTokens lexed = .ok t ↔
      Derives lexed.tokens t ∧
        ∃ token rest, lexed.tokens = token :: rest ∧ token.kind = .openBrace := by
  rw [← parseTokens_eq_ok_iff, parseRecordTokens]
  split
  · next text position rest tokensEq =>
    exact ⟨fun h => ⟨h, _, rest, tokensEq, rfl⟩, And.left⟩
  · next noBrace =>
    constructor
    · intro h
      cases h
    · rintro ⟨_, ⟨kind, text, position⟩, rest, tokensEq, rfl⟩
      exact absurd tokensEq (noBrace text position rest)

/-- A text that denotes a type has tokens, which derive it. -/
theorem parse_eq_ok {source : String} {t : TypeExpr} (h : parse source = .ok t) :
    ∃ lexed, lex source = .ok lexed ∧ Derives lexed.tokens t := by
  rw [parse] at h
  split at h
  · cases h
  · next lexed lexedEq => exact ⟨lexed, lexedEq, parseTokens_eq_ok_iff.1 (mapError_eq_ok.1 h)⟩

/-- The tokens of a text decide what type it denotes. -/
theorem parse_of_lex {source : String} {lexed : Lexed} (h : lex source = .ok lexed) :
    parse source = (parseTokens lexed).mapError .parse := by
  rw [parse, h]

theorem parseRecord_of_lex {source : String} {lexed : Lexed} (h : lex source = .ok lexed) :
    parseRecord source = (parseRecordTokens lexed).mapError .parse := by
  rw [parseRecord, h]

/-- What begins with a brace is a record. -/
theorem Derives.isRecord {token : Token} {tokens : List Token} {t : TypeExpr}
    (derived : Derives (token :: tokens) t) (kind : token.kind = .openBrace) :
    ∃ fields, t = .record fields := by
  cases derived with
  | emptyRecord => exact ⟨_, rfl⟩
  | record => exact ⟨_, rfl⟩
  | _ => simp_all

/-- A text that denotes a type where a record is asked for denotes it in any place. -/
theorem parse_of_parseRecord {source : String} {t : TypeExpr} (h : parseRecord source = .ok t) :
    parse source = .ok t ∧ ∃ fields, t = .record fields := by
  rw [parseRecord] at h
  split at h
  · cases h
  · next lexed lexedEq =>
    obtain ⟨derived, token, rest, tokensEq, kind⟩ :=
      parseRecordTokens_eq_ok_iff.1 (mapError_eq_ok.1 h)
    refine ⟨?_, (tokensEq ▸ derived).isRecord kind⟩
    rw [parse_of_lex lexedEq, mapError_eq_ok, parseTokens_eq_ok_iff]
    exact derived

/-- No tokens derive two types. -/
theorem Derives.unique {tokens : List Token} {s t : TypeExpr} (one : Derives tokens s)
    (two : Derives tokens t) : s = t := by
  have first : parseTokens ⟨tokens, .start⟩ = .ok s := parseTokens_eq_ok_iff.2 one
  have second : parseTokens ⟨tokens, .start⟩ = .ok t := parseTokens_eq_ok_iff.2 two
  exact Except.ok.inj (first.symm.trans second)

mutual

/-- Derived types have no record with two fields of one label. -/
theorem Derives.uniqueLabels : ∀ {tokens : List Token} {t : TypeExpr},
    Derives tokens t → t.UniqueLabels
  | _, _, .name _ => by simp [UniqueLabels]
  | _, _, .list _ element => by simpa [UniqueLabels] using element.uniqueLabels
  | _, _, .optional _ inner => by simpa [UniqueLabels] using inner.uniqueLabels
  | _, _, .parens _ inner _ => inner.uniqueLabels
  | _, _, .emptyRecord _ _ => by simp [UniqueLabels, UniqueLabelsFields]
  | _, _, .record _ body distinct _ => by
      rw [UniqueLabels]
      exact ⟨distinct, body.uniqueLabels⟩

theorem DerivesFields.uniqueLabels : ∀ {tokens : List Token} {fields : Fields},
    DerivesFields tokens fields → UniqueLabelsFields fields
  | _, _, .one (.field _ _ type) => by
      simpa [UniqueLabelsFields] using type.uniqueLabels
  | _, _, .more (.field _ _ type) _ rest => by
      rw [UniqueLabelsFields]
      exact ⟨type.uniqueLabels, rest.uniqueLabels⟩

end

/-- The parser accepts exactly its grammar: a text that has tokens denotes the type that its tokens
derive, and denotes it as a record if the first token is the brace of one. -/
theorem parse_and_parseRecord_iff_derives {source : String} {lexed : Lexed}
    (h : lex source = .ok lexed) (t : TypeExpr) :
    (parse source = .ok t ↔ Derives lexed.tokens t) ∧
      (parseRecord source = .ok t ↔
        Derives lexed.tokens t ∧
          ∃ token rest, lexed.tokens = token :: rest ∧ token.kind = .openBrace) := by
  rw [parse_of_lex h, parseRecord_of_lex h, mapError_eq_ok, mapError_eq_ok]
  exact ⟨parseTokens_eq_ok_iff, parseRecordTokens_eq_ok_iff⟩

/-- A record whose labels are the words `List` and, in backticks, `Optional`. -/
theorem parse_and_parseRecord_iff_derives_keywords :
    let tokens : List Token :=
      [⟨.openBrace, "\x7b", ⟨0, 1, 1⟩⟩, ⟨.listWord, "List", ⟨1, 1, 2⟩⟩, ⟨.colon, ":", ⟨5, 1, 6⟩⟩,
        ⟨.openParen, "(", ⟨6, 1, 7⟩⟩, ⟨.name, "a", ⟨7, 1, 8⟩⟩, ⟨.closeParen, ")", ⟨8, 1, 9⟩⟩,
        ⟨.comma, ",", ⟨9, 1, 10⟩⟩, ⟨.name, "Optional", ⟨10, 1, 11⟩⟩, ⟨.colon, ":", ⟨20, 1, 21⟩⟩,
        ⟨.openBrace, "\x7b", ⟨21, 1, 22⟩⟩, ⟨.closeBrace, "\x7d", ⟨22, 1, 23⟩⟩,
        ⟨.closeBrace, "\x7d", ⟨23, 1, 24⟩⟩]
    let source := "\x7bList:(a),\x60Optional\x60:\x7b\x7d\x7d"
    let t : TypeExpr := .record [("List", .scalar "a"), ("Optional", .record [])]
    lex source = .ok ⟨tokens, ⟨24, 1, 25⟩⟩ ∧ Derives tokens t ∧ parse source = .ok t ∧
      parseRecord source = .ok t := by
  intro tokens source t
  have lexed : lex source = .ok ⟨tokens, ⟨24, 1, 25⟩⟩ := by cbv
  have denotes : parse source = .ok t := by cbv
  have derived : Derives tokens t := (parse_and_parseRecord_iff_derives lexed t).1.1 denotes
  exact ⟨lexed, derived, denotes,
    (parse_and_parseRecord_iff_derives lexed t).2.2 ⟨derived, _, _, rfl, rfl⟩⟩

end TypedManifests.TypeExpr

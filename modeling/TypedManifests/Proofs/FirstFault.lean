/-
Module: TypedManifests.Proofs.FirstFault
Purpose: A parse error stands at the first token that cannot be right. The tokens before it can be
  completed to a text that is accepted, and with it they can no more, whatever follows. If no token
  is wrong, the tokens can be completed as they are, and the error stands at their end or at the
  innermost brace that is still open.
Main exports: openBraces, Fault, Fault.within, parseType_fault, Completable, FaultsFirst,
  parseTokens_faultsFirst, parseRecordTokens_faultsFirst, error_at_first_fault
-/
import Mathlib.Data.Fintype.EquivFin
import TypedManifests.Proofs.Grammar
import TypedManifests.TypeExpr.ErrorMessage

namespace TypedManifests.TypeExpr

open TypedManifests.Text

/-!
### Open braces
-/

/-- The braces that are open after a token; the innermost one comes first. -/
def braceStep (stack : List Token) (token : Token) : List Token :=
  match token.kind with
  | .openBrace => token :: stack
  | .closeBrace => stack.tail
  | _ => stack

/-- The braces that are open after some tokens if those of `stack` were open before. -/
def openBraces (stack : List Token) (tokens : List Token) : List Token :=
  tokens.foldl braceStep stack

theorem openBraces_append (stack first second : List Token) :
    openBraces stack (first ++ second) = openBraces (openBraces stack first) second :=
  List.foldl_append

theorem openBraces_cons (stack : List Token) (token : Token) (tokens : List Token) :
    openBraces stack (token :: tokens) = openBraces (braceStep stack token) tokens := rfl

theorem braceStep_of_isLabel {label : Token} (isLabel : label.kind.isLabel = true)
    (stack : List Token) : braceStep stack label = stack := by
  rcases isLabel_iff.1 isLabel with kind | kind | kind <;> simp [braceStep, kind]

theorem openBraces_field {label colon : Token} (isLabel : label.kind.isLabel = true)
    (colonKind : colon.kind = .colon) (stack : List Token) :
    openBraces stack [label, colon] = stack := by
  rw [openBraces_cons, braceStep_of_isLabel isLabel]
  simp [openBraces, braceStep, colonKind]

/-- An open brace is one of the tokens, or it was open before. -/
theorem mem_of_mem_openBraces {brace : Token} {tokens : List Token} : ∀ {stack : List Token},
    brace ∈ openBraces stack tokens → brace ∈ stack ∨ brace ∈ tokens := by
  induction tokens with
  | nil => exact fun {stack} member => Or.inl member
  | cons token tokens ih =>
      intro stack member
      rcases ih member with before | after
      · unfold braceStep at before
        split at before
        · rcases List.mem_cons.1 before with rfl | before
          · exact Or.inr List.mem_cons_self
          · exact Or.inl before
        · exact Or.inl (List.mem_of_mem_tail before)
        · exact Or.inl before
      · exact Or.inr (List.mem_cons_of_mem token after)

mutual

/-- A complete type closes the braces that it opens, and no others. -/
theorem Derives.openBraces_eq : ∀ {tokens : List Token} {t : TypeExpr}, Derives tokens t →
    ∀ stack, openBraces stack tokens = stack
  | _, _, .name kind, stack => by simp [openBraces, braceStep, kind]
  | _, _, .list kind element, stack | _, _, .optional kind element, stack => by
      rw [openBraces_cons, element.openBraces_eq]
      simp [braceStep, kind]
  | _, _, .parens openKind inner closeKind, stack => by
      rw [openBraces_cons, openBraces_append, inner.openBraces_eq]
      simp [openBraces, braceStep, openKind, closeKind]
  | _, _, .emptyRecord openKind closeKind, stack => by
      simp [openBraces, braceStep, openKind, closeKind]
  | _, _, .record openKind body _ closeKind, stack => by
      rw [openBraces_cons, openBraces_append, body.openBraces_eq]
      simp [openBraces, braceStep, openKind, closeKind]

theorem DerivesField.openBraces_eq : ∀ {tokens : List Token} {field : String × TypeExpr},
    DerivesField tokens field → ∀ stack, openBraces stack tokens = stack
  | _, _, @DerivesField.field label colon tokens _ labelKind colonKind type, stack => by
      have before := openBraces_field (isLabel_iff.2 labelKind) colonKind stack
      exact (openBraces_append stack [label, colon] tokens).trans
        (before.symm ▸ type.openBraces_eq stack)

theorem DerivesFields.openBraces_eq : ∀ {tokens : List Token} {fields : Fields},
    DerivesFields tokens fields → ∀ stack, openBraces stack tokens = stack
  | _, _, .one only, stack => only.openBraces_eq stack
  | _, _, .more first commaKind rest, stack => by
      rw [openBraces_append, first.openBraces_eq, openBraces_cons, rest.openBraces_eq]
      simp [braceStep, commaKind]

end

/-!
### Where a parsing function fails

The tokens before a fault are the beginning of something that the function takes. With the token at
the fault they are refused, whatever follows: the function looks at no later token. Both properties
pass from the part of a type to the type, since the tokens before the part stay in front.
-/

/-- The error `e` stands at the first fault of `tokens`. `viable` are the beginnings of what is
taken, `refused` is what is not taken whatever the end, and the braces of `stack` stand open before
the tokens. -/
inductive Fault (viable refused : List Token → Prop) (stack : List Token) (finish : Position) :
    List Token → ParseError → Prop where
  /-- A token is wrong. -/
  | token {before after : List Token} {token : Token} {expected : Expectation}
      (live : viable before) (dead : ∀ rest, refused (before ++ token :: rest)) :
      Fault viable refused stack finish (before ++ token :: after)
        ⟨expected, some token.text, token.position⟩
  /-- The tokens end too early. -/
  | ended {tokens : List Token} {expected : Expectation} (other : expected ≠ .closeBrace)
      (live : viable tokens) : Fault viable refused stack finish tokens ⟨expected, none, finish⟩
  /-- The tokens end inside of a record. -/
  | unclosed {tokens outer : List Token} {brace : Token} (live : viable tokens)
      (innermost : openBraces stack tokens = brace :: outer) :
      Fault viable refused stack finish tokens ⟨.closeBrace, none, brace.position⟩

/-- A fault at the first token. -/
theorem Fault.head {viable refused : List Token → Prop} {stack : List Token} {finish : Position}
    {token : Token} {after : List Token} (expected : Expectation) (live : viable [])
    (dead : ∀ rest, refused (token :: rest)) :
    Fault viable refused stack finish (token :: after)
      ⟨expected, some token.text, token.position⟩ :=
  @Fault.token _ _ _ _ [] after token expected live dead

/-- A fault of a part is a fault of the whole, the part of which stands behind `front`. -/
theorem Fault.within {viable refused viable' refused' : List Token → Prop}
    {stack stack' tokens : List Token} {finish : Position} {e : ParseError}
    (fault : Fault viable refused stack finish tokens e) (front : List Token)
    (opened : openBraces stack' front = stack)
    (live : ∀ part, part <+: tokens → viable part → viable' (front ++ part))
    (dead : ∀ part, part.head? = tokens.head? → refused part → refused' (front ++ part)) :
    Fault viable' refused' stack' finish (front ++ tokens) e := by
  cases fault with
  | @token before after token expected viable refused =>
      rw [← List.append_assoc]
      refine .token (live before (List.prefix_append _ _) viable) fun rest => ?_
      rw [List.append_assoc]
      refine dead _ ?_ (refused rest)
      cases before <;> rfl
  | ended other viable => exact .ended other (live tokens (List.prefix_refl _) viable)
  | unclosed viable innermost =>
      have inside := openBraces_append stack' front tokens
      rw [opened, innermost] at inside
      exact .unclosed (live tokens (List.prefix_refl _) viable) inside

/-- A fault stands at one of the tokens, at a brace that was open before, or at the end. -/
theorem Fault.position {viable refused : List Token → Prop} {stack tokens : List Token}
    {finish : Position} {e : ParseError} (fault : Fault viable refused stack finish tokens e) :
    e.position = finish ∨ ∃ token ∈ stack ++ tokens, e.position = token.position := by
  cases fault with
  | @token before after token _ _ _ => exact Or.inr ⟨token, by simp, rfl⟩
  | ended => exact Or.inl rfl
  | @unclosed _ outer brace _ innermost =>
      have isOpen : brace ∈ openBraces stack tokens := innermost ▸ List.mem_cons_self
      exact Or.inr ⟨brace, List.mem_append.2 (mem_of_mem_openBraces isOpen), rfl⟩

/-- The tokens begin a type. -/
def BeginsType (tokens : List Token) : Prop := ∃ more t, Derives (tokens ++ more) t

/-- The tokens begin fields of a record, the closing brace apart, that has the labels `seen`. -/
def BeginsFields (seen : List String) (tokens : List Token) : Prop :=
  ∃ more fields, DerivesFields (tokens ++ more) fields ∧ (labels fields).Nodup ∧
    ∀ l ∈ labels fields, l ∉ seen

/-- No type is taken off the front of the tokens. -/
def RefusesType (tokens : List Token) : Prop :=
  ∀ finish t rest, parseType finish tokens ≠ .ok (t, rest)

/-- What follows an opening brace is not taken off the front of the tokens. -/
def RefusesRecord (tokens : List Token) : Prop :=
  ∀ finish opening fields rest, parseFields finish opening tokens ≠ .ok (fields, rest)

/-- No fields of a record that has the labels `seen` are taken off the front of the tokens. -/
def RefusesFields (seen : List String) (tokens : List Token) : Prop :=
  ∀ finish opening fields rest, parseMoreFields finish opening seen tokens ≠ .ok (fields, rest)

section

variable {token : Token} {tokens : List Token}

/-- What a successful run of `parseType` took behind the first token. -/
theorem parseType_eq_ok {finish : Position} {t : TypeExpr} {rest : Rest (token :: tokens)}
    (h : parseType finish (token :: tokens) = .ok (t, rest)) :
    token.kind = .name ∨
      (token.kind = .openBrace ∧
        ∃ fields after, parseFields finish token.position tokens = .ok (fields, after)) ∨
      ((token.kind = .listWord ∨ token.kind = .optionalWord) ∧
        ∃ inner after, parseType finish tokens = .ok (inner, after)) ∨
      (token.kind = .openParen ∧
        ∃ inner after, parseType finish tokens = .ok (inner, after) ∧
          ∃ closing others, after.1 = closing :: others ∧ closing.kind = .closeParen) := by
  rw [parseType] at h
  split at h
  · next kind =>
    split at h
    · cases h
    · next taken => exact Or.inr (Or.inl ⟨kind, _, _, taken⟩)
  · next kind =>
    split at h
    · cases h
    · next taken => exact Or.inr (Or.inr (Or.inl ⟨Or.inl kind, _, _, taken⟩))
  · next kind =>
    split at h
    · cases h
    · next taken => exact Or.inr (Or.inr (Or.inl ⟨Or.inr kind, _, _, taken⟩))
  · next kind =>
    split at h
    · cases h
    · next taken =>
      split at h
      · cases h
      · next closed =>
        obtain ⟨closing, closeKind, split⟩ := expect_eq_ok closed
        exact Or.inr (Or.inr (Or.inr ⟨kind, _, _, taken, closing, _, split, closeKind⟩))
  · next kind => exact Or.inl kind
  all_goals cases h

theorem refusesType_head (kind : token.kind ≠ .name) (brace : token.kind ≠ .openBrace)
    (word : token.kind ≠ .listWord ∧ token.kind ≠ .optionalWord) (paren : token.kind ≠ .openParen) :
    RefusesType (token :: tokens) := by
  intro finish t rest h
  rcases parseType_eq_ok h with same | ⟨same, _⟩ | ⟨same | same, _⟩ | ⟨same, _⟩
  all_goals simp_all

/-- A type is refused if what its first token announces is. -/
theorem refusesType_cons (noName : token.kind ≠ .name)
    (record : token.kind = .openBrace → RefusesRecord tokens)
    (inner : token.kind ≠ .openBrace → RefusesType tokens) : RefusesType (token :: tokens) := by
  intro finish t rest h
  rcases parseType_eq_ok h with isName | ⟨kind, _, _, taken⟩ | ⟨kind, _, _, taken⟩ |
    ⟨kind, _, _, taken, _⟩
  · exact noName isName
  · exact record kind _ _ _ _ taken
  · refine inner (fun brace => ?_) _ _ _ taken
    simp [brace] at kind
  · refine inner (fun brace => ?_) _ _ _ taken
    simp [brace] at kind

/-- Behind the type in parentheses only a closing one is taken. -/
theorem refusesType_unclosed {used : List Token} {t : TypeExpr} {other : Token}
    (kind : token.kind = .openParen) (derived : Derives used t) (noClose : other.kind ≠ .closeParen)
    (rest : List Token) : RefusesType (token :: (used ++ other :: rest)) := by
  intro finish t' rest' h
  rcases parseType_eq_ok h with same | ⟨same, _⟩ | ⟨same | same, _⟩ |
    ⟨_, inner, after, taken, closing, others, split, closeKind⟩
  any_goals simp [kind] at same
  obtain ⟨_, complete⟩ := parseType_complete finish derived (other :: rest) rfl
  rw [complete, Except.ok.injEq, Prod.mk.injEq] at taken
  obtain ⟨rfl, rfl⟩ := taken
  cases split
  exact noClose closeKind

/-- Behind a complete field stands the closing brace, or a comma and further fields. -/
theorem parseMoreFields_behind_type {finish opening : Position} {seen : List String}
    {label colon separator : Token} {used more : List Token} {t : TypeExpr} {fields : Fields}
    {rest : Rest (label :: colon :: (used ++ separator :: more))} (derived : Derives used t)
    (h : parseMoreFields finish opening seen (label :: colon :: (used ++ separator :: more)) =
      .ok (fields, rest)) :
    separator.kind = .closeBrace ∨ (separator.kind = .comma ∧ ∃ others rest',
      parseMoreFields finish opening (label.text :: seen) more = .ok (others, rest')) := by
  obtain ⟨_, _, _, _, _, _, _, _, colonSplit, ⟨_, taken⟩, continued⟩ := parseMoreFields_eq_ok h
  cases colonSplit
  obtain ⟨_, complete⟩ := parseType_complete finish derived (separator :: more) rfl
  rw [complete, Except.ok.injEq, Prod.mk.injEq, Subtype.mk.injEq, List.cons.injEq] at taken
  obtain ⟨rfl, rfl, rfl⟩ := taken
  rcases continued with ⟨closeKind, _⟩ | ⟨commaKind, others, rest', others_taken, _⟩
  · exact Or.inl closeKind
  · exact Or.inr ⟨commaKind, others, rest', others_taken⟩

end

/-!
### Completions
-/

/-- The token `}`. -/
def closingBrace : Token := ⟨.closeBrace, "\x7d", .start⟩

/-- The token `)`. -/
def closingParen : Token := ⟨.closeParen, ")", .start⟩

/-- The token `:`. -/
def colonToken : Token := ⟨.colon, ":", .start⟩

/-- A bare word or a label in backticks. -/
def nameToken (text : String) : Token := ⟨.name, text, .start⟩

theorem derives_nameToken (text : String) : Derives [nameToken text] (.scalar text) :=
  @Derives.name (nameToken text) rfl

theorem Derives.beginsType {tokens : List Token} {t : TypeExpr} (derived : Derives tokens t) :
    BeginsType tokens :=
  ⟨[], t, by simpa using derived⟩

theorem beginsType_nil : BeginsType [] := ⟨[nameToken "a"], _, derives_nameToken "a"⟩

section

variable {token label colon comma : Token} {tokens used : List Token} {t : TypeExpr}
  {seen : List String}

theorem BeginsType.word (begins : BeginsType tokens)
    (kind : token.kind = .listWord ∨ token.kind = .optionalWord) :
    BeginsType (token :: tokens) := by
  obtain ⟨more, t, derived⟩ := begins
  rcases kind with kind | kind
  · exact ⟨more, _, .list kind derived⟩
  · exact ⟨more, _, .optional kind derived⟩

theorem BeginsType.parens (begins : BeginsType tokens) (kind : token.kind = .openParen) :
    BeginsType (token :: tokens) := by
  obtain ⟨more, t, derived⟩ := begins
  have whole := @Derives.parens token closingParen _ t kind derived rfl
  exact ⟨more ++ [closingParen], t, by simpa using whole⟩

theorem beginsType_brace (kind : token.kind = .openBrace) : BeginsType [token] :=
  ⟨[closingBrace], _, .emptyRecord kind rfl⟩

theorem BeginsFields.record (begins : BeginsFields [] tokens) (kind : token.kind = .openBrace) :
    BeginsType (token :: tokens) := by
  obtain ⟨more, fields, body, distinct, _⟩ := begins
  have whole := @Derives.record token closingBrace _ _ kind body distinct rfl
  exact ⟨more ++ [closingBrace], _, by simpa using whole⟩

/-- A field begins with a label that the record does not have. -/
theorem BeginsType.field (begins : BeginsType tokens) (isLabel : label.kind.isLabel = true)
    (fresh : label.text ∉ seen) (colonKind : colon.kind = .colon) :
    BeginsFields seen (label :: colon :: tokens) := by
  obtain ⟨more, t, derived⟩ := begins
  refine ⟨more, _, .one (.field (isLabel_iff.1 isLabel) colonKind derived), ?_, ?_⟩
  · simp [labels]
  · simpa [labels] using fresh

theorem beginsFields_label (isLabel : label.kind.isLabel = true) (fresh : label.text ∉ seen) :
    BeginsFields seen [label] := by
  obtain ⟨more, begun⟩ :=
    @BeginsType.field label colonToken [] seen beginsType_nil isLabel fresh rfl
  exact ⟨colonToken :: more, by simpa using begun⟩

/-- There is always a label that a record does not have. -/
theorem beginsFields_nil (seen : List String) : BeginsFields seen [] := by
  obtain ⟨text, fresh⟩ := Infinite.exists_notMem_finset seen.toFinset
  have fresh' : text ∉ seen := by simpa using fresh
  obtain ⟨more, begun⟩ := @beginsFields_label (nameToken text) seen rfl fresh'
  exact ⟨nameToken text :: more, by simpa using begun⟩

/-- After a complete field and a comma, further fields begin. -/
theorem BeginsFields.behind (begins : BeginsFields (label.text :: seen) tokens)
    (isLabel : label.kind.isLabel = true) (fresh : label.text ∉ seen)
    (colonKind : colon.kind = .colon) (derived : Derives used t) (commaKind : comma.kind = .comma) :
    BeginsFields seen (label :: colon :: (used ++ comma :: tokens)) := by
  obtain ⟨more, fields, body, distinct, unseen⟩ := begins
  have first : DerivesField (label :: colon :: used) (label.text, t) :=
    .field (isLabel_iff.1 isLabel) colonKind derived
  refine ⟨more, (label.text, t) :: fields, ?_, ?_, ?_⟩
  · simpa using DerivesFields.more first commaKind body
  · refine List.nodup_cons.2 ⟨fun again => ?_, distinct⟩
    exact unseen _ again List.mem_cons_self
  · intro l member
    rcases List.mem_cons.1 member with rfl | member
    · exact fresh
    · exact fun before => unseen l member (List.mem_cons_of_mem _ before)

end

/-!
### The fault of each parsing function

The theorems follow the recursion of the parsing functions, with one case for each of the places
where they give up and one for each of the parts whose fault they pass on.
-/

/-- Another token than the one that is expected, or none. -/
theorem expect_fault {viable refused : List Token → Prop} {stack tokens : List Token}
    {finish : Position} {kind : TokenKind} {expected : Expectation} {e : ParseError}
    (other : expected ≠ .closeBrace) (live : viable [])
    (dead : ∀ token rest, token.kind ≠ kind → refused (token :: rest))
    (h : expect kind expected finish tokens = .error e) :
    Fault viable refused stack finish tokens e := by
  cases tokens with
  | nil =>
      cases h
      exact .ended other live
  | cons token tokens =>
      rw [expect] at h
      split at h
      · cases h
      · next wrong =>
        cases h
        exact .head expected live fun rest => dead token rest wrong

/-- A fault of the type that follows `List`, `Optional` or an opening parenthesis. -/
theorem Fault.inside {stack tokens : List Token} {finish : Position} {e : ParseError}
    {token : Token} (fault : Fault BeginsType RefusesType stack finish tokens e)
    (kind : token.kind = .listWord ∨ token.kind = .optionalWord ∨ token.kind = .openParen) :
    Fault BeginsType RefusesType stack finish (token :: tokens) e := by
  refine fault.within [token] ?_ (fun part _ begins => ?_) fun part _ dead => ?_
  · rcases kind with kind | kind | kind <;> simp [openBraces, braceStep, kind]
  · rcases kind with kind | kind | kind
    · exact begins.word (Or.inl kind)
    · exact begins.word (Or.inr kind)
    · exact begins.parens kind
  · have other : token.kind ≠ .name ∧ token.kind ≠ .openBrace := by
      rcases kind with kind | kind | kind <;> simp [kind]
    exact refusesType_cons other.1 (fun brace => absurd brace other.2) fun _ => dead

/-- Where reading the fields of a record gives up: at the first field, at what separates it from the
others, or further on. -/
inductive FieldsFailure (finish opening : Position) (seen : List String) (e : ParseError) :
    List Token → Prop where
  | noLabel {label : Token} {rest : List Token} (wrong : label.kind.isLabel = false)
      (error : e = .unexpected .fieldLabel finish (label :: rest)) :
      FieldsFailure finish opening seen e (label :: rest)
  | repeated {label : Token} {rest : List Token} (again : label.text ∈ seen)
      (error : e = ⟨.otherLabel label.text, some label.text, label.position⟩) :
      FieldsFailure finish opening seen e (label :: rest)
  | noColon {label : Token} {rest : List Token} (isLabel : label.kind.isLabel = true)
      (fresh : label.text ∉ seen) (missing : expect .colon .colon finish rest = .error e) :
      FieldsFailure finish opening seen e (label :: rest)
  | inType {label colon : Token} {rest : List Token} (isLabel : label.kind.isLabel = true)
      (fresh : label.text ∉ seen) (colonKind : colon.kind = .colon)
      (failed : parseType finish rest = .error e) :
      FieldsFailure finish opening seen e (label :: colon :: rest)
  | unclosed {label colon : Token} {used : List Token} {t : TypeExpr}
      (isLabel : label.kind.isLabel = true) (fresh : label.text ∉ seen)
      (colonKind : colon.kind = .colon) (derived : Derives used t)
      (error : e = ⟨.closeBrace, none, opening⟩) :
      FieldsFailure finish opening seen e (label :: colon :: used)
  | noSeparator {label colon separator : Token} {used rest : List Token} {t : TypeExpr}
      (isLabel : label.kind.isLabel = true) (fresh : label.text ∉ seen)
      (colonKind : colon.kind = .colon) (derived : Derives used t)
      (noBrace : separator.kind ≠ .closeBrace) (noComma : separator.kind ≠ .comma)
      (error : e = .unexpected .commaOrBrace finish (separator :: rest)) :
      FieldsFailure finish opening seen e (label :: colon :: (used ++ separator :: rest))
  | further {label colon comma : Token} {used rest : List Token} {t : TypeExpr}
      (isLabel : label.kind.isLabel = true) (fresh : label.text ∉ seen)
      (colonKind : colon.kind = .colon) (derived : Derives used t)
      (commaKind : comma.kind = .comma)
      (failed : parseMoreFields finish opening (label.text :: seen) rest = .error e) :
      FieldsFailure finish opening seen e (label :: colon :: (used ++ comma :: rest))

theorem parseMoreFields_eq_error {finish opening : Position} {seen : List String} {label : Token}
    {tokens : List Token} {e : ParseError}
    (h : parseMoreFields finish opening seen (label :: tokens) = .error e) :
    FieldsFailure finish opening seen e (label :: tokens) := by
  rw [parseMoreFields] at h
  split at h
  · next wrong => exact .noLabel wrong (Except.error.inj h).symm
  · next isLabel =>
    have isLabel : label.kind.isLabel = true := by simpa using isLabel
    split at h
    · next again => exact .repeated again (Except.error.inj h).symm
    · next fresh =>
      split at h
      · next missing => exact .noColon isLabel fresh (Except.error.inj h ▸ missing)
      · next after _ colonTaken =>
        obtain ⟨colon, colonKind, rfl⟩ : ∃ colon : Token, colon.kind = .colon ∧
          tokens = colon :: after := expect_eq_ok colonTaken
        split at h
        · next failed => exact .inType isLabel fresh colonKind (Except.error.inj h ▸ failed)
        · next t _ taken =>
          obtain ⟨used, split, derived⟩ := parseType_sound taken
          rw [List.append_nil] at split
          exact split ▸ .unclosed isLabel fresh colonKind derived (Except.error.inj h).symm
        · next t separator rest _ taken =>
          obtain ⟨used, rfl, derived⟩ : ∃ used, after = used ++ separator :: rest ∧
            Derives used t := parseType_sound taken
          split at h
          · cases h
          · next commaKind =>
            split at h
            · next failed =>
              exact .further isLabel fresh colonKind derived commaKind (Except.error.inj h ▸ failed)
            · cases h
          · next noBrace noComma =>
            exact .noSeparator isLabel fresh colonKind derived noBrace noComma
              (Except.error.inj h).symm

mutual

theorem parseType_fault {finish : Position} : ∀ {tokens : List Token} {e : ParseError},
    parseType finish tokens = .error e →
      ∀ stack, Fault BeginsType RefusesType stack finish tokens e
  | [], _, h, stack => by
      rw [parseType] at h
      cases h
      exact .ended (by simp) beginsType_nil
  | token :: tokens, e, h, stack => by
      rw [parseType] at h
      split at h
      · next kind =>
        split at h
        · next taken =>
          cases h
          have fault := parseFields_fault kind taken stack
          refine fault.within [token] ?_ (fun _ _ begins => begins) fun _ _ dead => ?_
          · simp [openBraces, braceStep, kind]
          · exact refusesType_cons (by simp [kind]) (fun _ => dead) (by simp [kind])
        · cases h
      · next kind =>
        split at h
        · next taken =>
          cases h
          exact (parseType_fault taken stack).inside (Or.inl kind)
        · cases h
      · next kind =>
        split at h
        · next taken =>
          cases h
          exact (parseType_fault taken stack).inside (Or.inr (Or.inl kind))
        · cases h
      · next kind =>
        split at h
        · next taken =>
          cases h
          exact (parseType_fault taken stack).inside (Or.inr (Or.inr kind))
        · next inner close shorter taken =>
          split at h
          · next missing =>
            cases h
            obtain ⟨used, split, derived⟩ := parseType_sound taken
            have fault : Fault (fun part => BeginsType (token :: used ++ part))
                (fun part => RefusesType (token :: used ++ part)) stack finish close e :=
              expect_fault (by simp) (by simpa using derived.beginsType.parens kind)
                (fun other rest wrong => refusesType_unclosed kind derived wrong rest) missing
            have front : openBraces stack (token :: used) = stack := by
              rw [openBraces_cons, derived.openBraces_eq]
              simp [braceStep, kind]
            rw [split]
            exact fault.within (token :: used) front (fun _ _ begins => begins) fun _ _ dead => dead
          · cases h
      · cases h
      all_goals
        next kind =>
          cases h
          refine .head _ beginsType_nil fun rest => ?_
          apply refusesType_head <;> simp [kind]
termination_by tokens => (tokens.length, 0)

theorem parseFields_fault {finish : Position} {brace : Token} (openKind : brace.kind = .openBrace) :
    ∀ {tokens : List Token} {e : ParseError}, parseFields finish brace.position tokens = .error e →
      ∀ stack, Fault (fun part => BeginsType (brace :: part)) RefusesRecord (brace :: stack) finish
        tokens e
  | [], _, h, stack => by
      rw [parseFields] at h
      cases h
      exact .unclosed (beginsType_brace openKind) rfl
  | token :: tokens, _, h, stack => by
      rw [parseFields] at h
      split at h
      · cases h
      · next noBrace =>
        have fault := parseMoreFields_fault h stack
        refine fault.within [] rfl (fun _ _ begins => begins.record openKind) ?_
        intro part same dead finish opening fields rest taken
        obtain ⟨others, rfl⟩ := List.head?_eq_some_iff.1 (same.trans List.head?_cons)
        exact dead _ _ _ _ ((parseFields_eq_parseMoreFields noBrace).symm.trans taken)
termination_by tokens => (tokens.length, 2)

theorem parseMoreFields_fault {finish : Position} {brace : Token} :
    ∀ {tokens : List Token} {seen : List String} {e : ParseError},
      parseMoreFields finish brace.position seen tokens = .error e →
        ∀ stack, Fault (BeginsFields seen) (RefusesFields seen) (brace :: stack) finish tokens e
  | [], seen, _, h, stack => by
      rw [parseMoreFields] at h
      cases h
      exact .unclosed (beginsFields_nil seen) rfl
  | label :: tokens, seen, e, h, stack => by
      cases parseMoreFields_eq_error h with
      | noLabel wrong error =>
          subst error
          refine .head _ (beginsFields_nil seen) fun rest finish opening fields others taken => ?_
          simp [(parseMoreFields_eq_ok taken).1] at wrong
      | repeated again error =>
          subst error
          refine .head _ (beginsFields_nil seen) fun rest finish opening fields others taken => ?_
          exact (parseMoreFields_eq_ok taken).2.1 again
      | noColon isLabel fresh missing =>
          have fault : Fault (fun part => BeginsFields seen (label :: part))
              (fun part => RefusesFields seen (label :: part)) (brace :: stack) finish tokens
                e := by
            refine expect_fault (by simp) (beginsFields_label isLabel fresh) ?_ missing
            intro other rest wrong finish opening fields others taken
            obtain ⟨_, _, _, _, _, _, _, isColon, split, _⟩ := parseMoreFields_eq_ok taken
            cases split
            exact wrong isColon
          refine fault.within [label] ?_ (fun _ _ begins => begins) fun _ _ dead => dead
          exact braceStep_of_isLabel isLabel _
      | @inType _ colon after isLabel fresh colonKind failed =>
          refine (parseType_fault failed (brace :: stack)).within [label, colon] ?_ ?_ ?_
          · exact openBraces_field isLabel colonKind _
          · exact fun _ _ begins => begins.field isLabel fresh colonKind
          · intro part _ dead finish opening fields others whole
            obtain ⟨_, _, _, _, _, _, _, _, split, ⟨_, taken⟩, _⟩ := parseMoreFields_eq_ok whole
            cases split
            exact dead _ _ _ taken
      | unclosed isLabel fresh colonKind derived error =>
          subst error
          have field := DerivesField.field (isLabel_iff.1 isLabel) colonKind derived
          have live := derived.beginsType.field isLabel fresh colonKind
          exact .unclosed live (field.openBraces_eq (brace :: stack))
      | @noSeparator _ colon separator used rest _ isLabel fresh colonKind derived noBrace noComma
          error =>
          subst error
          have live := derived.beginsType.field isLabel fresh colonKind
          refine Fault.token live fun more finish opening fields others whole => ?_
          rcases parseMoreFields_behind_type derived whole with kind | ⟨kind, _⟩
          · exact noBrace kind
          · exact noComma kind
      | @further _ colon comma used rest t isLabel fresh colonKind derived commaKind failed =>
          have fault := parseMoreFields_fault failed stack
          have field : DerivesField (label :: colon :: used) (label.text, t) :=
            .field (isLabel_iff.1 isLabel) colonKind derived
          have front : openBraces (brace :: stack) (label :: colon :: (used ++ [comma])) =
              brace :: stack := by
            rw [← List.cons_append, ← List.cons_append, openBraces_append, field.openBraces_eq]
            simp [openBraces, braceStep, commaKind]
          have shape : ∀ part, label :: colon :: (used ++ [comma]) ++ part =
              label :: colon :: (used ++ comma :: part) := by simp
          rw [← shape]
          refine fault.within _ front (fun part _ begins => ?_) fun part _ dead => ?_
          · rw [shape]
            exact begins.behind isLabel fresh colonKind derived commaKind
          · rw [shape]
            intro finish opening fields others whole
            rcases parseMoreFields_behind_type derived whole with kind | ⟨_, _, _, taken⟩
            · simp [commaKind] at kind
            · exact dead _ _ _ _ taken
termination_by tokens => (tokens.length, 1)

end

/-!
### Complete texts
-/

/-- Some tokens can follow with which the text is accepted. -/
def Completable (parser : Lexed → Except ParseError TypeExpr) (tokens : List Token) : Prop :=
  ∃ more finish t, parser ⟨tokens ++ more, finish⟩ = .ok t

/-- The error stands at the first token of the text that cannot be right, or, if all of them can, at
the end of the text or at the innermost brace that is still open there. -/
structure FaultsFirst (parser : Lexed → Except ParseError TypeExpr) (text : Lexed)
    (e : ParseError) : Prop where
  atToken : e.describeActual ≠ "end of input" → ∃ before token after,
    text.tokens = before ++ token :: after ∧ e.position = token.position ∧
      e.describeActual = quotedLiteral token.text ∧ Completable parser before ∧
        ¬Completable parser (before ++ [token])
  atEnd : e.describeActual = "end of input" → Completable parser text.tokens ∧
    (e.expected ≠ .closeBrace ∧ e.position = text.finish ∨
      e.expected = .closeBrace ∧ ∃ brace outer,
        openBraces [] text.tokens = brace :: outer ∧ e.position = brace.position)

/-- A literal begins with a quote, unlike the description of the end. -/
theorem quotedLiteral_ne_end (text : String) : quotedLiteral text ≠ "end of input" := by
  intro same
  have first := congrArg (fun s => s.toList.head?) same
  simp only [quotedLiteral, QuotedLiteral.quoteFor, String.toList_ofList] at first
  split at first <;> cases first

theorem Fault.faultsFirst {viable refused : List Token → Prop} {text : Lexed} {e : ParseError}
    {parser : Lexed → Except ParseError TypeExpr}
    (fault : Fault viable refused [] text.finish text.tokens e)
    (live : ∀ tokens, viable tokens → Completable parser tokens)
    (dead : ∀ tokens, refused tokens → ∀ finish t, parser ⟨tokens, finish⟩ ≠ .ok t) :
    FaultsFirst parser text e := by
  obtain ⟨tokens, finish⟩ := text
  cases fault with
  | @token before after token _ viable refused =>
      refine ⟨fun _ => ⟨before, token, after, rfl, rfl, rfl, live _ viable, ?_⟩, fun same => ?_⟩
      · rintro ⟨more, finish, t, accepted⟩
        rw [List.append_assoc] at accepted
        exact dead _ (refused more) finish t accepted
      · exact absurd same (quotedLiteral_ne_end token.text)
  | ended other viable =>
      exact ⟨fun different => absurd rfl different, fun _ => ⟨live _ viable, Or.inl ⟨other, rfl⟩⟩⟩
  | unclosed viable innermost =>
      refine ⟨fun different => absurd rfl different, fun _ => ⟨live _ viable, Or.inr ⟨rfl, ?_⟩⟩⟩
      exact ⟨_, _, innermost, rfl⟩

theorem BeginsType.completable {tokens : List Token} (begins : BeginsType tokens) :
    Completable parseTokens tokens := by
  obtain ⟨more, t, derived⟩ := begins
  exact ⟨more, .start, t, parseTokens_eq_ok_iff.2 derived⟩

/-- The tokens are not all of a text that denotes a type. -/
def RefusesText (tokens : List Token) : Prop :=
  ∀ finish t, parseTokens ⟨tokens, finish⟩ ≠ .ok t

theorem RefusesType.text {tokens : List Token} (dead : RefusesType tokens) :
    RefusesText tokens := by
  intro finish t accepted
  rw [parseTokens] at accepted
  split at accepted
  · cases accepted
  · next taken => exact dead _ _ _ taken
  · cases accepted

theorem parseTokens_fault {text : Lexed} {e : ParseError} (h : parseTokens text = .error e) :
    Fault BeginsType RefusesText [] text.finish text.tokens e := by
  rw [parseTokens] at h
  split at h
  · next failed =>
    cases h
    have fault := parseType_fault failed []
    exact fault.within [] rfl (fun _ _ begins => begins) fun _ _ dead => dead.text
  · cases h
  · next t token rest _ taken =>
    cases h
    obtain ⟨used, split, derived⟩ : ∃ used, text.tokens = used ++ token :: rest ∧
      Derives used t := parseType_sound taken
    rw [split]
    refine .token derived.beginsType fun more finish t' accepted => ?_
    obtain ⟨_, taken⟩ := parseType_complete finish derived (token :: more) rfl
    simp only [parseTokens, taken] at accepted
    cases accepted

theorem parseTokens_faultsFirst {text : Lexed} {e : ParseError} (h : parseTokens text = .error e) :
    FaultsFirst parseTokens text e :=
  (parseTokens_fault h).faultsFirst (fun _ begins => begins.completable) fun _ dead => dead

/-- The tokens begin a record type, or there are none yet. -/
def BeginsRecord (tokens : List Token) : Prop :=
  BeginsType tokens ∧ ∀ token ∈ tokens.head?, token.kind = .openBrace

theorem BeginsRecord.completable {tokens : List Token} (begins : BeginsRecord tokens) :
    Completable parseRecordTokens tokens := by
  obtain ⟨⟨more, t, derived⟩, head⟩ := begins
  cases tokens with
  | nil =>
      have brace : Derives [⟨.openBrace, "\x7b", .start⟩, closingBrace] (.record []) :=
        .emptyRecord rfl rfl
      exact ⟨_, .start, _, parseRecordTokens_eq_ok_iff.2 ⟨brace, _, _, rfl, rfl⟩⟩
  | cons token tokens =>
      have kind : token.kind = .openBrace := head token rfl
      exact ⟨more, .start, t, parseRecordTokens_eq_ok_iff.2 ⟨derived, token, _, rfl, kind⟩⟩

theorem parseRecordTokens_cons {token : Token} (kind : token.kind = .openBrace)
    (tokens : List Token) (finish : Position) :
    parseRecordTokens ⟨token :: tokens, finish⟩ = parseTokens ⟨token :: tokens, finish⟩ := by
  obtain ⟨_, text, position⟩ := token
  subst kind
  rfl

theorem parseRecordTokens_of_ne {token : Token} (kind : token.kind ≠ .openBrace)
    (tokens : List Token) (finish : Position) :
    parseRecordTokens ⟨token :: tokens, finish⟩ =
      .error ⟨.recordAtRoot, some token.text, token.position⟩ := by
  obtain ⟨k, text, position⟩ := token
  cases k with
  | openBrace => exact absurd rfl kind
  | _ => rfl

theorem parseRecordTokens_fault {text : Lexed} {e : ParseError}
    (h : parseRecordTokens text = .error e) :
    Fault BeginsRecord (fun tokens => ∀ finish t, parseRecordTokens ⟨tokens, finish⟩ ≠ .ok t) []
      text.finish text.tokens e := by
  obtain ⟨tokens, finish⟩ := text
  have empty : BeginsRecord [] := ⟨beginsType_nil, by simp⟩
  cases tokens with
  | nil =>
      cases h
      exact .ended (by simp) empty
  | cons first others =>
      by_cases kind : first.kind = .openBrace
      · rw [parseRecordTokens_cons kind] at h
        refine (parseTokens_fault h).within [] rfl (fun part front begins => ⟨begins, ?_⟩) ?_
        · intro token member
          obtain ⟨more, split⟩ := front
          cases part with
          | nil => cases member
          | cons head part =>
              cases member
              cases split
              exact kind
        · intro part same dead finish t accepted
          obtain ⟨more, rfl⟩ := List.head?_eq_some_iff.1 (same.trans List.head?_cons)
          exact dead finish t ((parseRecordTokens_cons kind more finish).symm.trans accepted)
      · cases (parseRecordTokens_of_ne kind others finish).symm.trans h
        refine .head _ empty fun rest finish t accepted => ?_
        cases (parseRecordTokens_of_ne kind rest finish).symm.trans accepted

theorem parseRecordTokens_faultsFirst {text : Lexed} {e : ParseError}
    (h : parseRecordTokens text = .error e) : FaultsFirst parseRecordTokens text e :=
  (parseRecordTokens_fault h).faultsFirst (fun _ begins => begins.completable) fun _ dead => dead

/-- Parse errors point at the first token that cannot be right, where any type is asked for and
where a record is. -/
theorem error_at_first_fault {text : Lexed} {e : ParseError} :
    (parseTokens text = .error e → FaultsFirst parseTokens text e) ∧
      (parseRecordTokens text = .error e → FaultsFirst parseRecordTokens text e) :=
  ⟨parseTokens_faultsFirst, parseRecordTokens_faultsFirst⟩

/-- A label that its record has already, and a record that is never closed behind one that is. -/
theorem error_at_first_fault_nested :
    let repeated : Lexed :=
      ⟨[⟨.openBrace, "\x7b", ⟨0, 1, 1⟩⟩, ⟨.name, "a", ⟨1, 1, 2⟩⟩, ⟨.colon, ":", ⟨2, 1, 3⟩⟩,
        ⟨.openBrace, "\x7b", ⟨3, 1, 4⟩⟩, ⟨.closeBrace, "\x7d", ⟨4, 1, 5⟩⟩, ⟨.comma, ",", ⟨5, 1, 6⟩⟩,
        ⟨.name, "a", ⟨6, 1, 7⟩⟩], ⟨7, 1, 8⟩⟩
    let again : ParseError := ⟨.otherLabel "a", some "a", ⟨6, 1, 7⟩⟩
    let unclosed : Lexed :=
      ⟨[⟨.listWord, "List", ⟨0, 1, 1⟩⟩, ⟨.openBrace, "\x7b", ⟨4, 1, 5⟩⟩, ⟨.name, "a", ⟨5, 1, 6⟩⟩,
        ⟨.colon, ":", ⟨6, 1, 7⟩⟩, ⟨.openBrace, "\x7b", ⟨7, 1, 8⟩⟩,
        ⟨.closeBrace, "\x7d", ⟨8, 1, 9⟩⟩], ⟨9, 1, 10⟩⟩
    let open' : ParseError := ⟨.closeBrace, none, ⟨4, 1, 5⟩⟩
    (lex "\x7ba:\x7b\x7d,a" = .ok repeated ∧ parseRecordTokens repeated = .error again ∧
        FaultsFirst parseRecordTokens repeated again) ∧
      lex "List\x7ba:\x7b\x7d" = .ok unclosed ∧ parseTokens unclosed = .error open' ∧
        FaultsFirst parseTokens unclosed open' := by
  intro repeated again unclosed open'
  have first : parseRecordTokens repeated = .error again := by cbv
  have second : parseTokens unclosed = .error open' := by cbv
  exact ⟨⟨by cbv, first, error_at_first_fault.2 first⟩, by cbv, second,
    error_at_first_fault.1 second⟩

end TypedManifests.TypeExpr

/-
Module: TypedManifests.Proofs.TokenIndex
Purpose: A parser that holds the tokens in one table, with a mark at the end, and moves an index
  over it. It could look behind the table, and it builds records that could be refused for a
  repeated label. It does neither: at every index that it reaches it does what the parser does with
  the tokens from this index on, so it ends with the same type or the same fault.
Main exports: StepError, Lexed.tape, typeAt, Follows, typeAt_follows, parseByIndex_eq,
  parseRecordByIndex_eq
-/
import TypedManifests.Proofs.CheckedRecords
import TypedManifests.Proofs.Grammar

namespace TypedManifests.TypeExpr

open TypedManifests.Text

/-- What a step can fail with: a fault of the text, an index behind the table of tokens, a record
that repeats a label, or an item that lacks the field by which its list is keyed. -/
inductive StepError where
  | read (error : ReadError)
  | noToken (index : Nat)
  | repeatedLabel (label : String)
  | noEntry (field : String)
deriving DecidableEq, Repr

/-!
### The table and its index
-/

/-- The tokens of a text and the mark at its end. -/
def Lexed.tape (l : Lexed) : List (Option Token) := l.tokens.map some ++ [none]

/-- The fault of a text that has something else than expected at an index. -/
def StepError.unexpected (l : Lexed) (expected : Expectation) : Option Token → StepError
  | none => .read (.parse (.unexpected expected l.finish []))
  | some token => .read (.parse (.unexpected expected l.finish [token]))

/-- The index behind what was taken at `i`. -/
abbrev Next (i : Nat) := { next : Nat // i < next }

/-- Takes one token of the given kind. -/
def expectAt (l : Lexed) (kind : TokenKind) (expected : Expectation) (i : Nat) :
    Except StepError (Next i) :=
  if inside : i < l.tape.length then
    match l.tape[i] with
    | none => .error (.unexpected l expected none)
    | some token =>
      if token.kind = kind then .ok ⟨i + 1, by omega⟩
      else .error (.unexpected l expected (some token))
  else .error (.noToken i)

mutual

/-- Takes the type that begins at `i`. -/
def typeAt (l : Lexed) (i : Nat) : Except StepError (TypeExpr × Next i) :=
  if inside : i < l.tape.length then
    match l.tape[i] with
    | none => .error (.unexpected l .typeExpr none)
    | some token =>
      match token.kind with
      | .openBrace =>
        match fieldsAt l token.position (i + 1) with
        | .error e => .error e
        | .ok (t, ⟨next, _⟩) => .ok (t, ⟨next, by omega⟩)
      | .listWord =>
        match typeAt l (i + 1) with
        | .error e => .error e
        | .ok (element, ⟨next, _⟩) => .ok (.list element, ⟨next, by omega⟩)
      | .optionalWord =>
        match typeAt l (i + 1) with
        | .error e => .error e
        | .ok (inner, ⟨next, _⟩) => .ok (.optional inner, ⟨next, by omega⟩)
      | .openParen =>
        match typeAt l (i + 1) with
        | .error e => .error e
        | .ok (inner, ⟨close, _⟩) =>
          match expectAt l .closeParen .closeParen close with
          | .error e => .error e
          | .ok ⟨next, _⟩ => .ok (inner, ⟨next, by omega⟩)
      | .name => .ok (.scalar token.text, ⟨i + 1, by omega⟩)
      | _ => .error (.unexpected l .typeExpr (some token))
  else .error (.noToken i)
termination_by (l.tape.length - i, 0)
decreasing_by all_goals simp [Prod.lex_def]; omega

/-- Takes what follows the brace that opened a record at `opening`, and builds the record. -/
def fieldsAt (l : Lexed) (opening : Position) (i : Nat) : Except StepError (TypeExpr × Next i) :=
  if inside : i < l.tape.length then
    match l.tape[i] with
    | none => .error (.read (.parse ⟨.closeBrace, none, opening⟩))
    | some token =>
      if token.kind = .closeBrace then
        match ofFields [] with
        | .error label => .error (.repeatedLabel label)
        | .ok t => .ok (t, ⟨i + 1, by omega⟩)
      else moreFieldsAt l opening [] [] i
  else .error (.noToken i)
termination_by (l.tape.length - i, 2)
decreasing_by all_goals simp [Prod.lex_def]

/-- Takes at least one field and what follows it; `seen` are the labels that were met, `fields` the
fields that were taken. -/
def moreFieldsAt (l : Lexed) (opening : Position) (seen : List String) (fields : Fields) (i : Nat) :
    Except StepError (TypeExpr × Next i) :=
  if inside : i < l.tape.length then
    match l.tape[i] with
    | none => .error (.read (.parse ⟨.closeBrace, none, opening⟩))
    | some label =>
      if label.kind.isLabel = false then .error (.unexpected l .fieldLabel (some label))
      else if label.text ∈ seen then
        .error (.read (.parse ⟨.otherLabel label.text, some label.text, label.position⟩))
      else
        match expectAt l .colon .colon (i + 1) with
        | .error e => .error e
        | .ok ⟨afterColon, _⟩ =>
          match typeAt l afterColon with
          | .error e => .error e
          | .ok (type, ⟨separator, _⟩) =>
            if within : separator < l.tape.length then
              match l.tape[separator] with
              | none => .error (.read (.parse ⟨.closeBrace, none, opening⟩))
              | some token =>
                match token.kind with
                | .closeBrace =>
                  match ofFields (fields ++ [(label.text, type)]) with
                  | .error label => .error (.repeatedLabel label)
                  | .ok t => .ok (t, ⟨separator + 1, by omega⟩)
                | .comma =>
                  match moreFieldsAt l opening (label.text :: seen)
                      (fields ++ [(label.text, type)]) (separator + 1) with
                  | .error e => .error e
                  | .ok (t, ⟨next, _⟩) => .ok (t, ⟨next, by omega⟩)
                | _ => .error (.unexpected l .commaOrBrace (some token))
            else .error (.noToken separator)
  else .error (.noToken i)
termination_by (l.tape.length - i, 1)
decreasing_by all_goals simp [Prod.lex_def]; omega

end

/-- A complete text of one type. -/
def typeOfTape (l : Lexed) : Except StepError TypeExpr :=
  match typeAt l 0 with
  | .error e => .error e
  | .ok (t, ⟨next, _⟩) =>
    match l.tape[next]? with
    | none => .error (.noToken next)
    | some none => .ok t
    | some (some token) => .error (.unexpected l .endOfText (some token))

/-- A complete text of one type that is a record. -/
def recordOfTape (l : Lexed) : Except StepError TypeExpr :=
  match l.tape[0]? with
  | none => .error (.noToken 0)
  | some none => .error (.unexpected l .recordAtRoot none)
  | some (some token) =>
    if token.kind = .openBrace then typeOfTape l
    else .error (.unexpected l .recordAtRoot (some token))

/-- The type that a text denotes, read by index. -/
def parseByIndex (source : String) : Except StepError TypeExpr :=
  match lex source with
  | .error e => .error (.read (.lex e))
  | .ok lexed => typeOfTape lexed

/-- The record type that a text denotes, read by index. -/
def parseRecordByIndex (source : String) : Except StepError TypeExpr :=
  match lex source with
  | .error e => .error (.read (.lex e))
  | .ok lexed => recordOfTape lexed

/-!
### One step

What stands at an index is told by the tokens from this index on.
-/

section Tape

variable {l : Lexed} {i : Nat}

theorem tape_length (l : Lexed) : l.tape.length = l.tokens.length + 1 := by
  simp [Lexed.tape]

/-- Behind the last token there is the mark. -/
theorem tape_of_drop_nil (inside : i ≤ l.tokens.length) (left : l.tokens.drop i = []) :
    ∃ within : i < l.tape.length, l.tape[i] = none := by
  have atEnd : i = l.tokens.length := by
    have := List.drop_eq_nil_iff.1 left
    omega
  refine ⟨by rw [tape_length]; omega, ?_⟩
  simp [Lexed.tape, atEnd]

theorem tape_of_drop_cons {token : Token} {rest : List Token}
    (left : l.tokens.drop i = token :: rest) :
    ∃ within : i < l.tape.length, l.tape[i] = some token ∧ i + 1 ≤ l.tokens.length ∧
      l.tokens.drop (i + 1) = rest := by
  have more : i < l.tokens.length := by
    by_contra beyond
    rw [List.drop_eq_nil_of_le (by omega)] at left
    cases left
  have same := List.drop_eq_getElem_cons more
  rw [left, List.cons.injEq] at same
  refine ⟨by rw [tape_length]; omega, ?_, more, same.2.symm⟩
  simp [Lexed.tape, more, same.1]

end Tape

/-- The two parsers took the same, of which the second one made `make`, and go on with the same
tokens; or they failed with the same fault. -/
inductive Follows (l : Lexed) {α : Type} (make : α → TypeExpr) {tokens : List Token} {i : Nat} :
    Except ParseError (α × Rest tokens) → Except StepError (TypeExpr × Next i) → Prop where
  | refused (e : ParseError) : Follows l make (.error e) (.error (.read (.parse e)))
  | taken (a : α) {rest : List Token} {next : Nat} (shorter : rest.length < tokens.length)
      (further : i < next) (inside : next ≤ l.tokens.length) (left : l.tokens.drop next = rest) :
      Follows l make (.ok (a, ⟨rest, shorter⟩)) (.ok (make a, ⟨next, further⟩))

/-- The same where nothing but one token is taken. -/
inductive Steps (l : Lexed) {tokens : List Token} {i : Nat} :
    Except ParseError (Rest tokens) → Except StepError (Next i) → Prop where
  | refused (e : ParseError) : Steps l (.error e) (.error (.read (.parse e)))
  | taken {rest : List Token} {next : Nat} (shorter : rest.length < tokens.length)
      (further : i < next) (inside : next ≤ l.tokens.length) (left : l.tokens.drop next = rest) :
      Steps l (.ok ⟨rest, shorter⟩) (.ok ⟨next, further⟩)

theorem expectAt_steps {l : Lexed} {i : Nat} {tokens : List Token} (kind : TokenKind)
    (expected : Expectation) (inside : i ≤ l.tokens.length) (left : l.tokens.drop i = tokens) :
    Steps l (expect kind expected l.finish tokens) (expectAt l kind expected i) := by
  cases tokens with
  | nil =>
      obtain ⟨within, there⟩ := tape_of_drop_nil inside left
      rw [expect, expectAt, dif_pos within, there]
      exact .refused _
  | cons token rest =>
      obtain ⟨within, there, further, after⟩ := tape_of_drop_cons left
      rw [expect, expectAt, dif_pos within, there]
      by_cases right : token.kind = kind
      · simp only [if_pos right]
        exact .taken _ _ further after
      · simp only [if_neg right]
        exact .refused _

/-- The labels that were met are those of the fields that were taken, and they are different. -/
structure Tracks (seen : List String) (fields : Fields) : Prop where
  met : ∀ label, label ∈ seen ↔ label ∈ labels fields
  nodup : (labels fields).Nodup

namespace Tracks

theorem nil : Tracks [] [] := ⟨by simp [labels], .nil⟩

/-- A field with a label that was not met may be taken. -/
theorem concat {seen : List String} {fields : Fields} (tracks : Tracks seen fields) {label : String}
    (fresh : label ∉ seen) (t : TypeExpr) :
    Tracks (label :: seen) (fields ++ [(label, t)]) := by
  have split : labels (fields ++ [(label, t)]) = labels fields ++ [label] := by simp [labels]
  constructor
  · intro other
    rw [split, List.mem_cons, List.mem_append, List.mem_singleton, tracks.met, or_comm]
  · rw [split, List.nodup_append]
    refine ⟨tracks.nodup, List.nodup_singleton _, ?_⟩
    intro first member second same
    rw [List.mem_singleton.1 same]
    rintro rfl
    exact fresh ((tracks.met _).2 member)

end Tracks

mutual

theorem typeAt_follows {l : Lexed} {i : Nat} : ∀ {tokens : List Token},
    i ≤ l.tokens.length → l.tokens.drop i = tokens →
      Follows l id (parseType l.finish tokens) (typeAt l i)
  | [], inside, left => by
      obtain ⟨within, there⟩ := tape_of_drop_nil inside left
      rw [parseType, typeAt, dif_pos within, there]
      exact .refused _
  | token :: rest, inside, left => by
      obtain ⟨within, there, further, after⟩ := tape_of_drop_cons left
      rw [parseType, typeAt, dif_pos within, there]
      cases kind : token.kind with
      | openBrace =>
          have fields := fieldsAt_follows token.position further after
          simp only [kind]
          -- A name for each result lets the cases of the relation decide both matches at once.
          generalize parseFields l.finish token.position rest = one at fields
          generalize fieldsAt l token.position (i + 1) = two at fields
          cases fields with
          | refused e => exact .refused e
          | taken fields _ _ inside left => exact .taken (TypeExpr.record fields) _ _ inside left
      | listWord =>
          have element := typeAt_follows further after
          simp only [kind]
          generalize parseType l.finish rest = one at element
          generalize typeAt l (i + 1) = two at element
          cases element with
          | refused e => exact .refused e
          | taken t _ _ inside left => exact .taken (TypeExpr.list t) _ _ inside left
      | optionalWord =>
          have inner := typeAt_follows further after
          simp only [kind]
          generalize parseType l.finish rest = one at inner
          generalize typeAt l (i + 1) = two at inner
          cases inner with
          | refused e => exact .refused e
          | taken t _ _ inside left => exact .taken (TypeExpr.optional t) _ _ inside left
      | openParen =>
          have inner := typeAt_follows further after
          simp only [kind]
          generalize parseType l.finish rest = one at inner
          generalize typeAt l (i + 1) = two at inner
          cases inner with
          | refused e => exact .refused e
          | @taken t rest next _ _ inside left =>
              have close := expectAt_steps .closeParen .closeParen inside left
              simp only
              generalize expect .closeParen .closeParen l.finish rest = one at close
              generalize expectAt l .closeParen .closeParen next = two at close
              cases close with
              | refused e => exact .refused e
              | taken _ _ inside left => exact .taken t _ _ inside left
      | name =>
          simp only [kind]
          exact .taken (TypeExpr.scalar token.text) _ _ further after
      | closeBrace | colon | comma | closeParen =>
          simp only [kind]
          exact .refused _
termination_by tokens => (tokens.length, 0)

theorem fieldsAt_follows {l : Lexed} {i : Nat} (opening : Position) : ∀ {tokens : List Token},
    i ≤ l.tokens.length → l.tokens.drop i = tokens →
      Follows l TypeExpr.record (parseFields l.finish opening tokens) (fieldsAt l opening i)
  | [], inside, left => by
      obtain ⟨within, there⟩ := tape_of_drop_nil inside left
      rw [parseFields, fieldsAt, dif_pos within, there]
      exact .refused _
  | token :: rest, inside, left => by
      obtain ⟨within, there, further, after⟩ := tape_of_drop_cons left
      rw [parseFields, fieldsAt, dif_pos within, there]
      by_cases closed : token.kind = .closeBrace
      · simp only [if_pos closed]
        exact .taken [] _ _ further after
      · simp only [if_neg closed]
        exact moreFieldsAt_follows opening .nil inside left
termination_by tokens => (tokens.length, 2)

theorem moreFieldsAt_follows {l : Lexed} {i : Nat} {seen : List String} {fields : Fields}
    (opening : Position) (tracks : Tracks seen fields) : ∀ {tokens : List Token},
    i ≤ l.tokens.length → l.tokens.drop i = tokens →
      Follows l (fun more => .record (fields ++ more))
        (parseMoreFields l.finish opening seen tokens) (moreFieldsAt l opening seen fields i)
  | [], inside, left => by
      obtain ⟨within, there⟩ := tape_of_drop_nil inside left
      rw [parseMoreFields, moreFieldsAt, dif_pos within, there]
      exact .refused _
  | label :: rest, inside, left => by
      obtain ⟨within, there, further, after⟩ := tape_of_drop_cons left
      rw [parseMoreFields, moreFieldsAt, dif_pos within, there]
      by_cases noLabel : label.kind.isLabel = false
      · simp only [if_pos noLabel]
        exact .refused _
      by_cases again : label.text ∈ seen
      · simp only [if_neg noLabel, if_pos again]
        exact .refused _
      simp only [if_neg noLabel, if_neg again]
      have colon := expectAt_steps .colon .colon further after
      generalize expect .colon .colon l.finish rest = one at colon
      generalize expectAt l .colon .colon (i + 1) = two at colon
      cases colon with
      | refused e => exact .refused e
      | @taken afterColon next _ _ inside left =>
          have type := typeAt_follows inside left
          simp only
          generalize parseType l.finish afterColon = one at type
          generalize typeAt l next = two at type
          cases type with
          | refused e => exact .refused e
          | @taken t others next _ _ inside left =>
              have tracks' := tracks.concat again t
              simp only [id_eq]
              cases others with
              | nil =>
                  obtain ⟨within, there⟩ := tape_of_drop_nil inside left
                  simp only [dif_pos within, there]
                  exact .refused _
              | cons separator more =>
                  obtain ⟨within, there, further, after⟩ := tape_of_drop_cons left
                  simp only [dif_pos within, there]
                  cases kind : separator.kind with
                  | closeBrace =>
                      -- The labels were compared one by one, so the record is not refused.
                      simp only [ofFields_of_nodup tracks'.nodup]
                      exact .taken [(label.text, t)] _ _ further after
                  | comma =>
                      have rest := moreFieldsAt_follows opening tracks' further after
                      simp only
                      generalize parseMoreFields l.finish opening _ more = one at rest
                      generalize moreFieldsAt l opening _ _ (next + 1) = two at rest
                      cases rest with
                      | refused e => exact .refused e
                      | taken taken _ _ inside left =>
                          simp only [List.append_assoc]
                          exact .taken ((label.text, t) :: taken) _ _ inside left
                  | _ => exact .refused _
termination_by tokens => (tokens.length, 1)
decreasing_by
  all_goals
    apply Prod.Lex.left
    simp only [List.length_cons] at *
    omega

end

/-!
### Texts
-/

theorem typeOfTape_eq (l : Lexed) :
    typeOfTape l = (parseTokens l).mapError fun e => .read (.parse e) := by
  have whole := @typeAt_follows l 0 l.tokens (Nat.zero_le _) List.drop_zero
  rw [typeOfTape, parseTokens]
  generalize parseType l.finish l.tokens = one at whole
  generalize typeAt l 0 = two at whole
  cases whole with
  | refused e => rfl
  | @taken t rest next _ _ inside left =>
      cases rest with
      | nil =>
          obtain ⟨within, there⟩ := tape_of_drop_nil inside left
          simp only [List.getElem?_eq_getElem within, there]
          rfl
      | cons token rest =>
          obtain ⟨within, there, _, _⟩ := tape_of_drop_cons left
          simp only [List.getElem?_eq_getElem within, there]
          rfl

theorem recordOfTape_eq (l : Lexed) :
    recordOfTape l = (parseRecordTokens l).mapError fun e => .read (.parse e) := by
  rw [recordOfTape, parseRecordTokens]
  cases tokens : l.tokens with
  | nil => simp [Lexed.tape, tokens, StepError.unexpected, Except.mapError]
  | cons token rest =>
      have first : l.tape[0]? = some (some token) := by simp [Lexed.tape, tokens]
      obtain ⟨kind, text, position⟩ := token
      simp only [first]
      cases kind with
      | openBrace => exact typeOfTape_eq l
      | _ => rfl

theorem parseByIndex_eq (source : String) :
    parseByIndex source = (parse source).mapError .read := by
  rw [parseByIndex, parse]
  cases lex source with
  | error e => rfl
  | ok lexed =>
      simp only [typeOfTape_eq]
      cases parseTokens lexed <;> rfl

theorem parseRecordByIndex_eq (source : String) :
    parseRecordByIndex source = (parseRecord source).mapError .read := by
  rw [parseRecordByIndex, parseRecord]
  cases lex source with
  | error e => rfl
  | ok lexed =>
      simp only [recordOfTape_eq]
      cases parseRecordTokens lexed <;> rfl

end TypedManifests.TypeExpr

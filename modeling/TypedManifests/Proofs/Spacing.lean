/-
Module: TypedManifests.Proofs.Spacing
Purpose: White space between the lexemes of a type text says nothing. Two texts that are spelled by
  the same lexemes have the same tokens but for their positions, and the parser, which looks at
  positions only to report them, makes the same of both.
Main exports: Lexeme, Written, Spaced, Spaced.reads, exists_spaced, SaySame, Alike, parseType_alike,
  SameOutcome, respaced_denotes_same
-/
import TypedManifests.Proofs.Positions

namespace TypedManifests

/-!
### White space and words
-/

namespace Text

/-- A code point lies in no range of a table all of whose ranges are apart from those of another one
that it lies in. -/
theorem inRanges_of_apart {table others : List (Nat × Nat)} {code : Nat}
    (apart : ∀ a ∈ table, ∀ b ∈ others, a.2 < b.1 ∨ b.2 < a.1)
    (inside : inRanges table code = true) : inRanges others code = false := by
  obtain ⟨a, listed, within⟩ := List.any_eq_true.1 inside
  rw [Bool.and_eq_true, decide_eq_true_eq, decide_eq_true_eq] at within
  refine List.any_eq_false.2 fun b other inOther => ?_
  rw [Bool.and_eq_true, decide_eq_true_eq, decide_eq_true_eq] at inOther
  have := apart a listed b other
  omega

theorem blankRanges_apart_letterRanges :
    ∀ a ∈ blankRanges, ∀ b ∈ letterRanges, a.2 < b.1 ∨ b.2 < a.1 := by decide +kernel

theorem blankRanges_apart_numeralRanges :
    ∀ a ∈ blankRanges, ∀ b ∈ numeralRanges, a.2 < b.1 ∨ b.2 < a.1 := by decide +kernel

/-- The code points of ASCII letters. -/
theorem toNat_of_isAsciiLetter {c : Char} (h : isAsciiLetter c = true) :
    65 ≤ c.toNat ∧ c.toNat ≤ 90 ∨ 97 ≤ c.toNat ∧ c.toNat ≤ 122 := by
  simp only [isAsciiLetter, Bool.or_eq_true, Bool.and_eq_true, decide_eq_true_eq, Char.le_def,
    UInt32.le_iff_toNat_le] at h
  exact h.symm

theorem toNat_of_isAsciiDigit {c : Char} (h : isAsciiDigit c = true) :
    48 ≤ c.toNat ∧ c.toNat ≤ 57 := by
  simp only [isAsciiDigit, Bool.and_eq_true, decide_eq_true_eq, Char.le_def,
    UInt32.le_iff_toNat_le] at h
  exact h

theorem isAlphanumeric_of_isBlank {c : Char} (blank : isBlank c = true) :
    isAlphanumeric c = false := by
  unfold isBlank at blank
  unfold isAlphanumeric
  split at blank
  · next ascii =>
    simp only [Bool.or_eq_true, Bool.and_eq_true, decide_eq_true_eq] at blank
    rw [if_pos ascii, Bool.or_eq_false_iff, Bool.eq_false_iff, Bool.eq_false_iff]
    constructor
    · intro letter
      have bounds := toNat_of_isAsciiLetter letter
      omega
    · intro digit
      have bounds := toNat_of_isAsciiDigit digit
      omega
  · next beyond =>
    rw [if_neg beyond, inRanges_of_apart blankRanges_apart_letterRanges blank,
      inRanges_of_apart blankRanges_apart_numeralRanges blank]
    rfl

end Text

namespace TypeExpr

open TypedManifests.Text

theorem isLabelChar_of_isBlank {c : Char} (blank : isBlank c = true) : isLabelChar c = false := by
  have plain : c ≠ '_' ∧ c ≠ '-' ∧ c ≠ '/' := by
    refine ⟨?_, ?_, ?_⟩ <;> rintro rfl <;> exact absurd blank (by decide)
  simp [isLabelChar, plain, isAlphanumeric_of_isBlank blank]

theorem isLabelChar_of_isLabelStart {c : Char} (start : isLabelStart c = true) :
    isLabelChar c = true := by
  rcases (by simpa [isLabelStart] using start : c = '_' ∨ isLetter c = true) with rfl | letter
  · decide
  · have alphanumeric : isAlphanumeric c = true := by
      unfold isLetter at letter
      unfold isAlphanumeric
      split at letter <;> simp_all
    simp [isLabelChar, alphanumeric]

theorem isLabelChar_of_symbolKind? {c : Char} {kind : TokenKind} (h : symbolKind? c = some kind) :
    isLabelChar c = false := by
  unfold symbolKind? at h
  split at h
  all_goals first | decide | cases h

/-- A character of a word is neither white space nor a symbol nor a backtick. -/
theorem plain_of_isLabelChar {c : Char} (inWord : isLabelChar c = true) :
    isBlank c = false ∧ symbolKind? c = none ∧ c ≠ backtick := by
  refine ⟨?_, ?_, ?_⟩
  · by_contra blank
    simp [isLabelChar_of_isBlank (Bool.of_not_eq_false blank)] at inWord
  · by_contra symbol
    obtain ⟨kind, isSymbol⟩ := Option.ne_none_iff_exists'.1 symbol
    simp [isLabelChar_of_symbolKind? isSymbol] at inWord
  · rintro rfl
    exact absurd inWord (by decide)

theorem detached_dropWhile (s : List Char) : Detached (s.dropWhile isLabelChar) := by
  intro c first
  have stops := List.head?_dropWhile_not isLabelChar s
  rw [first] at stops
  exact Bool.eq_false_iff.2 (by simpa using stops)

/-!
### Lexemes
-/

/-- A piece of a text that is read as one token. -/
inductive Lexeme where
  | symbol (c : Char) (kind : TokenKind) (isSymbol : symbolKind? c = some kind)
  | word (c : Char) (others : List Char) (start : isLabelStart c = true)
      (inWord : ∀ d ∈ others, isLabelChar d = true)
  /-- A label between two backticks. -/
  | quoted (label : List Char) (noTick : backtick ∉ label) (noBreak : '\n' ∉ label)

/-- What a token says, apart from where it stands. -/
def Token.content (token : Token) : TokenKind × String := (token.kind, token.text)

namespace Lexeme

/-- The characters of a lexeme, the backticks included. -/
def spelling : Lexeme → List Char
  | .symbol c _ _ => [c]
  | .word c others _ _ => c :: others
  | .quoted label _ _ => backtick :: label ++ [backtick]

/-- What the token says that is read from a lexeme. -/
def content : Lexeme → TokenKind × String
  | .symbol c kind _ => (kind, c.toString)
  | .word c others _ _ => (wordKind (String.ofList (c :: others)), String.ofList (c :: others))
  | .quoted label _ _ => (.name, String.ofList label)

def isWord : Lexeme → Bool
  | .word .. => true
  | _ => false

theorem spelling_ne_nil (lexeme : Lexeme) : lexeme.spelling ≠ [] := by
  cases lexeme <;> simp [spelling]

/-- Where a lexeme begins, the text has its first character. -/
theorem getElem?_spelling (lexeme : Lexeme) (front rest : List Char) :
    (front ++ (lexeme.spelling ++ rest))[front.length]? = lexeme.spelling.head? := by
  rw [List.getElem?_append_right (Nat.le_refl _), Nat.sub_self, ← List.head?_eq_getElem?,
    List.head?_append_of_ne_nil _ lexeme.spelling_ne_nil]

/-- A lexeme is read as one token, which stands where the lexeme begins; a bare word is, if nothing
that follows runs into it. -/
theorem reads (lexeme : Lexeme) {s : List Char} (apart : lexeme.isWord = true → Detached s)
    (p : Position) :
    Reads p (lexeme.spelling ++ s) [⟨lexeme.content.1, lexeme.content.2, p⟩]
      (p.after lexeme.spelling) s := by
  cases lexeme with
  | symbol c kind isSymbol => exact reads_symbol (isBlank_of_symbolKind? isSymbol) isSymbol
  | word c others start inWord =>
      obtain ⟨blank, symbol, noTick⟩ := plain_of_isLabelChar (isLabelChar_of_isLabelStart start)
      exact reads_word blank symbol noTick start inWord (apart rfl)
  | quoted label noTick noBreak =>
      have quotable : Quotable (String.ofList label) := by simpa [Quotable] using ⟨noTick, noBreak⟩
      have read := reads_quoted (p := p) (s := s) quotable
      rw [String.toList_ofList] at read
      simpa [spelling, content] using read

end Lexeme

/-!
### Written tokens

A token does not tell whether its label stood between backticks. The text that it was read from
does, since nothing else begins with a backtick.
-/

/-- What a token says, and whether it was written between backticks. -/
structure Written where
  kind : TokenKind
  text : String
  quoted : Bool
deriving DecidableEq, Repr

/-- A token as it is written in the text that it was read from. -/
def Token.written (source : List Char) (token : Token) : Written :=
  ⟨token.kind, token.text, source[token.position.offset]? = some backtick⟩

/-- The token of a lexeme as the lexeme writes it. -/
def Lexeme.written (lexeme : Lexeme) : Written :=
  ⟨lexeme.content.1, lexeme.content.2, lexeme.spelling.head? = some backtick⟩

/-- The token that is read from a lexeme is written as the lexeme is. -/
theorem Lexeme.written_token {front : List Char} (lexeme : Lexeme) (rest : List Char) {p : Position}
    (reached : p.offset = front.length) :
    Token.written (front ++ (lexeme.spelling ++ rest)) ⟨lexeme.content.1, lexeme.content.2, p⟩ =
      lexeme.written := by
  rw [Token.written, reached, lexeme.getElem?_spelling, written]

/-!
### Spaced lexemes
-/

/-- The lexemes stand in the text in this order, with white space before, between and behind them;
two bare words that follow each other are kept apart by some. -/
inductive Spaced : List Lexeme → List Char → Prop where
  | finish {blanks : List Char} (blank : ∀ c ∈ blanks, isBlank c = true) : Spaced [] blanks
  | lexeme {blanks s : List Char} {first : Lexeme} {others : List Lexeme}
      (blank : ∀ c ∈ blanks, isBlank c = true) (rest : Spaced others s)
      (apart : first.isWord = true → ∀ next ∈ others.head?, next.isWord = true →
        ∃ c ∈ s.head?, isBlank c = true) :
      Spaced (first :: others) (blanks ++ (first.spelling ++ s))

namespace Spaced

variable {lexemes : List Lexeme} {s : List Char}

/-- White space may be put in front. -/
theorem behind_blank {c : Char} (blank : isBlank c = true) (spaced : Spaced lexemes s) :
    Spaced lexemes (c :: s) := by
  cases spaced with
  | finish blanks => exact .finish (List.forall_mem_cons.2 ⟨blank, blanks⟩)
  | lexeme blanks rest apart =>
      exact .lexeme (List.forall_mem_cons.2 ⟨blank, blanks⟩) rest apart

/-- A text of lexemes begins with white space, with its first lexeme, or it is empty. -/
theorem head? (spaced : Spaced lexemes s) {c : Char} (first : c ∈ s.head?) :
    isBlank c = true ∨ ∃ next ∈ lexemes.head?, c ∈ next.spelling.head? := by
  cases spaced with
  | finish blanks => exact Or.inl (blanks c (List.mem_of_mem_head? first))
  | @lexeme blanks _ next _ blank _ _ =>
      cases blanks with
      | cons d blanks =>
          obtain rfl : d = c := by simpa using first
          exact Or.inl (blank d List.mem_cons_self)
      | nil =>
          refine Or.inr ⟨next, rfl, ?_⟩
          cases next <;> simpa [Lexeme.spelling] using first

/-- No bare word runs into a text of lexemes that is kept apart from it. -/
theorem detached (spaced : Spaced lexemes s)
    (apart : ∀ next ∈ lexemes.head?, next.isWord = true → ∃ c ∈ s.head?, isBlank c = true) :
    Detached s := by
  intro c first
  rcases spaced.head? first with blank | ⟨next, isNext, begins⟩
  · exact isLabelChar_of_isBlank blank
  · cases next with
    | symbol d kind isSymbol =>
        obtain rfl : d = c := by simpa [Lexeme.spelling] using begins
        exact isLabelChar_of_symbolKind? isSymbol
    | word d others start inWord =>
        obtain ⟨e, same, blank⟩ := apart _ isNext rfl
        obtain rfl : e = c := Option.mem_unique same first
        exact isLabelChar_of_isBlank blank
    | quoted label noTick noBreak =>
        obtain rfl : backtick = c := by simpa [Lexeme.spelling] using begins
        decide

/-- A text that no bare word runs into is kept apart from the word before it. -/
theorem apart (spaced : Spaced lexemes s) (detached : Detached s) :
    ∀ next ∈ lexemes.head?, next.isWord = true → ∃ c ∈ s.head?, isBlank c = true := by
  intro next isNext isWord
  cases spaced with
  | finish blank => cases isNext
  | @lexeme blanks _ first _ blank _ _ =>
      cases blanks with
      | cons d blanks => exact ⟨d, rfl, blank d List.mem_cons_self⟩
      | nil =>
          obtain rfl : first = next := by simpa using isNext
          cases first with
          | word c others start inWord =>
              have runsOn : isLabelChar c = true := isLabelChar_of_isLabelStart start
              simp [detached c rfl] at runsOn
          | symbol | quoted => cases isWord

/-- The lexer reads the lexemes as they are written, whatever white space is between them. The text
before them is `front`. -/
theorem reads (spaced : Spaced lexemes s) (p : Position) (front : List Char)
    (reached : p.offset = front.length) :
    ∃ tokens q, tokens.map (Token.written (front ++ s)) = lexemes.map Lexeme.written ∧
      Reads p s tokens q [] := by
  induction spaced generalizing p front with
  | finish blank =>
      have read := reads_blanks blank p []
      rw [List.append_nil] at read
      exact ⟨[], _, rfl, read⟩
  | @lexeme blanks s first others blank rest apart ih =>
      have begins : (p.after blanks).offset = (front ++ blanks).length := by
        rw [Position.offset_after, reached, List.length_append]
      have behind : ((p.after blanks).after first.spelling).offset =
          (front ++ blanks ++ first.spelling).length := by
        simp only [Position.offset_after, reached, List.length_append]
      obtain ⟨tokens, q, written, more⟩ := ih _ _ behind
      have one := first.reads (fun isWord => rest.detached (apart isWord)) (p.after blanks)
      refine ⟨_, q, ?_, (reads_blanks blank p _).trans (one.trans more)⟩
      have firstWritten := first.written_token s begins
      rw [List.append_assoc, List.append_assoc] at written
      rw [List.append_assoc] at firstWritten
      simp only [List.nil_append, List.singleton_append, List.map_cons, written, firstWritten]

/-- The tokens of a text say what its lexemes say. -/
theorem lexFrom_eq_ok (spaced : Spaced lexemes s) (p : Position) :
    ∃ l, lexFrom p s = .ok l ∧ l.tokens.map Token.content = lexemes.map Lexeme.content := by
  -- What stands before the text does not matter to what its tokens say.
  obtain ⟨tokens, q, written, read⟩ := spaced.reads p (List.replicate p.offset ' ') (by simp)
  have contents := congrArg (List.map fun w : Written => (w.kind, w.text)) written
  rw [List.map_map, List.map_map] at contents
  exact ⟨_, read.finish, contents⟩

end Spaced

/-- Every text that has tokens is spelled by lexemes. -/
theorem exists_spaced {p : Position} {s : List Char} {l : Lexed} (h : lexFrom p s = .ok l) :
    ∃ lexemes, Spaced lexemes s := by
  fun_induction lexFrom p s generalizing l with
  | case1 p => exact ⟨[], .finish (by simp)⟩
  | case2 p c rest blank ih =>
      obtain ⟨lexemes, spaced⟩ := ih h
      exact ⟨lexemes, spaced.behind_blank blank⟩
  | case3 p c rest blank kind symbol ih =>
      obtain ⟨others, taken, _⟩ := map_eq_ok.1 h
      obtain ⟨lexemes, spaced⟩ := ih taken
      exact ⟨_, @Spaced.lexeme [] rest (.symbol c kind symbol) lexemes (by simp) spaced
        fun word => absurd word Bool.false_ne_true⟩
  | case4 => cases h
  | case5 p rest label after label_eq _ _ ih =>
      obtain ⟨others, taken, _⟩ := map_eq_ok.1 h
      obtain ⟨lexemes, spaced⟩ := ih taken
      obtain ⟨noTick, noBreak⟩ := quotedLabel?_free label_eq
      have whole := @Spaced.lexeme [] after (.quoted label noTick noBreak) lexemes (by simp) spaced
        fun word => absurd word Bool.false_ne_true
      rw [quoted_split label_eq]
      exact ⟨_, whole⟩
  | case6 p c rest blank _ noTick start word =>
      rename_i ih
      obtain ⟨others, taken, _⟩ := map_eq_ok.1 h
      obtain ⟨lexemes, spaced⟩ := ih taken
      have inWord : ∀ d ∈ rest.takeWhile isLabelChar, isLabelChar d = true :=
        List.all_eq_true.1 List.all_takeWhile
      have whole := @Spaced.lexeme [] (rest.dropWhile isLabelChar) (.word c _ start inWord) lexemes
        (by simp) spaced fun _ => spaced.apart (detached_dropWhile rest)
      rw [word_split]
      exact ⟨_, whole⟩
  | case7 => cases h

/-!
### The parser and positions

The parser is followed on two lists of tokens that say the same. It takes the same branch on both,
since it branches on kinds and texts only, and it goes on with rests that say the same.
-/

/-- The two lists differ in positions at most. -/
def SaySame (tokens tokens' : List Token) : Prop :=
  tokens.map Token.content = tokens'.map Token.content

/-- Two attempts come to the same: both succeed, with results that `R` relates, or both fail where
the same was expected and the same was met. -/
def Alike {α β : Type} (R : α → β → Prop) (left : Except ParseError α)
    (right : Except ParseError β) : Prop :=
  (∃ a b, left = .ok a ∧ right = .ok b ∧ R a b) ∨
    ∃ e e', left = .error e ∧ right = .error e' ∧ e.expected = e'.expected ∧ e.actual = e'.actual

/-- What was taken is the same, and what is left says the same. -/
def SameTaken {α : Type} {tokens tokens' : List Token} (left : α × Rest tokens)
    (right : α × Rest tokens') : Prop :=
  left.1 = right.1 ∧ SaySame left.2.1 right.2.1

section

variable {finish finish' : Position} {tokens tokens' : List Token} {token token' : Token}

theorem SaySame.uncons (same : SaySame (token :: tokens) (token' :: tokens')) :
    token.kind = token'.kind ∧ token.text = token'.text ∧ SaySame tokens tokens' := by
  simpa [SaySame, Token.content, and_assoc] using same

/-- Lists that say the same are both empty, or they begin with tokens of one kind and text. -/
theorem SaySame.cases (same : SaySame tokens tokens') :
    (tokens = [] ∧ tokens' = []) ∨ ∃ token others token' others', tokens = token :: others ∧
      tokens' = token' :: others' ∧ token.kind = token'.kind ∧ token.text = token'.text ∧
        SaySame others others' := by
  cases tokens with
  | nil => exact Or.inl ⟨rfl, by simpa [SaySame, eq_comm] using same⟩
  | cons token others =>
      cases tokens' with
      | nil => cases same
      | cons token' others' => exact Or.inr ⟨_, _, _, _, rfl, rfl, same.uncons⟩

/-- A token that is not expected is refused alike. -/
theorem unexpected_alike {α β : Type} {R : α → β → Prop} (expected : Expectation)
    (same : SaySame tokens tokens') :
    Alike R (.error (.unexpected expected finish tokens))
      (.error (.unexpected expected finish' tokens')) := by
  rcases same.cases with ⟨rfl, rfl⟩ | ⟨token, _, token', _, rfl, rfl, _, text, _⟩
  · exact Or.inr ⟨_, _, rfl, rfl, rfl, rfl⟩
  · exact Or.inr ⟨_, _, rfl, rfl, rfl, congrArg some text⟩

theorem expect_alike (kind : TokenKind) (expected : Expectation) (same : SaySame tokens tokens') :
    Alike (fun rest rest' => SaySame rest.1 rest'.1) (expect kind expected finish tokens)
      (expect kind expected finish' tokens') := by
  rcases same.cases with ⟨rfl, rfl⟩ | ⟨token, others, token', others', rfl, rfl, kindEq, _, rest⟩
  · exact unexpected_alike expected same
  · rw [expect, expect, ← kindEq]
    split
    · exact Or.inl ⟨_, _, rfl, rfl, rest⟩
    · exact unexpected_alike expected same

end

mutual

theorem parseType_alike {finish finish' : Position} : ∀ {tokens tokens' : List Token},
    SaySame tokens tokens' → Alike SameTaken (parseType finish tokens) (parseType finish' tokens')
  | [], [], same => by
      rw [parseType, parseType]
      exact unexpected_alike .typeExpr same
  | [], _ :: _, same | _ :: _, [], same => nomatch same
  | token :: tokens, token' :: tokens', same => by
      obtain ⟨kindEq, text, rest⟩ := same.uncons
      have inner := @parseType_alike finish finish' _ _ rest
      rw [parseType, parseType, ← kindEq]
      cases kind : token.kind with
      | openBrace =>
          have fields := @parseFields_alike finish finish' token.position token'.position _ _ rest
          rcases fields with ⟨⟨_, _⟩, ⟨_, _⟩, left, right, rfl, left'⟩ |
            ⟨e, e', left, right, expected, actual⟩
          · simp only [left, right]
            exact Or.inl ⟨_, _, rfl, rfl, rfl, left'⟩
          · simp only [left, right]
            exact Or.inr ⟨_, _, rfl, rfl, expected, actual⟩
      | listWord | optionalWord =>
          rcases inner with ⟨⟨_, _⟩, ⟨_, _⟩, left, right, rfl, left'⟩ |
            ⟨e, e', left, right, expected, actual⟩
          · simp only [left, right]
            exact Or.inl ⟨_, _, rfl, rfl, rfl, left'⟩
          · simp only [left, right]
            exact Or.inr ⟨_, _, rfl, rfl, expected, actual⟩
      | openParen =>
          rcases inner with ⟨⟨_, _⟩, ⟨_, _⟩, left, right, rfl, left'⟩ |
            ⟨e, e', left, right, expected, actual⟩
          · rcases @expect_alike finish finish' _ _ .closeParen .closeParen left' with
              ⟨_, _, closed, closed', behind⟩ | ⟨e, e', closed, closed', expected, actual⟩
            · simp only [left, right, closed, closed']
              exact Or.inl ⟨_, _, rfl, rfl, rfl, behind⟩
            · simp only [left, right, closed, closed']
              exact Or.inr ⟨_, _, rfl, rfl, expected, actual⟩
          · simp only [left, right]
            exact Or.inr ⟨_, _, rfl, rfl, expected, actual⟩
      | name => exact Or.inl ⟨_, _, rfl, rfl, congrArg TypeExpr.scalar text, rest⟩
      | closeBrace | colon | comma | closeParen => exact unexpected_alike .typeExpr same
termination_by tokens => (tokens.length, 0)

theorem parseFields_alike {finish finish' opening opening' : Position} :
    ∀ {tokens tokens' : List Token}, SaySame tokens tokens' →
      Alike SameTaken (parseFields finish opening tokens) (parseFields finish' opening' tokens')
  | [], [], _ => by
      rw [parseFields, parseFields]
      exact Or.inr ⟨_, _, rfl, rfl, rfl, rfl⟩
  | [], _ :: _, same | _ :: _, [], same => nomatch same
  | token :: tokens, token' :: tokens', same => by
      obtain ⟨kindEq, _, rest⟩ := same.uncons
      rw [parseFields, parseFields, ← kindEq]
      split
      · exact Or.inl ⟨_, _, rfl, rfl, rfl, rest⟩
      · exact parseMoreFields_alike same
termination_by tokens => (tokens.length, 2)

theorem parseMoreFields_alike {finish finish' opening opening' : Position} :
    ∀ {seen : List String} {tokens tokens' : List Token}, SaySame tokens tokens' →
      Alike SameTaken (parseMoreFields finish opening seen tokens)
        (parseMoreFields finish' opening' seen tokens')
  | _, [], [], _ => by
      rw [parseMoreFields, parseMoreFields]
      exact Or.inr ⟨_, _, rfl, rfl, rfl, rfl⟩
  | _, [], _ :: _, same | _, _ :: _, [], same => nomatch same
  | seen, label :: tokens, label' :: tokens', same => by
      obtain ⟨kindEq, text, rest⟩ := same.uncons
      rw [parseMoreFields, parseMoreFields, ← kindEq, ← text]
      split
      · exact unexpected_alike .fieldLabel same
      split
      · exact Or.inr ⟨_, _, rfl, rfl, rfl, rfl⟩
      rcases @expect_alike finish finish' _ _ .colon .colon rest with
        ⟨⟨behind, shorter⟩, ⟨_, _⟩, left, right, afterColon⟩ |
        ⟨e, e', left, right, expected, actual⟩
      case inr =>
        simp only [left, right]
        exact Or.inr ⟨_, _, rfl, rfl, expected, actual⟩
      simp only [left, right]
      rcases @parseType_alike finish finish' _ _ afterColon with
        ⟨⟨type, ⟨after, shorter'⟩⟩, ⟨_, ⟨_, _⟩⟩, taken, taken', rfl, afterType⟩ |
        ⟨e, e', taken, taken', expected, actual⟩
      case inr =>
        simp only [taken, taken']
        exact Or.inr ⟨_, _, rfl, rfl, expected, actual⟩
      simp only [taken, taken']
      rcases afterType.cases with ⟨rfl, rfl⟩ |
        ⟨separator, more, separator', more', rfl, rfl, kindEq', _, rest'⟩
      · exact Or.inr ⟨_, _, rfl, rfl, rfl, rfl⟩
      have fewer : more.length < tokens.length := by
        simp only [List.length_cons] at shorter'
        omega
      simp only [← kindEq']
      cases kind : separator.kind with
      | closeBrace => exact Or.inl ⟨_, _, rfl, rfl, rfl, rest'⟩
      | comma =>
          have others := @parseMoreFields_alike finish finish' opening opening'
            (label.text :: seen) _ _ rest'
          rcases others with ⟨⟨_, _⟩, ⟨_, _⟩, left, right, rfl, left'⟩ |
            ⟨e, e', left, right, expected, actual⟩
          · simp only [left, right]
            exact Or.inl ⟨_, _, rfl, rfl, rfl, left'⟩
          · simp only [left, right]
            exact Or.inr ⟨_, _, rfl, rfl, expected, actual⟩
      | openBrace | colon | openParen | closeParen | listWord | optionalWord | name =>
          exact unexpected_alike .commaOrBrace afterType
termination_by _ tokens => (tokens.length, 1)

end

section

variable {l l' : Lexed}

theorem parseTokens_alike (same : SaySame l.tokens l'.tokens) :
    Alike Eq (parseTokens l) (parseTokens l') := by
  rw [parseTokens, parseTokens]
  rcases @parseType_alike l.finish l'.finish _ _ same with
    ⟨⟨type, ⟨rest, _⟩⟩, ⟨_, ⟨_, _⟩⟩, left, right, rfl, behind⟩ |
    ⟨e, e', left, right, expected, actual⟩
  · simp only [left, right]
    rcases behind.cases with ⟨rfl, rfl⟩ | ⟨_, _, _, _, rfl, rfl, _, _, _⟩
    · exact Or.inl ⟨_, _, rfl, rfl, rfl⟩
    · exact unexpected_alike .endOfText behind
  · simp only [left, right]
    exact Or.inr ⟨_, _, rfl, rfl, expected, actual⟩

theorem parseRecordTokens_alike (same : SaySame l.tokens l'.tokens) :
    Alike Eq (parseRecordTokens l) (parseRecordTokens l') := by
  obtain ⟨tokens, finish⟩ := l
  obtain ⟨tokens', finish'⟩ := l'
  rcases same.cases with ⟨rfl, rfl⟩ | ⟨first, others, first', others', rfl, rfl, kindEq, _, _⟩
  · exact unexpected_alike .recordAtRoot same
  · by_cases kind : first.kind = .openBrace
    · rw [parseRecordTokens_cons kind, parseRecordTokens_cons (kindEq ▸ kind)]
      exact parseTokens_alike same
    · rw [parseRecordTokens_of_ne kind others finish,
        parseRecordTokens_of_ne (kindEq ▸ kind) others' finish']
      exact @unexpected_alike finish finish' _ _ _ _ _ .recordAtRoot same

end

/-!
### Texts
-/

/-- Two readings come to the same: both denote one type, or both are refused by the parser, where
the same was expected and the same was met. -/
def SameOutcome (left right : Except ReadError TypeExpr) : Prop :=
  (∃ t, left = .ok t ∧ right = .ok t) ∨
    ∃ e e', left = .error (.parse e) ∧ right = .error (.parse e') ∧
      e.expected = e'.expected ∧ e.actual = e'.actual

theorem Alike.sameOutcome {left right : Except ParseError TypeExpr} (alike : Alike Eq left right) :
    SameOutcome (left.mapError .parse) (right.mapError .parse) := by
  rcases alike with ⟨t, _, rfl, rfl, rfl⟩ | ⟨e, e', rfl, rfl, expected, actual⟩
  · exact Or.inl ⟨t, rfl, rfl⟩
  · exact Or.inr ⟨e, e', rfl, rfl, expected, actual⟩

/-- White space never changes the meaning of a text that has tokens: the text is spelled by lexemes,
and every text that these lexemes spell, with other white space before, between and behind them, has
tokens that say the same and denotes the same type, or it is refused as the first one is. -/
theorem respaced_denotes_same {source : String} {l : Lexed} (lexed : lex source = .ok l) :
    (∃ lexemes, Spaced lexemes source.toList) ∧
      ∀ (lexemes : List Lexeme) (other : String),
        Spaced lexemes source.toList → Spaced lexemes other.toList →
          (∃ l', lex other = .ok l' ∧ l'.tokens.map Token.content = l.tokens.map Token.content) ∧
            SameOutcome (parse source) (parse other) ∧
              SameOutcome (parseRecord source) (parseRecord other) := by
  refine ⟨exists_spaced lexed, fun lexemes other spaced spaced' => ?_⟩
  obtain ⟨_, again, contents⟩ := spaced.lexFrom_eq_ok .start
  cases lexed.symm.trans again
  obtain ⟨l', lexed', contents'⟩ := spaced'.lexFrom_eq_ok .start
  have same : SaySame l.tokens l'.tokens := contents.trans contents'.symm
  refine ⟨⟨l', lexed', contents'.trans contents.symm⟩, ?_, ?_⟩
  · rw [parse_of_lex lexed, parse_of_lex lexed']
    exact (parseTokens_alike same).sameOutcome
  · rw [parseRecord_of_lex lexed, parseRecord_of_lex lexed']
    exact (parseRecordTokens_alike same).sameOutcome

/-- Two words that follow each other and a label in backticks, which denote a type but no record. -/
theorem respaced_denotes_same_words :
    let source := "Optional List\x60a b\x60"
    let other := "\nOptional\u3000 List \x60a b\x60\t"
    let t : TypeExpr := .optional (.list (.scalar "a b"))
    (∃ l, lex source = .ok l ∧ ∃ l', lex other = .ok l' ∧
      l'.tokens.map Token.content = l.tokens.map Token.content) ∧
      parse source = .ok t ∧ SameOutcome (parse source) (parse other) ∧
      parseRecord source = .error (.parse ⟨.recordAtRoot, some "Optional", .start⟩) ∧
      SameOutcome (parseRecord source) (parseRecord other) := by
  intro source other t
  have lexed : lex source = .ok ⟨[⟨.optionalWord, "Optional", ⟨0, 1, 1⟩⟩,
    ⟨.listWord, "List", ⟨9, 1, 10⟩⟩, ⟨.name, "a b", ⟨13, 1, 14⟩⟩], ⟨18, 1, 19⟩⟩ := by cbv
  let label : Lexeme := .quoted ['a', ' ', 'b'] (by decide) (by decide)
  let list : Lexeme := .word 'L' ['i', 's', 't'] (by decide) (List.all_eq_true.1 (by decide))
  let optional : Lexeme :=
    .word 'O' ['p', 't', 'i', 'o', 'n', 'a', 'l'] (by decide) (List.all_eq_true.1 (by decide))
  have spaced : Spaced [optional, list, label] source.toList := by
    have last : Spaced [] [] := .finish (by simp)
    have third := @Spaced.lexeme [] _ label _ (by simp) last fun word =>
      absurd word Bool.false_ne_true
    have second := @Spaced.lexeme [' '] _ list _ (List.all_eq_true.1 (by decide)) third
      (by simp [label, Lexeme.isWord])
    have whole := @Spaced.lexeme [] _ optional _ (by simp) second fun _ _ _ _ =>
      ⟨' ', rfl, by decide⟩
    simpa [source, optional, list, label, Lexeme.spelling, backtick] using whole
  have spaced' : Spaced [optional, list, label] other.toList := by
    have last : Spaced [] ['\t'] := .finish (List.all_eq_true.1 (by decide))
    have third := @Spaced.lexeme [' '] _ label _ (List.all_eq_true.1 (by decide)) last
      fun word => absurd word Bool.false_ne_true
    have second := @Spaced.lexeme ['\u3000', ' '] _ list _ (List.all_eq_true.1 (by decide)) third
      (by simp [label, Lexeme.isWord])
    have whole := @Spaced.lexeme ['\n'] _ optional _ (List.all_eq_true.1 (by decide)) second
      fun _ _ _ _ => ⟨'\u3000', rfl, by decide⟩
    simpa [other, optional, list, label, Lexeme.spelling, backtick] using whole
  obtain ⟨tokens, type, record⟩ := (respaced_denotes_same lexed).2 _ other spaced spaced'
  exact ⟨⟨_, lexed, tokens⟩, by cbv, type, by cbv, record⟩

end TypeExpr

end TypedManifests

/-
Module: TypedManifests.Proofs.Spans
Purpose: The lexer is lossless and greedy. The spans of its tokens follow each other in the text,
  each spells its token, nothing but white space is left between them, and a bare word ends where it
  has to. A text without tokens is refused at its first fault: what is before it has tokens, and the
  character there begins none, or it is a backtick without a partner on its line.
Main exports: Token.stop, Covers, covers_of_lexFrom, Refused, refused_of_lexFrom, Lossless,
  RefusedAt, lex_lossless
-/
import TypedManifests.Proofs.Spacing

namespace TypedManifests.TypeExpr

open TypedManifests.Text

/-!
### Spans

A token's span begins at its position. Its end is told by the text of the token and by the character
at its position, since only quoted labels begin with a backtick.
-/

/-- The offset behind the last character of the token, the closing backtick included. -/
def Token.stop (source : List Char) (token : Token) : Nat :=
  token.position.offset + token.text.length +
    if source[token.position.offset]? = some backtick then 2 else 0

/-- The token is read from a lexeme that its span spells, and a bare word is not broken off. -/
def Token.Spelled (source : List Char) (token : Token) : Prop :=
  ∃ lexeme : Lexeme, token.content = lexeme.content ∧
    (source.take (token.stop source)).drop token.position.offset = lexeme.spelling ∧
      (lexeme.isWord = true → Detached (source.drop (token.stop source)))

/-- From the offset `start` on, the text consists of the spans of the tokens, in their order, and of
white space. -/
structure Covers (source : List Char) (start : Nat) (tokens : List Token) : Prop where
  starts : ∀ token ∈ tokens, start ≤ token.position.offset
  inside : ∀ token ∈ tokens,
    token.position.offset < token.stop source ∧ token.stop source ≤ source.length
  ordered : tokens.Pairwise fun first second => first.stop source ≤ second.position.offset
  blank : ∀ i c, start ≤ i → source[i]? = some c →
    (∀ token ∈ tokens, i < token.position.offset ∨ token.stop source ≤ i) → isBlank c = true
  spelled : ∀ token ∈ tokens, token.Spelled source

/-- A lexeme is spelled by its content, and by two backticks if it begins with one. -/
theorem Lexeme.length_spelling (lexeme : Lexeme) :
    lexeme.spelling.length = lexeme.content.2.length +
      if lexeme.spelling.head? = some backtick then 2 else 0 := by
  cases lexeme with
  | symbol c kind isSymbol =>
      have noTick : c ≠ backtick := by
        rintro rfl
        cases isSymbol
      simp [spelling, content, noTick]
  | word c others start inWord =>
      have noTick := (plain_of_isLabelChar (isLabelChar_of_isLabelStart start)).2.2
      simp [spelling, content, noTick, Nat.add_comm]
  | quoted label noTick noBreak => simp [spelling, content]

/-- A token ends behind the lexeme that it is read from. -/
theorem Token.stop_eq {front : List Char} {lexeme : Lexeme} {token : Token}
    (content : token.content = lexeme.content) (begins : token.position.offset = front.length)
    (rest : List Char) :
    token.stop (front ++ (lexeme.spelling ++ rest)) = front.length + lexeme.spelling.length := by
  have text : token.text = lexeme.content.2 := congrArg Prod.snd content
  rw [stop, begins, lexeme.getElem?_spelling, text, lexeme.length_spelling, Nat.add_assoc]

namespace Covers

variable {source : List Char} {start : Nat} {tokens : List Token}

theorem nil (source : List Char) : Covers source source.length [] where
  starts := by simp
  inside := by simp
  ordered := .nil
  blank i c behind found := by
    rw [List.getElem?_eq_none behind] at found
    cases found
  spelled := by simp

/-- White space in front of the tokens belongs to none. -/
theorem behind_blank {c : Char} (found : source[start]? = some c) (blank : isBlank c = true)
    (covers : Covers source (start + 1) tokens) : Covers source start tokens where
  starts token member := Nat.le_of_succ_le (covers.starts token member)
  inside := covers.inside
  ordered := covers.ordered
  blank i d behind there outside := by
    rcases Nat.eq_or_lt_of_le behind with rfl | behind
    · rw [found, Option.some.injEq] at there
      exact there ▸ blank
    · exact covers.blank i d behind there outside
  spelled := covers.spelled

/-- A token stands in front of the tokens of what is behind it. -/
theorem cons {token : Token} (begins : token.position.offset = start)
    (inside : start < token.stop source ∧ token.stop source ≤ source.length)
    (spelled : token.Spelled source) (covers : Covers source (token.stop source) tokens) :
    Covers source start (token :: tokens) where
  starts := by
    refine List.forall_mem_cons.2 ⟨begins.ge, fun other member => ?_⟩
    exact inside.1.le.trans (covers.starts other member)
  inside := List.forall_mem_cons.2 ⟨begins ▸ inside, covers.inside⟩
  ordered := .cons covers.starts covers.ordered
  blank i c behind there outside := by
    rw [List.forall_mem_cons] at outside
    rcases outside.1 with before | after
    · omega
    · exact covers.blank i c after there outside.2
  spelled := List.forall_mem_cons.2 ⟨spelled, covers.spelled⟩

/-- The same for a lexeme that was just read. -/
theorem lexeme {front rest : List Char} (lexeme : Lexeme) {token : Token}
    (content : token.content = lexeme.content) (begins : token.position.offset = front.length)
    (apart : lexeme.isWord = true → Detached rest)
    (covers : Covers (front ++ (lexeme.spelling ++ rest)) (front ++ lexeme.spelling).length
      tokens) :
    Covers (front ++ (lexeme.spelling ++ rest)) front.length (token :: tokens) := by
  have stop := Token.stop_eq content begins rest
  have nonempty := List.length_pos_of_ne_nil lexeme.spelling_ne_nil
  rw [List.length_append, ← stop] at covers
  refine covers.cons begins ?_ ⟨lexeme, content, ?_, ?_⟩
  · rw [stop]
    simp only [List.length_append]
    omega
  · rw [stop, begins, ← List.append_assoc, ← List.length_append, List.take_left, List.drop_left]
  · rw [stop, ← List.append_assoc, ← List.length_append, List.drop_left]
    exact apart

end Covers

/-- The tokens cover what they were read from, wherever it stands in a text. The induction is on the
text that is left to read; `front` was read before. -/
theorem covers_of_lexFrom {p : Position} {s : List Char} {l : Lexed} (h : lexFrom p s = .ok l) :
    ∀ {front : List Char}, p.offset = front.length → Covers (front ++ s) front.length l.tokens := by
  fun_induction lexFrom p s generalizing l with
  | case1 p =>
      intro front reached
      cases h
      simpa using Covers.nil front
  | case2 p c rest blank ih =>
      intro front reached
      have covers := @ih _ h (front ++ [c]) (by simp [reached])
      rw [List.append_assoc, List.length_append] at covers
      exact covers.behind_blank (by simp) blank
  | case3 p c rest blank kind symbol ih =>
      intro front reached
      obtain ⟨others, taken, rfl⟩ := map_eq_ok.1 h
      have covers := @ih _ taken (front ++ [c]) (by simp [reached])
      rw [List.append_assoc] at covers
      exact .lexeme (.symbol c kind symbol) rfl reached (by simp [Lexeme.isWord]) covers
  | case4 => cases h
  | case5 p rest label after label_eq _ _ ih =>
      intro front reached
      obtain ⟨others, taken, rfl⟩ := map_eq_ok.1 h
      obtain ⟨noTick, noBreak⟩ := quotedLabel?_free label_eq
      have covers := @ih _ taken (front ++ (backtick :: label ++ [backtick]))
        (by simp only [Position.offset_after, List.length_append, reached])
      rw [List.append_assoc] at covers
      rw [quoted_split label_eq]
      exact .lexeme (.quoted label noTick noBreak) rfl reached (by simp [Lexeme.isWord]) covers
  | case6 p c rest blank _ noTick start word =>
      rename_i ih
      intro front reached
      obtain ⟨others, taken, rfl⟩ := map_eq_ok.1 h
      have inWord : ∀ d ∈ rest.takeWhile isLabelChar, isLabelChar d = true :=
        List.all_eq_true.1 List.all_takeWhile
      have covers := @ih _ taken (front ++ word)
        (by rw [Position.offset_after, List.length_append, reached])
      rw [List.append_assoc] at covers
      rw [word_split]
      exact .lexeme (.word c _ start inWord) rfl reached (fun _ => detached_dropWhile rest) covers
  | case7 => cases h

/-!
### Faults
-/

/-- The character cannot stand at the beginning of a lexeme or between two of them. -/
def BeginsNothing (c : Char) : Prop :=
  isBlank c = false ∧ ∀ lexeme : Lexeme, c ∉ lexeme.spelling.head?

/-- Before the end of the line there is no backtick. -/
def Unpaired (rest : List Char) : Prop :=
  backtick ∉ rest.takeWhile (· ≠ '\n')

/-- Why a text that goes on with `rest` behind the character of the error has no tokens. -/
inductive Unreadable (rest : List Char) : LexError → Prop where
  | unexpected {c : Char} {q : Position} (begins : BeginsNothing c) :
      Unreadable rest ⟨.unexpectedCharacter, c, q⟩
  | unterminated {q : Position} (unpaired : Unpaired rest) :
      Unreadable rest ⟨.unterminatedLabel, backtick, q⟩

/-- The text `s` at `p` has tokens up to the place of the error, where it is unreadable. -/
def Refused (p : Position) (s : List Char) (e : LexError) : Prop :=
  ∃ front rest, s = front ++ e.char :: rest ∧ e.position = p.after front ∧
    (∃ l, lexFrom p front = .ok l) ∧ Unreadable rest e

theorem beginsNothing_of {c : Char} (blank : isBlank c = false) (symbol : symbolKind? c = none)
    (noTick : c ≠ backtick) (start : isLabelStart c = false) : BeginsNothing c := by
  refine ⟨blank, fun lexeme begins => ?_⟩
  cases lexeme with
  | symbol d kind isSymbol =>
      obtain rfl : d = c := by simpa [Lexeme.spelling] using begins
      simp [symbol] at isSymbol
  | word d others isStart inWord =>
      obtain rfl : d = c := by simpa [Lexeme.spelling] using begins
      simp [start] at isStart
  | quoted label _ _ =>
      obtain rfl : backtick = c := by simpa [Lexeme.spelling] using begins
      exact noTick rfl

theorem unpaired_of_quotedLabel? {s : List Char} (refused : quotedLabel? s = none) :
    Unpaired s := by
  induction s with
  | nil => simp [Unpaired]
  | cons c rest ih =>
      rw [quotedLabel?] at refused
      by_cases tick : c = backtick
      · simp [tick] at refused
      · by_cases lineFeed : c = '\n'
        · simp [Unpaired, lineFeed]
        · have others : quotedLabel? rest = none := by simpa [tick, lineFeed] using refused
          have unpaired := ih others
          simpa [Unpaired, lineFeed, Ne.symm tick] using unpaired

/-- A text is refused where it is refused behind its first piece, if this piece can be read in front
of any part of what follows it. -/
theorem Refused.behind {p : Position} {piece s : List Char} {e : LexError}
    (reads : ∀ front rest, s = front ++ e.char :: rest →
      ∃ tokens, Reads p (piece ++ front) tokens (p.after piece) front)
    (refused : Refused (p.after piece) s e) : Refused p (piece ++ s) e := by
  obtain ⟨front, rest, split, reached, ⟨l, taken⟩, unreadable⟩ := refused
  obtain ⟨tokens, read⟩ := reads front rest split
  refine ⟨piece ++ front, rest, ?_, ?_, ⟨l.prepend tokens, ?_⟩, unreadable⟩
  · rw [split, List.append_assoc]
  · rw [reached, Position.after_append]
  · rw [Reads, taken] at read
    exact read

theorem Refused.first {p : Position} {e : LexError} {rest : List Char} (reached : e.position = p)
    (unreadable : Unreadable rest e) : Refused p (e.char :: rest) e :=
  ⟨[], rest, rfl, reached, ⟨⟨[], p⟩, by rw [lexFrom]⟩, unreadable⟩

/-- What no word runs into begins with something that no word runs into. -/
theorem Detached.of_append {front rest : List Char} (detached : Detached (front ++ rest)) :
    Detached front := by
  cases front with
  | nil => exact detached_nil
  | cons c front => exact detached

theorem refused_of_lexFrom {p : Position} {s : List Char} {e : LexError}
    (h : lexFrom p s = .error e) : Refused p s e := by
  fun_induction lexFrom p s with
  | case1 p => cases h
  | case2 p c rest blank ih =>
      have refused : Refused (p.after [c]) rest e := ih h
      exact refused.behind fun front _ _ => ⟨[], reads_blank blank⟩
  | case3 p c rest blank kind symbol ih =>
      have refused : Refused (p.after [c]) rest e := ih (map_eq_error.1 h)
      exact refused.behind fun front _ _ =>
        ⟨_, reads_symbol (Bool.eq_false_iff.2 blank) symbol⟩
  | case4 p rest unclosed =>
      cases h
      exact .first rfl (.unterminated (unpaired_of_quotedLabel? unclosed))
  | case5 p rest label after label_eq _ _ ih =>
      obtain ⟨noTick, noBreak⟩ := quotedLabel?_free label_eq
      have quotable : Quotable (String.ofList label) := by
        simpa [Quotable] using ⟨noTick, noBreak⟩
      rw [quoted_split label_eq]
      refine (ih (map_eq_error.1 h)).behind fun front _ _ => ?_
      have read := reads_quoted (p := p) (s := front) quotable
      rw [String.toList_ofList] at read
      rw [List.append_assoc]
      exact ⟨_, read⟩
  | case6 p c rest blank symbol noTick start word =>
      rename_i ih
      have inWord : ∀ d ∈ rest.takeWhile isLabelChar, isLabelChar d = true :=
        List.all_eq_true.1 List.all_takeWhile
      rw [word_split]
      refine (ih (map_eq_error.1 h)).behind fun front _ split => ?_
      have detached := detached_dropWhile rest
      -- The fault is behind this word, so the word ends in the part before the fault as well.
      rw [split] at detached
      exact ⟨_, reads_word (Bool.eq_false_iff.2 blank) symbol noTick start inWord
        detached.of_append⟩
  | case7 p c rest blank symbol noTick start =>
      cases h
      exact .first rfl (.unexpected (beginsNothing_of (Bool.eq_false_iff.2 blank) symbol noTick
        (Bool.eq_false_iff.2 start)))

/-!
### Texts
-/

/-- The tokens cover the text, and the end is reported behind its last character. -/
structure Lossless (source : List Char) (l : Lexed) : Prop where
  finish : l.finish.offset = source.length
  covers : Covers source 0 l.tokens

/-- The text before the place of the error has tokens, and at this place it is unreadable. -/
structure RefusedAt (source : List Char) (e : LexError) : Prop where
  char : source[e.position.offset]? = some e.char
  before : ∃ l, lex (String.ofList (source.take e.position.offset)) = .ok l
  unreadable : Unreadable (source.drop (e.position.offset + 1)) e

theorem lossless_of_lex {source : String} {l : Lexed} (h : lex source = .ok l) :
    Lossless source.toList l := by
  constructor
  · rw [(placedIn_of_lexFrom h).1, Position.offset_after, Position.start, Nat.zero_add]
  · have whole := @covers_of_lexFrom _ _ _ h [] rfl
    exact whole

theorem refusedAt_of_lex {source : String} {e : LexError} (h : lex source = .error e) :
    RefusedAt source.toList e := by
  obtain ⟨front, rest, split, reached, before, unreadable⟩ := refused_of_lexFrom h
  have offset : e.position.offset = front.length := by
    rw [reached, Position.offset_after, Position.start, Nat.zero_add]
  rw [split]
  constructor
  · simp [offset]
  · rw [offset, List.take_left, lex, String.toList_ofList]
    exact before
  · rw [offset, ← List.drop_drop, List.drop_left]
    exact unreadable

/-- A text is read without loss or refused at its first fault. -/
theorem lex_lossless (source : String) :
    match lex source with
    | .ok l => Lossless source.toList l
    | .error e => RefusedAt source.toList e := by
  split
  · next lexed => exact lossless_of_lex lexed
  · next refused => exact refusedAt_of_lex refused

end TypedManifests.TypeExpr

/-
Module: TypedManifests.Proofs.Lexing
Purpose: How the lexer reads a text piece by piece. `Reads` says what the lexer makes of the front
  of a text while the remaining text is present, so that pieces can be put together although a bare
  word reaches as far as it can. The names that come out of the lexer fit between two backticks.
Main exports: Reads, reads_blanks, reads_symbol, reads_word, reads_quoted, Quotable,
  quotable_of_lexFrom
-/
import TypedManifests.TypeExpr.Lexer

namespace TypedManifests.TypeExpr

open TypedManifests.Text

theorem map_eq_ok {ε α β : Type} {f : α → β} {result : Except ε α} {b : β} :
    result.map f = .ok b ↔ ∃ a, result = .ok a ∧ f a = b := by
  cases result <;> simp [Except.map]

theorem mapError_eq_ok {ε ε' α : Type} {f : ε → ε'} {result : Except ε α} {a : α} :
    result.mapError f = .ok a ↔ result = .ok a := by
  cases result with
  | error e => constructor <;> intro h <;> cases h
  | ok b => constructor <;> intro h <;> cases h <;> rfl

/-!
### Reading a piece
-/

/-- The tokens of a text that begins with a piece whose tokens are given. -/
def Lexed.prepend (tokens : List Token) (l : Lexed) : Lexed := ⟨tokens ++ l.tokens, l.finish⟩

@[simp] theorem Lexed.prepend_prepend (first second : List Token) (l : Lexed) :
    (l.prepend second).prepend first = l.prepend (first ++ second) := by
  simp [Lexed.prepend]

/-- From `p` on, the text `s` begins with the given tokens, and after them goes on with `rest` at
`q`. -/
def Reads (p : Position) (s : List Char) (tokens : List Token) (q : Position) (rest : List Char) :
    Prop :=
  lexFrom p s = (lexFrom q rest).map (Lexed.prepend tokens)

namespace Reads

theorem refl (p : Position) (s : List Char) : Reads p s [] p s := by
  rw [Reads]
  cases lexFrom p s <;> rfl

/-- Pieces that follow each other are read one after the other. -/
theorem trans {p q r : Position} {s rest left : List Char} {first second : List Token}
    (one : Reads p s first q rest) (two : Reads q rest second r left) :
    Reads p s (first ++ second) r left := by
  rw [Reads] at one two ⊢
  rw [one, two]
  cases lexFrom r left with
  | error e => rfl
  | ok l => simp [Except.map]

/-- A text that was read to its end has been read as a whole. -/
theorem finish {p q : Position} {s : List Char} {tokens : List Token}
    (h : Reads p s tokens q []) : lexFrom p s = .ok ⟨tokens, q⟩ := by
  rw [Reads] at h
  rw [h, lexFrom]
  simp [Except.map, Lexed.prepend]

end Reads

theorem reads_blank {p : Position} {c : Char} {s : List Char} (blank : isBlank c = true) :
    Reads p (c :: s) [] (p.next c) s := by
  rw [Reads, lexFrom, if_pos blank]
  exact Reads.refl (p.next c) s

/-- White space is read over. -/
theorem reads_blanks {blanks : List Char} (blank : ∀ c ∈ blanks, isBlank c = true)
    (p : Position) (s : List Char) : Reads p (blanks ++ s) [] (p.after blanks) s := by
  induction blanks generalizing p with
  | nil => exact Reads.refl p s
  | cons c blanks ih =>
      have first : isBlank c = true := blank c List.mem_cons_self
      have others := ih (fun d member => blank d (List.mem_cons_of_mem c member)) (p.next c)
      exact (reads_blank first).trans others

theorem reads_symbol {p : Position} {c : Char} {s : List Char} {kind : TokenKind}
    (blank : isBlank c = false) (symbol : symbolKind? c = some kind) :
    Reads p (c :: s) [⟨kind, c.toString, p⟩] (p.next c) s := by
  rw [Reads, lexFrom]
  simp only [blank, symbol]
  rfl

theorem isBlank_of_symbolKind? {c : Char} {kind : TokenKind} (h : symbolKind? c = some kind) :
    isBlank c = false := by
  unfold symbolKind? at h
  split at h
  all_goals first | decide | cases h

/-- A text that no bare word before it runs into. -/
def Detached (s : List Char) : Prop := ∀ c ∈ s.head?, isLabelChar c = false

theorem detached_nil : Detached [] := by simp [Detached]

theorem detached_cons {c : Char} (h : isLabelChar c = false) (s : List Char) :
    Detached (c :: s) := by
  simp [Detached, h]

theorem takeWhile_append_of_detached {word s : List Char}
    (all : ∀ c ∈ word, isLabelChar c = true) (detached : Detached s) :
    (word ++ s).takeWhile isLabelChar = word ∧ (word ++ s).dropWhile isLabelChar = s := by
  rw [List.takeWhile_append_of_pos all, List.dropWhile_append_of_pos all]
  cases s with
  | nil => simp
  | cons c s =>
      have outside : isLabelChar c = false := detached c rfl
      simp [outside]

/-- A bare word is read as one token if nothing that could belong to it follows. -/
theorem reads_word {p : Position} {c : Char} {word s : List Char}
    (blank : isBlank c = false) (symbol : symbolKind? c = none) (noTick : c ≠ backtick)
    (start : isLabelStart c = true) (all : ∀ d ∈ word, isLabelChar d = true)
    (detached : Detached s) :
    Reads p (c :: word ++ s)
      [⟨wordKind (String.ofList (c :: word)), String.ofList (c :: word), p⟩]
      (p.after (c :: word)) s := by
  obtain ⟨taken, dropped⟩ := takeWhile_append_of_detached all detached
  rw [Reads, List.cons_append, lexFrom]
  simp only [blank, symbol, noTick, start, taken, dropped]
  rfl

/-!
### Names that fit between backticks
-/

/-- The name may stand between two backticks: it has no backtick and no line feed. -/
def Quotable (name : String) : Prop := backtick ∉ name.toList ∧ '\n' ∉ name.toList

instance (name : String) : Decidable (Quotable name) :=
  inferInstanceAs (Decidable (_ ∧ _))

/-- A quoted label reaches to the first backtick. -/
theorem quotedLabel?_append {label : List Char} (noTick : backtick ∉ label)
    (noBreak : '\n' ∉ label) (s : List Char) :
    quotedLabel? (label ++ backtick :: s) = some (label, s) := by
  induction label with
  | nil => simp [quotedLabel?]
  | cons c label ih =>
      rw [List.mem_cons, not_or] at noTick noBreak
      have tick : c ≠ backtick := fun same => noTick.1 same.symm
      have break' : c ≠ '\n' := fun same => noBreak.1 same.symm
      simp [quotedLabel?, tick, break', ih noTick.2 noBreak.2]

/-- Between backticks, the lexer takes no backtick and no line feed. -/
theorem quotedLabel?_free {s label after : List Char}
    (h : quotedLabel? s = some (label, after)) : backtick ∉ label ∧ '\n' ∉ label := by
  induction s generalizing label with
  | nil => simp [quotedLabel?] at h
  | cons c s ih =>
      rw [quotedLabel?] at h
      split at h
      · simp only [Option.some.injEq, Prod.mk.injEq] at h
        simp [← h.1]
      · next noTick =>
        split at h
        · cases h
        · next noBreak =>
          obtain ⟨⟨rest, after⟩, taken, same⟩ := Option.map_eq_some_iff.1 h
          simp only [Prod.mk.injEq] at same
          obtain ⟨rfl, rfl⟩ := same
          obtain ⟨tickFree, breakFree⟩ := ih taken
          simp [Ne.symm noTick, Ne.symm noBreak, tickFree, breakFree]

theorem reads_quoted {p : Position} {name : String} {s : List Char} (quotable : Quotable name) :
    Reads p (backtick :: name.toList ++ backtick :: s) [⟨.name, name, p⟩]
      (p.after (backtick :: name.toList ++ [backtick])) s := by
  have blank : isBlank backtick = false := by decide
  have symbol : symbolKind? backtick = none := by decide
  have taken := quotedLabel?_append quotable.1 quotable.2 s
  rw [Reads, List.cons_append, lexFrom]
  simp only [blank, symbol, Bool.false_eq_true, if_false, if_true]
  split
  · next refused => rw [taken] at refused; cases refused
  · next label after accepted =>
    rw [taken, Option.some.injEq, Prod.mk.injEq] at accepted
    obtain ⟨rfl, rfl⟩ := accepted
    simp only [String.ofList_toList]
    rfl

/-- A symbol's spelling is neither a backtick nor a line feed. -/
theorem quotable_of_symbolKind? {c : Char} {kind : TokenKind} (h : symbolKind? c = some kind) :
    Quotable c.toString := by
  unfold symbolKind? at h
  split at h
  all_goals first | decide | cases h

/-- A bare word holds no character that ends a quoted label. -/
theorem quotable_of_word {c : Char} {word : List Char} (blank : ¬isBlank c = true)
    (noTick : c ≠ backtick) (all : ∀ d ∈ word, isLabelChar d = true) :
    Quotable (String.ofList (c :: word)) := by
  have noBreak : c ≠ '\n' := by
    rintro rfl
    exact blank (by decide)
  have tick : backtick ∉ word := fun member => absurd (all backtick member) (by decide)
  have lineFeed : '\n' ∉ word := fun member => absurd (all '\n' member) (by decide)
  simp [Quotable, Ne.symm noTick, Ne.symm noBreak, tick, lineFeed]

/-- Every token's text fits between backticks, also that of a bare word. -/
theorem quotable_of_lexFrom {p : Position} {s : List Char} {l : Lexed}
    (h : lexFrom p s = .ok l) : ∀ token ∈ l.tokens, Quotable token.text := by
  fun_induction lexFrom p s generalizing l with
  | case1 p =>
      cases h
      simp
  | case2 p c rest blank ih => exact ih h
  | case3 p c rest blank kind symbol ih =>
      obtain ⟨others, taken, rfl⟩ := map_eq_ok.1 h
      exact List.forall_mem_cons.2 ⟨quotable_of_symbolKind? symbol, ih taken⟩
  | case4 => cases h
  | case5 p rest label after label_eq _ _ ih =>
      obtain ⟨others, taken, rfl⟩ := map_eq_ok.1 h
      have quotable : Quotable (String.ofList label) := by
        simpa [Quotable] using quotedLabel?_free label_eq
      exact List.forall_mem_cons.2 ⟨quotable, ih taken⟩
  | case6 p c rest blank _ noTick _ word =>
      rename_i ih
      obtain ⟨others, taken, rfl⟩ := map_eq_ok.1 h
      have all : ∀ d ∈ rest.takeWhile isLabelChar, isLabelChar d = true :=
        List.all_eq_true.1 List.all_takeWhile
      exact List.forall_mem_cons.2 ⟨quotable_of_word blank noTick all, ih taken⟩
  | case7 => cases h

end TypedManifests.TypeExpr

/-
Module: TypedManifests.Proofs.PrintedTypes
Purpose: The text of a type is read as tokens that derive the type in the stricter grammar, in both
  layouts and at every level, if the labels and the scalar names fit between two backticks. A text
  is put together from pieces, each of which adds its lexemes in front of those behind it.
Main exports: names, Printable, uniqueLabels_and_printable_of_parse, WrittenAs, writtenAs_print,
  lex_print, strict_print_iff
-/
import TypedManifests.Proofs.Cuts
import TypedManifests.Proofs.StrictGrammar

namespace TypedManifests.TypeExpr

open TypedManifests.Text

mutual

/-- The labels and the scalar names of a type, from left to right. -/
def names : TypeExpr → List String
  | .scalar name => [name]
  | .optional t | .list t => t.names
  | .record fields => namesFields fields

def namesFields : List (String × TypeExpr) → List String
  | [] => []
  | (label, t) :: rest => label :: (t.names ++ namesFields rest)

end

/-- All labels and scalar names of the type fit between two backticks. -/
def Printable (t : TypeExpr) : Prop := ∀ name ∈ t.names, Quotable name

/-!
### Parsed types are printable

A name comes from one token's text, and the lexer makes no other tokens than such with quotable
texts. The induction is on the derivation.
-/

mutual

theorem Derives.printable : ∀ {tokens : List Token} {t : TypeExpr}, Derives tokens t →
    (∀ token ∈ tokens, Quotable token.text) → t.Printable
  | _, _, .name _, quotable => by
      simpa [Printable, names] using quotable
  | _, _, .list _ element, quotable =>
      element.printable fun token member => quotable token (List.mem_cons_of_mem _ member)
  | _, _, .optional _ inner, quotable =>
      inner.printable fun token member => quotable token (List.mem_cons_of_mem _ member)
  | _, _, .parens _ inner _, quotable =>
      inner.printable fun token member =>
        quotable token (List.mem_cons_of_mem _ (List.mem_append_left _ member))
  | _, _, .emptyRecord _ _, _ => by
      simp [Printable, names, namesFields]
  | _, _, .record _ body _ _, quotable =>
      body.printable fun token member =>
        quotable token (List.mem_cons_of_mem _ (List.mem_append_left _ member))

theorem DerivesFields.printable : ∀ {tokens : List Token} {fields : Fields},
    DerivesFields tokens fields → (∀ token ∈ tokens, Quotable token.text) →
      ∀ name ∈ namesFields fields, Quotable name
  | _, _, .one (.field _ _ type), quotable => by
      have label := quotable _ List.mem_cons_self
      have inner := type.printable fun token member =>
        quotable token (List.mem_cons_of_mem _ (List.mem_cons_of_mem _ member))
      intro name member
      simp only [namesFields, List.append_nil, List.mem_cons] at member
      rcases member with rfl | member
      · exact label
      · exact inner name member
  | _, _, .more (.field _ _ type) _ rest, quotable => by
      have label := quotable _ List.mem_cons_self
      have inner := type.printable fun token member =>
        quotable token
          (List.mem_append_left _ (List.mem_cons_of_mem _ (List.mem_cons_of_mem _ member)))
      have others := rest.printable fun token member =>
        quotable token (List.mem_append_right _ (List.mem_cons_of_mem _ member))
      intro name member
      simp only [namesFields, List.mem_cons, List.mem_append] at member
      rcases member with rfl | member | member
      · exact label
      · exact inner name member
      · exact others name member

end

/-- A type that a text denotes is well formed and printable. -/
theorem uniqueLabels_and_printable_of_parse {source : String} {t : TypeExpr}
    (h : parse source = .ok t) : t.UniqueLabels ∧ t.Printable := by
  obtain ⟨lexed, lexedEq, derived⟩ := parse_eq_ok h
  exact ⟨derived.uniqueLabels, derived.printable (quotable_of_lexFrom lexedEq)⟩

/-!
### Pieces of a printed type

`WrittenAs follow text P` says that in front of any lexemes whose text satisfies `follow`, the text
adds lexemes that are written with the property `P`.
-/

def WrittenAs (follow : List Char → Prop) (text : String) (P : List Written → Prop) : Prop :=
  ∃ lexemes : List Lexeme, P (lexemes.map Lexeme.written) ∧ ∀ others rest,
    Spaced others rest → follow rest → Spaced (lexemes ++ others) (text.toList ++ rest)

/-- Anything may follow. -/
def Anything (_ : List Char) : Prop := True

/-- One token of the given kind. -/
def OneWritten (kind : TokenKind) (ws : List Written) : Prop :=
  ∃ w : Written, w.kind = kind ∧ ws = [w]

namespace WrittenAs

variable {follow follow' : List Char → Prop} {front back : String} {P Q : List Written → Prop}

theorem mono (written : WrittenAs follow front P) (imp : ∀ ws, P ws → Q ws) :
    WrittenAs follow front Q := by
  obtain ⟨lexemes, holds, spaced⟩ := written
  exact ⟨lexemes, imp _ holds, spaced⟩

theorem before (written : WrittenAs Anything front P) : WrittenAs follow front P := by
  obtain ⟨lexemes, holds, spaced⟩ := written
  exact ⟨lexemes, holds, fun others rest behind _ => spaced others rest behind trivial⟩

theorem append (one : WrittenAs follow front P) (two : WrittenAs follow' back Q)
    (fits : ∀ rest, follow' rest → follow (back.toList ++ rest)) :
    WrittenAs follow' (front ++ back)
      (fun ws => ∃ first second, ws = first ++ second ∧ P first ∧ Q second) := by
  obtain ⟨first, holds, spaced⟩ := one
  obtain ⟨second, holds', spaced'⟩ := two
  refine ⟨first ++ second, ⟨_, _, List.map_append, holds, holds'⟩, ?_⟩
  intro others rest behind follows
  rw [String.toList_append, List.append_assoc, List.append_assoc]
  exact spaced _ _ (spaced' others rest behind follows) (fits rest follows)

end WrittenAs

/-- White space may be put in front of lexemes. -/
theorem Spaced.behind_blanks {lexemes : List Lexeme} {blanks s : List Char}
    (blank : ∀ c ∈ blanks, isBlank c = true) (spaced : Spaced lexemes s) :
    Spaced lexemes (blanks ++ s) := by
  induction blanks with
  | nil => exact spaced
  | cons c blanks ih =>
      rw [List.forall_mem_cons] at blank
      exact (ih blank.2).behind_blank blank.1

theorem blank_space : ∀ c ∈ [' '], isBlank c = true := by
  intro c member
  rw [List.mem_singleton.1 member]
  decide

/-- A lexeme may have white space around it. -/
theorem writtenAs_lexeme {follow : List Char → Prop} {text : String} (before : List Char)
    (lexeme : Lexeme) (after : List Char)
    (split : text.toList = before ++ (lexeme.spelling ++ after))
    (blankBefore : ∀ d ∈ before, isBlank d = true) (blankAfter : ∀ d ∈ after, isBlank d = true)
    (apart : lexeme.isWord = true → ∀ rest, follow rest → Detached (after ++ rest)) :
    WrittenAs follow text fun ws => ws = [lexeme.written] := by
  refine ⟨[lexeme], rfl, fun others rest behind follows => ?_⟩
  have later := behind.behind_blanks blankAfter
  rw [split, List.append_assoc, List.append_assoc]
  exact .lexeme blankBefore later fun isWord => later.apart (apart isWord rest follows)

theorem writtenAs_symbol (before : List Char) (c : Char) (after : List Char) {symbol : String}
    {kind : TokenKind} (split : symbol.toList = before ++ c :: after)
    (kindEq : symbolKind? c = some kind) (blankBefore : ∀ d ∈ before, isBlank d = true)
    (blankAfter : ∀ d ∈ after, isBlank d = true) :
    WrittenAs Anything symbol (OneWritten kind) := by
  refine (writtenAs_lexeme before (.symbol c kind kindEq) after split blankBefore blankAfter
    fun isWord => absurd isWord Bool.false_ne_true).mono ?_
  rintro _ rfl
  exact ⟨_, rfl, rfl⟩

/-!
### Names
-/

/-- A character that may begin a simple label begins a bare word. -/
theorem isLabelStart_of_isSimpleStart {c : Char} (h : isSimpleStart c = true) :
    isLabelStart c = true := by
  rcases (by simpa [isSimpleStart] using h : c = '_' ∨ isAsciiLetter c = true) with rfl | letter
  · decide
  · have bounds := toNat_of_isAsciiLetter letter
    have ascii : c.toNat < 0x80 := by omega
    simp [isLabelStart, isLetter, ascii, letter]

theorem isLabelChar_of_isSimpleChar {c : Char} (h : isSimpleChar c = true) :
    isLabelChar c = true := by
  simp only [isSimpleChar, Bool.or_eq_true, decide_eq_true_eq] at h
  simp only [isLabelChar, Bool.or_eq_true, decide_eq_true_eq]
  rcases h with (h | letter) | digit
  · exact Or.inl h
  · have bounds := toNat_of_isAsciiLetter letter
    have ascii : c.toNat < 0x80 := by omega
    simp [isAlphanumeric, ascii, letter]
  · have bounds := toNat_of_isAsciiDigit digit
    have ascii : c.toNat < 0x80 := by omega
    simp [isAlphanumeric, ascii, digit]

theorem isAlpha_of_isAsciiLetter {c : Char} (letter : isAsciiLetter c = true) :
    c.isAlpha = true := by
  simp only [isAsciiLetter, Bool.or_eq_true, Bool.and_eq_true, decide_eq_true_eq,
    Char.le_def] at letter
  simp only [Char.isAlpha, Char.isUpper, Char.isLower, Bool.or_eq_true, Bool.and_eq_true,
    decide_eq_true_eq]
  exact letter.symm

theorem isDigit_of_isAsciiDigit {c : Char} (digit : isAsciiDigit c = true) :
    c.isDigit = true := by
  simpa [isAsciiDigit, Char.isDigit, Char.le_def] using digit

theorem slash_notMem_reservedWords : ∀ word ∈ reservedWords, '/' ∉ word.toList := by decide

/-- What the printer leaves without backticks may stand without them. -/
theorem mayStandBare_of_printed {label : String} (simple : isSimpleLabel label = true)
    (unreserved : reservedWords.contains label = false) (noPath : isReservedPath label = false) :
    MayStandBare label where
  simple := by
    rw [isSimpleLabel] at simple
    split at simple
    · cases simple
    · next c others split =>
      simp only [isSimpleStart, isSimpleChar, Bool.and_eq_true, List.all_eq_true, Bool.or_eq_true,
        decide_eq_true_eq] at simple
      refine ⟨c, others, split, simple.1.symm.imp_left isAlpha_of_isAsciiLetter, ?_⟩
      intro d member
      have letter := @isAlpha_of_isAsciiLetter d
      have digit := @isDigit_of_isAsciiDigit d
      have others := simple.2 d member
      simp only [Char.isAlphanum, Bool.or_eq_true]
      tauto
  unreserved member := by
    have listed : reservedWords.contains label = true := List.contains_iff_mem.2 member
    rw [unreserved] at listed
    cases listed
  noPath := by
    rintro word listed ⟨rest, split⟩
    rw [List.append_assoc, List.singleton_append] at split
    have first := takeWhile_ne_append (slash_notMem_reservedWords word listed) rest
    have isPath : isReservedPath label = true := by
      rw [isReservedPath, ← split, first, String.ofList_toList, List.contains_iff_mem.2 listed]
      simp
    rw [noPath] at isPath
    cases isPath

/-- A simple label is a bare word. -/
theorem exists_word {word : String} (simple : isSimpleLabel word = true) :
    ∃ lexeme : Lexeme, lexeme.spelling = word.toList ∧
      lexeme.written = ⟨wordKind word, word, false⟩ := by
  rw [isSimpleLabel] at simple
  split at simple
  · cases simple
  · next c others split =>
    rw [Bool.and_eq_true, List.all_eq_true] at simple
    have start := isLabelStart_of_isSimpleStart simple.1
    have noTick := (plain_of_isLabelChar (isLabelChar_of_isLabelStart start)).2.2
    refine ⟨.word c others start fun d member => isLabelChar_of_isSimpleChar (simple.2 d member),
      split.symm, ?_⟩
    rw [Lexeme.written, Lexeme.content, Lexeme.spelling, ← split, String.ofList_toList, split]
    simp [noTick]

theorem writtenAs_simpleLabel {word : String} (simple : isSimpleLabel word = true) :
    WrittenAs Detached word fun ws => ws = [⟨wordKind word, word, false⟩] := by
  obtain ⟨lexeme, spelling, written⟩ := exists_word simple
  rw [← written]
  exact writtenAs_lexeme [] lexeme [] (by simp [spelling]) (by simp) (by simp)
    fun _ rest detached => detached

/-- The two words that are applied to a type, with the blank after them. -/
theorem writtenAs_keyword (word : String) (simple : isSimpleLabel word = true) :
    WrittenAs Anything (word ++ " ") (OneWritten (wordKind word)) := by
  obtain ⟨lexeme, spelling, written⟩ := exists_word simple
  refine (writtenAs_lexeme [] lexeme [' '] (by simp [spelling]) (by simp) blank_space
    fun _ rest _ => detached_cons (by decide) rest).mono ?_
  rintro _ rfl
  exact ⟨_, congrArg Written.kind written, rfl⟩

theorem writtenAs_inBackticks {name : String} (quotable : Quotable name) :
    WrittenAs Anything (inBackticks name) fun ws => ws = [⟨.name, name, true⟩] := by
  have written :
      (Lexeme.quoted name.toList quotable.1 quotable.2).written = ⟨.name, name, true⟩ := by
    simp [Lexeme.written, Lexeme.content, Lexeme.spelling]
  rw [← written]
  exact writtenAs_lexeme [] _ [] (by simp [inBackticks, Lexeme.spelling]) (by simp) (by simp)
    fun isWord => absurd isWord Bool.false_ne_true

theorem writtenAs_printScalar {name : String} (quotable : Quotable name) :
    WrittenAs Detached (printScalar name) fun ws => Strict ws (.scalar name) := by
  rw [printScalar]
  split
  · next bare =>
    simp only [Bool.and_eq_true, isKeyword, decide_not, Bool.not_not, decide_eq_true_eq] at bare
    refine (writtenAs_simpleLabel bare.1).mono ?_
    rintro _ rfl
    exact @Strict.name ⟨wordKind name, name, false⟩ bare.2
  · refine (writtenAs_inBackticks quotable).before.mono ?_
    rintro _ rfl
    exact @Strict.name ⟨.name, name, true⟩ rfl

/-- A label that is not reserved is no keyword. -/
theorem wordKind_of_unreserved {label : String} (unreserved : label ∉ reservedWords) :
    wordKind label = .name := by
  have noList : label ≠ "List" := by
    rintro rfl
    exact unreserved (by decide)
  have noOptional : label ≠ "Optional" := by
    rintro rfl
    exact unreserved (by decide)
  rw [wordKind, if_neg noList, if_neg noOptional]

/-- A label is written as the stricter grammar has it: in backticks where it needs them. -/
theorem writtenAs_printLabel {label : String} (quotable : Quotable label) :
    WrittenAs Detached (printLabel label) fun ws => ∃ w : Written, ws = [w] ∧ w.kind = .name ∧
      w.text = label ∧ (w.quoted = false → MayStandBare label) := by
  rw [printLabel]
  split
  · next bare =>
    rw [Bool.and_eq_true, Bool.and_eq_true, Bool.not_eq_true', Bool.not_eq_true'] at bare
    have mayStand := mayStandBare_of_printed bare.1.1 bare.1.2 bare.2
    refine (writtenAs_simpleLabel bare.1.1).mono ?_
    rintro _ rfl
    exact ⟨_, rfl, wordKind_of_unreserved mayStand.unreserved, rfl, fun _ => mayStand⟩
  · refine (writtenAs_inBackticks quotable).before.mono ?_
    rintro _ rfl
    exact ⟨_, rfl, rfl, rfl, fun bare => Bool.noConfusion bare⟩

/-!
### Layouts
-/

/-- A line break and the indentation after it are blank. -/
theorem blank_indentation (level : Nat) :
    ∀ c ∈ '\n' :: (indentation level).toList, isBlank c = true := by
  intro c member
  rw [indentation, String.toList_ofList] at member
  rcases List.mem_cons.1 member with rfl | member
  · decide
  · rw [List.eq_of_mem_replicate member]
    decide

namespace Layout

theorem writtenAs_opening (layout : Layout) (level : Nat) :
    WrittenAs Anything (layout.opening level) (OneWritten .openBrace) := by
  cases layout with
  | block =>
      exact writtenAs_symbol [] '\x7b' _ (by simp [opening]) rfl (by simp)
        (blank_indentation (level + 1))
  | oneLine =>
      exact writtenAs_symbol [] '\x7b' [' '] (by simp [opening]) rfl (by simp) blank_space

theorem writtenAs_separator (layout : Layout) (level : Nat) :
    WrittenAs Anything (layout.separator level) (OneWritten .comma) := by
  cases layout with
  | block =>
      exact writtenAs_symbol [] ',' _ (by simp [separator]) rfl (by simp)
        (blank_indentation (level + 1))
  | oneLine => exact writtenAs_symbol [] ',' [' '] (by simp [separator]) rfl (by simp) blank_space

theorem writtenAs_closing (layout : Layout) (level : Nat) :
    WrittenAs Anything (layout.closing level) (OneWritten .closeBrace) := by
  cases layout with
  | block =>
      exact writtenAs_symbol _ '\x7d' [] (by simp [closing]) rfl (blank_indentation level)
        (by simp)
  | oneLine => exact writtenAs_symbol [' '] '\x7d' [] (by simp [closing]) rfl blank_space (by simp)

/-- No word runs into what separates the fields of a record. -/
theorem detached_separator (layout : Layout) (level : Nat) (rest : List Char) :
    Detached ((layout.separator level).toList ++ rest) := by
  cases layout with
  | block => simp [separator, Detached]; decide
  | oneLine => simp [separator, Detached]; decide

/-- No word runs into what ends a record. -/
theorem detached_closing (layout : Layout) (level : Nat) (rest : List Char) :
    Detached ((layout.closing level).toList ++ rest) := by
  cases layout with
  | block => simp [closing, Detached]; decide
  | oneLine => simp [closing, Detached]; decide

end Layout

/-!
### Printed types

The induction is on the type. An argument is in parentheses exactly if it is an application.
-/

theorem needsParens_iff {t : TypeExpr} : t.needsParens = true ↔ IsApplication t := by
  constructor
  · intro needs
    cases t with
    | list element => exact .list element
    | optional inner => exact .optional inner
    | scalar | record => cases needs
  · rintro (_ | _) <;> rfl

theorem writtenAs_printArgument {layout : Layout} {level : Nat} {t : TypeExpr}
    (written : WrittenAs Detached (print layout level t) fun ws => Strict ws t) :
    WrittenAs Detached (printArgument layout level t) fun ws => StrictArgument ws t := by
  have opening : WrittenAs Anything "(" (OneWritten .openParen) :=
    writtenAs_symbol [] '(' [] rfl rfl (by simp) (by simp)
  have closing : WrittenAs Anything ")" (OneWritten .closeParen) :=
    writtenAs_symbol [] ')' [] rfl rfl (by simp) (by simp)
  rw [printArgument]
  split
  · next needs =>
    refine ((opening.append written fun _ _ => trivial).append closing fun rest _ => ?_).before.mono
      ?_
    · exact detached_cons (by decide) rest
    · rintro _ ⟨_, _, rfl, ⟨_, _, rfl, ⟨_, openKind, rfl⟩, inner⟩, ⟨_, closeKind, rfl⟩⟩
      exact .parens (needsParens_iff.1 needs) openKind inner closeKind
  · next single => exact written.mono fun _ type => .alone (mt needsParens_iff.2 single) type

/-- A word before the text of an argument is applied to the argument. -/
theorem writtenAs_applied {word printed : String} {kind : TokenKind} {s t : TypeExpr}
    (writtenWord : WrittenAs Anything word (OneWritten kind))
    (written : WrittenAs Detached printed fun ws => StrictArgument ws s)
    (rule : ∀ {w : Written} {ws : List Written}, w.kind = kind → StrictArgument ws s →
      Strict (w :: ws) t) :
    WrittenAs Detached (word ++ printed) fun ws => Strict ws t := by
  refine (writtenWord.append written fun _ _ => trivial).mono ?_
  rintro _ ⟨_, _, rfl, ⟨_, kindEq, rfl⟩, argument⟩
  exact rule kindEq argument

/-- A label, a colon and the text of a type are a field. -/
theorem writtenAs_field {label printed : String} {t : TypeExpr} (quotable : Quotable label)
    (written : WrittenAs Detached printed fun ws => Strict ws t) :
    WrittenAs Detached (printLabel label ++ " : " ++ printed) fun ws =>
      StrictField ws (label, t) := by
  have colon : WrittenAs Anything " : " (OneWritten .colon) :=
    writtenAs_symbol [' '] ':' [' '] rfl rfl blank_space blank_space
  refine (((writtenAs_printLabel quotable).append colon fun rest _ => ?_).append written
    fun _ _ => trivial).mono ?_
  · exact detached_cons (by decide) _
  · rintro _ ⟨_, _, rfl, ⟨_, _, rfl, ⟨_, rfl, labelKind, rfl, unmarked⟩, ⟨_, colonKind, rfl⟩⟩, type⟩
    exact .field labelKind unmarked colonKind type

mutual

theorem writtenAs_print (layout : Layout) : ∀ (t : TypeExpr) (level : Nat),
    t.UniqueLabels → t.Printable →
      WrittenAs Detached (print layout level t) fun ws => Strict ws t
  | .scalar name, level, _, printable => by
      rw [print]
      exact writtenAs_printScalar (printable name (by simp [names]))
  | .optional t, level, unique, printable => by
      have argument := writtenAs_printArgument (writtenAs_print layout t level unique printable)
      rw [print]
      exact writtenAs_applied (writtenAs_keyword "Optional" (by decide)) argument .optional
  | .list t, level, unique, printable => by
      have argument := writtenAs_printArgument (writtenAs_print layout t level unique printable)
      rw [print]
      exact writtenAs_applied (writtenAs_keyword "List" (by decide)) argument .list
  | .record [], level, _, _ => by
      have opening : WrittenAs Anything "\x7b" (OneWritten .openBrace) :=
        writtenAs_symbol [] '\x7b' [] rfl rfl (by simp) (by simp)
      have closing : WrittenAs Anything "\x7d" (OneWritten .closeBrace) :=
        writtenAs_symbol [] '\x7d' [] rfl rfl (by simp) (by simp)
      rw [print]
      refine (opening.append closing fun _ _ => trivial).before.mono ?_
      rintro _ ⟨_, _, rfl, ⟨_, openKind, rfl⟩, ⟨_, closeKind, rfl⟩⟩
      exact .emptyRecord openKind closeKind
  | .record (field :: rest), level, unique, printable => by
      have body := writtenAs_printFields layout (field :: rest) level (by simp) unique.2 printable
      rw [print]
      have opened := (layout.writtenAs_opening level).append body fun _ _ => trivial
      refine (opened.append (layout.writtenAs_closing level)
        fun rest _ => layout.detached_closing level rest).before.mono ?_
      rintro _ ⟨_, _, rfl, ⟨_, _, rfl, ⟨_, openKind, rfl⟩, fields⟩, ⟨_, closeKind, rfl⟩⟩
      exact .record openKind fields unique.1 closeKind

theorem writtenAs_printFields (layout : Layout) :
    ∀ (fields : List (String × TypeExpr)) (level : Nat), fields ≠ [] →
      UniqueLabelsFields fields → (∀ name ∈ namesFields fields, Quotable name) →
        WrittenAs Detached (printFields layout level fields) fun ws => StrictFields ws fields
  | [], _, nonempty, _, _ => absurd rfl nonempty
  | (label, t) :: [], level, _, unique, printable => by
      have inner := writtenAs_print layout t (layout.fieldLevel level) unique.1
        fun name member => printable name (by simp [namesFields, member])
      rw [printFields]
      refine (writtenAs_field (printable label (by simp [namesFields])) inner).mono ?_
      exact fun _ field => .one field
  | (label, t) :: second :: rest, level, _, unique, printable => by
      have inner := writtenAs_print layout t (layout.fieldLevel level) unique.1
        fun name member => printable name (by simp [namesFields, member])
      have others := writtenAs_printFields layout (second :: rest) level (by simp) unique.2
        fun name member => printable name (by rw [namesFields]; simp [member])
      have field := writtenAs_field (printable label (by simp [namesFields])) inner
      rw [printFields]
      have separated := field.append (layout.writtenAs_separator level)
        fun rest _ => layout.detached_separator level rest
      refine (separated.append others fun _ _ => trivial).mono ?_
      rintro _ ⟨_, _, rfl, ⟨_, _, rfl, field, ⟨comma, commaKind, rfl⟩⟩, fields⟩
      rw [List.append_assoc, List.singleton_append]
      exact .more field commaKind fields

end

/-!
### Texts
-/

/-- The text of a well-formed printable type has tokens, which derive it in the stricter grammar. -/
theorem lex_print {t : TypeExpr} (unique : t.UniqueLabels) (printable : t.Printable)
    (layout : Layout) (level : Nat) :
    ∃ l, lex (print layout level t) = .ok l ∧
      Strict (l.tokens.map (Token.written (print layout level t).toList)) t := by
  obtain ⟨lexemes, strict, spaced⟩ := writtenAs_print layout t level unique printable
  have whole := spaced [] [] (.finish (by simp)) detached_nil
  rw [List.append_nil, List.append_nil] at whole
  obtain ⟨l, lexed, written⟩ := whole.lex_written
  exact ⟨l, lexed, written ▸ strict⟩

/-- In both layouts and at every level, a type is printed in the stricter grammar exactly if it is
well formed and printable. -/
theorem strict_print_iff (t : TypeExpr) (layout : Layout) (level : Nat) :
    (∃ l, lex (print layout level t) = .ok l ∧
      Strict (l.tokens.map (Token.written (print layout level t).toList)) t) ↔
        t.UniqueLabels ∧ t.Printable := by
  constructor
  · rintro ⟨l, lexed, strict⟩
    have derived := strict.derives_tokens
    exact ⟨derived.uniqueLabels, derived.printable (quotable_of_lexFrom lexed)⟩
  · rintro ⟨unique, printable⟩
    exact lex_print unique printable layout level

end TypedManifests.TypeExpr

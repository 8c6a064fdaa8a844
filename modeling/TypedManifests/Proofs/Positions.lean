/-
Module: TypedManifests.Proofs.Positions
Purpose: Reported positions are exact. Whatever is reported of a text stands at a place that one
  reaches by reading the text up to it, so that line and column count what was read, and the excerpt
  shows the line at this place with the caret under it.
Main exports: line_after, column_start_after, PlacedIn, placedIn_of_lexFrom, StandsIn,
  standsIn_of_lexFrom, LineAt, lineAt, ShowsPlace, LineAt.shows, ReportsExactly, readError_placed
-/
import TypedManifests.Proofs.FirstFault
import TypedManifests.TypeExpr.ErrorMessage

namespace TypedManifests

open TypedManifests.Text

/-!
### Counting lines and columns
-/

namespace Text

namespace Position

/-- A line is counted for each line feed that was passed. -/
theorem line_after (p : Position) (text : List Char) :
    (p.after text).line = p.line + text.count '\n' := by
  induction text generalizing p with
  | nil => rfl
  | cons c text ih =>
      rw [after_cons, ih, next]
      by_cases lineFeed : c = '\n'
      · simp only [lineFeed, if_true, List.count_cons_self]
        omega
      · simp [lineFeed]

theorem after_concat (p : Position) (text : List Char) (c : Char) :
    p.after (text ++ [c]) = (p.after text).next c := by
  rw [after_append]
  rfl

/-- The column counts the characters since the last line feed. -/
theorem column_start_after (text : List Char) :
    (start.after text).column = (text.reverse.takeWhile (· ≠ '\n')).length + 1 := by
  induction text using List.reverseRecOn with
  | nil => rfl
  | append_singleton text c ih =>
      rw [after_concat, next, List.reverse_append, List.reverse_singleton, List.singleton_append]
      by_cases lineFeed : c = '\n'
      · simp [lineFeed]
      · simp [lineFeed, ih]

end Position

end Text

/-!
### Places that the lexer reports
-/

namespace TypeExpr

/-- `q` is a place of the text `s` that begins at `p`: it is reached by reading a part of it. -/
def PlacedIn (p : Position) (s : List Char) (q : Position) : Prop :=
  ∃ before after, s = before ++ after ∧ q = p.after before

theorem PlacedIn.first (p : Position) (s : List Char) : PlacedIn p s p := ⟨[], s, rfl, rfl⟩

theorem PlacedIn.last (p : Position) (s : List Char) : PlacedIn p s (p.after s) :=
  ⟨s, [], (List.append_nil s).symm, rfl⟩

/-- A place in the rest of a text is a place in the text. -/
theorem PlacedIn.behind {p q : Position} {s : List Char} (front : List Char)
    (placed : PlacedIn (p.after front) s q) : PlacedIn p (front ++ s) q := by
  obtain ⟨before, after, rfl, rfl⟩ := placed
  exact ⟨front ++ before, after, (List.append_assoc _ _ _).symm, (Position.after_append _ _ _).symm⟩

theorem map_eq_error {ε α β : Type} {f : α → β} {result : Except ε α} {e : ε} :
    result.map f = .error e ↔ result = .error e := by
  cases result <;> simp [Except.map]

theorem mapError_eq_error {ε ε' α : Type} {f : ε → ε'} {result : Except ε α} {e' : ε'} :
    result.mapError f = .error e' ↔ ∃ e, result = .error e ∧ f e = e' := by
  cases result <;> simp [Except.mapError]

/-- What stands between two backticks is read with them, and the lexer goes on behind. -/
theorem quoted_split {rest label after : List Char}
    (found : quotedLabel? rest = some (label, after)) :
    backtick :: rest = (backtick :: label ++ [backtick]) ++ after := by
  simp [quotedLabel?_eq_some found]

theorem word_split (c : Char) (rest : List Char) :
    c :: rest = (c :: rest.takeWhile isLabelChar) ++ rest.dropWhile isLabelChar := by
  simp

/-- Every token begins at a place of the text, and the text ends behind all of its characters. -/
theorem placedIn_of_lexFrom {p : Position} {s : List Char} {l : Lexed} (h : lexFrom p s = .ok l) :
    l.finish = p.after s ∧ ∀ token ∈ l.tokens, PlacedIn p s token.position := by
  fun_induction lexFrom p s generalizing l with
  | case1 p =>
      cases h
      simp
  | case2 p c rest blank ih =>
      obtain ⟨finish, placed⟩ := ih h
      exact ⟨finish, fun token member => (placed token member).behind [c]⟩
  | case3 p c rest blank kind symbol ih =>
      obtain ⟨others, taken, rfl⟩ := map_eq_ok.1 h
      obtain ⟨finish, placed⟩ := ih taken
      refine ⟨finish, List.forall_mem_cons.2 ⟨.first p _, fun token member => ?_⟩⟩
      exact (placed token member).behind [c]
  | case4 => cases h
  | case5 p rest label after label_eq _ _ ih =>
      obtain ⟨others, taken, rfl⟩ := map_eq_ok.1 h
      obtain ⟨finish, placed⟩ := ih taken
      rw [quoted_split label_eq, Position.after_append]
      refine ⟨finish, List.forall_mem_cons.2 ⟨.first p _, fun token member => ?_⟩⟩
      exact (placed token member).behind _
  | case6 p c rest blank _ noTick _ word =>
      rename_i ih
      obtain ⟨others, taken, rfl⟩ := map_eq_ok.1 h
      obtain ⟨finish, placed⟩ := ih taken
      rw [word_split, Position.after_append]
      refine ⟨finish, List.forall_mem_cons.2 ⟨.first p _, fun token member => ?_⟩⟩
      exact (placed token member).behind _
  | case7 => cases h

/-- The character `c` stands at the place `q` of the text `s` that begins at `p`. -/
def StandsIn (p : Position) (s : List Char) (q : Position) (c : Char) : Prop :=
  ∃ before after, s = before ++ c :: after ∧ q = p.after before

theorem StandsIn.first (p : Position) (c : Char) (s : List Char) : StandsIn p (c :: s) p c :=
  ⟨[], s, rfl, rfl⟩

theorem StandsIn.behind {p q : Position} {s : List Char} {c : Char} (front : List Char)
    (stands : StandsIn (p.after front) s q c) : StandsIn p (front ++ s) q c := by
  obtain ⟨before, after, rfl, rfl⟩ := stands
  exact ⟨front ++ before, after, (List.append_assoc _ _ _).symm, (Position.after_append _ _ _).symm⟩

/-- A text is refused at the character that the error names. -/
theorem standsIn_of_lexFrom {p : Position} {s : List Char} {e : LexError}
    (h : lexFrom p s = .error e) : StandsIn p s e.position e.char := by
  fun_induction lexFrom p s with
  | case1 p => cases h
  | case2 p c rest blank ih => exact (ih h).behind [c]
  | case3 p c rest blank kind symbol ih => exact (ih (map_eq_error.1 h)).behind [c]
  | case4 =>
      cases h
      exact .first _ _ _
  | case5 p rest label after label_eq _ _ ih =>
      rw [quoted_split label_eq]
      exact (ih (map_eq_error.1 h)).behind _
  | case6 p c rest blank _ noTick _ word =>
      rename_i ih
      rw [word_split]
      exact (ih (map_eq_error.1 h)).behind _
  | case7 =>
      cases h
      exact .first _ _ _

end TypeExpr

/-!
### Lines and excerpts
-/

namespace Text

/-- The line of the text that holds the place behind `offset` characters: it reaches from `start` to
`stop`, where a line feed or the end of the text follows. -/
structure LineAt (text : List Char) (offset start stop : Nat) : Prop where
  start_le : start ≤ offset
  le_stop : offset ≤ stop
  stop_le : stop ≤ text.length
  begins : start = 0 ∨ text[start - 1]? = some '\n'
  ends : stop = text.length ∨ text[stop]? = some '\n'
  unbroken : '\n' ∉ (text.take stop).drop start

/-- The first line of a text, and what is behind it. -/
theorem exists_firstLine (text : List Char) :
    ∃ rest, text = text.takeWhile (· ≠ '\n') ++ rest ∧ '\n' ∉ text.takeWhile (· ≠ '\n') ∧
      (rest = [] ∨ ∃ lines, rest = '\n' :: lines) := by
  refine ⟨_, List.takeWhile_append_dropWhile.symm, fun member => ?_, ?_⟩
  · simpa using List.mem_takeWhile_imp member
  · have feed := List.head?_dropWhile_not (· ≠ '\n') text
    cases dropped : text.dropWhile (· ≠ '\n') with
    | nil => exact Or.inl rfl
    | cons c rest =>
        rw [dropped] at feed
        obtain rfl : c = '\n' := by simpa using feed
        exact Or.inr ⟨rest, rfl⟩

/-- The last line of a text, and what is before it. -/
theorem exists_lastLine (text : List Char) :
    ∃ head line, text = head ++ line ∧ (text.reverse.takeWhile (· ≠ '\n')).length = line.length ∧
      '\n' ∉ line ∧ (head = [] ∨ ∃ lines, head = lines ++ ['\n']) := by
  obtain ⟨rest, split, noFeed, feed⟩ := exists_firstLine text.reverse
  generalize text.reverse.takeWhile (· ≠ '\n') = line at *
  refine ⟨rest.reverse, line.reverse, ?_, by simp, by simpa using noFeed, ?_⟩
  · rw [← List.reverse_append, ← split, List.reverse_reverse]
  · rcases feed with rfl | ⟨lines, rfl⟩
    · exact Or.inl rfl
    · exact Or.inr ⟨lines.reverse, by simp⟩

theorem lineAt {text : List Char} {offset : Nat} (inside : offset ≤ text.length) :
    LineAt text offset (lineStart text offset) (lineEnd text offset) := by
  obtain ⟨head, left, before, count, leftFree, begins⟩ := exists_lastLine (text.take offset)
  obtain ⟨rest, after, rightFree, ends⟩ := exists_firstLine (text.drop offset)
  rw [lineStart, lineEnd, count, before, Nat.min_eq_left inside]
  generalize (text.drop offset).takeWhile (· ≠ '\n') = right at *
  have whole : text = head ++ (left ++ right) ++ rest := by
    rw [← List.append_assoc, List.append_assoc, ← after, ← before, List.take_append_drop]
  have reached : offset = head.length + left.length := by
    rw [← List.length_append, ← before, List.length_take, Nat.min_eq_left inside]
  have stop : offset + right.length = (head ++ (left ++ right)).length := by
    simp only [List.length_append]
    omega
  rw [List.length_append, Nat.add_sub_cancel, stop, whole]
  refine ⟨by omega, by omega, by simp, ?_, ?_, ?_⟩
  · rcases begins with rfl | ⟨lines, rfl⟩
    · exact Or.inl rfl
    · exact Or.inr (by simp [List.append_assoc])
  · rcases ends with rfl | ⟨lines, rfl⟩
    · exact Or.inl (by rw [List.append_nil])
    · exact Or.inr (by simp)
  · rw [List.take_left, List.drop_left]
    simpa using ⟨leftFree, rightFree⟩

/-- The context of a place is two lines: the part of the line from `start` to `stop` that lies
within 30 characters of the place, and a caret. If the place is in front of a character of the line,
the caret is below this character. -/
def ShowsPlace (text : List Char) (offset column start stop : Nat) (context : String) : Prop :=
  ∃ snippet, snippet = (text.take (min stop (offset + 30))).drop (max start (offset - 30)) ∧
    '\n' ∉ snippet ∧
      context = String.ofList
        (snippet ++ '\n' :: List.replicate (min (column - 1) 30) ' ' ++ ['^']) ∧
      (offset < stop → snippet[min (column - 1) 30]? = text[offset]?)

theorem mem_slice {c : Char} {text : List Char} {first last : Nat} :
    c ∈ (text.take last).drop first ↔ ∃ i, first ≤ i ∧ i < last ∧ text[i]? = some c := by
  rw [List.mem_iff_getElem?]
  simp only [List.getElem?_drop, List.getElem?_take]
  constructor
  · rintro ⟨i, found⟩
    split at found
    · next below => exact ⟨first + i, by omega, below, found⟩
    · cases found
  · rintro ⟨i, above, below, found⟩
    exact ⟨i - first, by rw [Nat.add_sub_cancel' above, if_pos below]; exact found⟩

/-- The excerpt shows the place that it was made for. -/
theorem LineAt.shows {text : List Char} {offset : Nat}
    (line : LineAt text offset (lineStart text offset) (lineEnd text offset)) :
    ShowsPlace text offset (offset - lineStart text offset + 1) (lineStart text offset)
      (lineEnd text offset) (excerpt text offset excerptWidth) := by
  obtain ⟨start_le, le_stop, _, _, _, unbroken⟩ := line
  rw [excerpt, excerptWidth]
  generalize lineStart text offset = start at *
  generalize lineEnd text offset = stop at *
  have caret : offset - max start (offset - 30) = min (offset - start) 30 := by omega
  rw [caret]
  refine ⟨_, rfl, fun feed => ?_, by rw [Nat.add_sub_cancel], fun below => ?_⟩
  · obtain ⟨i, above, below, found⟩ := mem_slice.1 feed
    exact unbroken (mem_slice.2 ⟨i, by omega, by omega, found⟩)
  · have here : max start (offset - 30) + min (offset - start) 30 = offset := by omega
    rw [Nat.add_sub_cancel, List.getElem?_drop, List.getElem?_take, here, if_pos (by omega)]

end Text

/-!
### Errors
-/

namespace TypeExpr

/-- Where a text is at fault. -/
def ReadError.position : ReadError → Position
  | .lex e => e.position
  | .parse e => e.position

/-- The part of the source that is shown with the fault. -/
def ReadError.context (source : String) : ReadError → String
  | .lex e => e.context source
  | .parse e => e.context source

/-- What is reported of a source is true of one of its places: the offset is inside of the source,
line and column are those of the offset, the context shows it, and a character that begins no token
stands there. -/
structure ReportsExactly (source : String) (e : ReadError) : Prop where
  inside : e.position.offset ≤ source.toList.length
  line : e.position.line = 1 + (source.toList.take e.position.offset).count '\n'
  column : ∃ start stop, LineAt source.toList e.position.offset start stop ∧
    e.position.column = e.position.offset - start + 1 ∧
      (source ≠ "" → ShowsPlace source.toList e.position.offset e.position.column start stop
        (e.context source))
  char : ∀ l, e = .lex l → source.toList[e.position.offset]? = some l.char ∧
    l.byteOffset source = String.utf8Len (source.toList.take e.position.offset)

theorem StandsIn.placed {p q : Position} {s : List Char} {c : Char} (stands : StandsIn p s q c) :
    PlacedIn p s q := by
  obtain ⟨before, after, split, reached⟩ := stands
  exact ⟨before, c :: after, split, reached⟩

theorem StandsIn.getElem?_eq_some {q : Position} {s : List Char} {c : Char}
    (stands : StandsIn .start s q c) : s[q.offset]? = some c := by
  obtain ⟨before, after, rfl, rfl⟩ := stands
  rw [Position.offset_after, Position.start, Nat.zero_add]
  simp

/-- An error at a place of the source reports this place. -/
theorem PlacedIn.reportsExactly {source : String} {e : ReadError}
    (placed : PlacedIn .start source.toList e.position)
    (context : source ≠ "" →
      e.context source = excerpt source.toList e.position.offset excerptWidth)
    (char : ∀ l, e = .lex l → StandsIn .start source.toList l.position l.char) :
    ReportsExactly source e := by
  obtain ⟨before, after, split, reached⟩ := placed
  have offset : e.position.offset = before.length := by
    rw [reached, Position.offset_after]
    simp [Position.start]
  have read : source.toList.take e.position.offset = before := by
    rw [offset, split, List.take_left]
  have inside : e.position.offset ≤ source.toList.length := by
    rw [offset, split, List.length_append]
    omega
  have line := lineAt inside
  have column : e.position.column =
      e.position.offset - lineStart source.toList e.position.offset + 1 := by
    have part := (List.takeWhile_sublist (· ≠ '\n') (l := before.reverse)).length_le
    rw [List.length_reverse] at part
    rw [lineStart, read, offset, reached, Position.column_start_after]
    omega
  refine ⟨inside, ?_, ?_, ?_⟩
  · rw [read, reached, Position.line_after, Position.start]
  · refine ⟨_, _, line, column, fun nonempty => ?_⟩
    rw [column, context nonempty]
    exact line.shows
  · rintro l rfl
    exact ⟨(char l rfl).getElem?_eq_some, String.utf8ByteSize_ofList _⟩

theorem LexError.reportsExactly {source : String} {e : LexError} (h : lex source = .error e) :
    ReportsExactly source (.lex e) := by
  have stands := standsIn_of_lexFrom h
  refine stands.placed.reportsExactly (fun _ => rfl) ?_
  rintro _ ⟨⟩
  exact stands

/-- A fault of the tokens of a source stands where one of them does, or at the end. -/
theorem Fault.reportsExactly {viable refused : List Token → Prop} {source : String} {l : Lexed}
    {e : ParseError} (h : lex source = .ok l)
    (fault : Fault viable refused [] l.finish l.tokens e) :
    ReportsExactly source (.parse e) := by
  obtain ⟨finish, tokens⟩ := placedIn_of_lexFrom h
  have placed : PlacedIn .start source.toList e.position := by
    rcases fault.position with atEnd | ⟨token, member, atToken⟩
    · rw [atEnd, finish]
      exact .last _ _
    · rw [atToken]
      exact tokens token member
  exact placed.reportsExactly (fun nonempty => if_neg nonempty) (by simp)

theorem parse_reportsExactly {source : String} {e : ReadError} (h : parse source = .error e) :
    ReportsExactly source e := by
  rw [parse] at h
  split at h
  · next failed =>
    cases h
    exact LexError.reportsExactly failed
  · next lexed =>
    obtain ⟨e, failed, rfl⟩ := mapError_eq_error.1 h
    exact (parseTokens_fault failed).reportsExactly lexed

theorem parseRecord_reportsExactly {source : String} {e : ReadError}
    (h : parseRecord source = .error e) : ReportsExactly source e := by
  rw [parseRecord] at h
  split at h
  · next failed =>
    cases h
    exact LexError.reportsExactly failed
  · next lexed =>
    obtain ⟨e, failed, rfl⟩ := mapError_eq_error.1 h
    exact (parseRecordTokens_fault failed).reportsExactly lexed

/-- Reported positions are exact, whatever the source is and whatever is wrong with it. -/
theorem readError_placed {source : String} {e : ReadError}
    (h : parse source = .error e ∨ parseRecord source = .error e) : ReportsExactly source e :=
  h.elim parse_reportsExactly parseRecord_reportsExactly

/-- A character that begins no token, behind a label with a character of two bytes; and a comma in
the place of a type, on the second line. -/
theorem readError_placed_lines :
    let unread : ReadError := .lex ⟨.unexpectedCharacter, ';', ⟨5, 1, 6⟩⟩
    let untyped : ReadError := .parse ⟨.typeExpr, some ",", ⟨5, 2, 4⟩⟩
    (parse "\x7b\x60é\x60 ;" = .error unread ∧ ReportsExactly "\x7b\x60é\x60 ;" unread) ∧
      parseRecord "\x7b\n a:,\x7d" = .error untyped ∧
        ReportsExactly "\x7b\n a:,\x7d" untyped := by
  intro unread untyped
  have first : parse "\x7b\x60é\x60 ;" = .error unread := by cbv
  have second : parseRecord "\x7b\n a:,\x7d" = .error untyped := by cbv
  exact ⟨⟨first, readError_placed (Or.inl first)⟩, second, readError_placed (Or.inr second)⟩

end TypeExpr

end TypedManifests

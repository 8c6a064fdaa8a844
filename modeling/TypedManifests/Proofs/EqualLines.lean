/-
Module: TypedManifests.Proofs.EqualLines
Purpose: The difference of two lists of lines is empty if and only if the lists are equal. A stretch
  is found only where the lines agree, so a difference without changes has walked both lists side by
  side to their ends. In a list and itself the longest stretch is found on the diagonal, from where
  it is drawn out over the whole list.
Main exports: Stretch.Agrees, longestFrom_induct, longest_agrees, stretches_agree, common_agree,
  longest_self, AllSame, groups_eq_nil_iff, unified_eq_nil_iff
-/
import TypedManifests.Diff.Unified

namespace TypedManifests.Diff

/-- The lines of the stretch stand in both lists, and they are the same. -/
def Stretch.Agrees (s : Stretch) (left right : List String) : Prop :=
  ∃ before before' lines after after', left = before ++ lines ++ after ∧
    right = before' ++ lines ++ after' ∧ before.length = s.left ∧ before'.length = s.right ∧
      lines.length = s.size

theorem Stretch.agrees_empty (left right : List String) :
    (⟨0, 0, 0⟩ : Stretch).Agrees left right :=
  ⟨[], [], [], left, right, rfl, rfl, rfl, rfl, rfl⟩

/-!
### The rows of the table

Each row tells, for every line of the second list, how far the two lists agree when they are read
backwards from there. `endingAt` makes each row from the one before it.
-/

variable (frequent : List String)

/-- How many lines two lists begin with in common before one that is frequent. -/
def rareShared : List String → List String → Nat
  | a :: rest, b :: others =>
    if b = a ∧ b ∉ frequent then rareShared rest others + 1 else 0
  | _, _ => 0

theorem exists_rareShared : ∀ front back : List String, ∃ shared rest rest',
    front = shared ++ rest ∧ back = shared ++ rest' ∧
      shared.length = rareShared frequent front back
  | a :: front, b :: back => by
      rw [rareShared]
      split
      · next same =>
        obtain ⟨shared, rest, rest', eq, eq', length⟩ := exists_rareShared front back
        exact ⟨a :: shared, rest, rest', by rw [eq, List.cons_append],
          by rw [eq', same.1, List.cons_append], by rw [List.length_cons, length]⟩
      · exact ⟨[], _, _, rfl, rfl, rfl⟩
  | [], _ => ⟨[], _, _, rfl, rfl, rfl⟩
  | _ :: _, [] => ⟨[], _, _, rfl, rfl, rfl⟩

/-- A list has no more in common with another one than with itself. -/
theorem rareShared_le_self : ∀ front back : List String,
    rareShared frequent front back ≤ rareShared frequent front front ∧
      rareShared frequent front back ≤ rareShared frequent back back
  | a :: rest, b :: others => by
      have inside := rareShared_le_self rest others
      simp only [rareShared]
      grind
  | [], _ => by simp [rareShared]
  | _ :: _, [] => by simp [rareShared]

/-- The row of the line that `done` begins with; both lists are read backwards, and `seen` are the
lines of the second one before those that the row is for. -/
def rowFrom (done : List String) : (seen right : List String) → List Nat
  | _, [] => []
  | seen, line :: rest =>
    rareShared frequent done (line :: seen) :: rowFrom done (line :: seen) rest

theorem rowFrom_nil (seen right : List String) :
    rowFrom frequent [] seen right = right.map fun _ => 0 := by
  induction right generalizing seen with
  | nil => rfl
  | cons line rest ih => rw [rowFrom, ih, List.map_cons, rareShared]; simp

theorem endingAt_rowFrom (line : String) (done seen right : List String) :
    endingAt frequent line (rareShared frequent done seen :: rowFrom frequent done seen right)
        right = rowFrom frequent (line :: done) seen right := by
  induction right generalizing seen with
  | nil => rfl
  | cons other rest ih => rw [rowFrom, endingAt, ih, rowFrom, rareShared]

theorem endingAt_row (line : String) (done right : List String) :
    endingAt frequent line (0 :: rowFrom frequent done [] right) right =
      rowFrom frequent (line :: done) [] right := by
  have first : rareShared frequent done [] = 0 := by cases done <;> rfl
  rw [← endingAt_rowFrom, first]

/-- The stretch that ends with the lines that both lists begin with when they are read backwards. -/
def stretchEndingAt (done seen : List String) : Stretch :=
  let size := rareShared frequent done seen
  ⟨done.length - size, seen.length - size, size⟩

/-- The best stretch when one more entry of a row was looked at. -/
def betterOf (best : Stretch) (done seen : List String) : Stretch :=
  if best.size < rareShared frequent done seen then stretchEndingAt frequent done seen else best

variable {frequent}

/-- What holds of the best stretch so far, for each entry of the row. -/
theorem bestInRow_induct {holds : List String → Stretch → Prop} {right : List String}
    {done : List String} {line : String}
    (entry : ∀ other seen best, other :: seen <:+ right.reverse → holds seen best →
      holds (other :: seen) (betterOf frequent best (line :: done) (other :: seen)))
    {rest : List String} : ∀ {seen : List String} {best : Stretch}, seen.reverse ++ rest = right →
      holds seen best → holds right.reverse
        (bestInRow done.length best seen.length (rowFrom frequent (line :: done) seen rest)) := by
  induction rest with
  | nil =>
      rintro seen best rfl start
      simpa [rowFrom, bestInRow] using start
  | cons other rest ih =>
      intro seen best split start
      have next : (other :: seen).reverse ++ rest = right := by simpa using split
      have suffix : other :: seen <:+ right.reverse := by simp [← next]
      exact ih next (entry other seen best suffix start)

/-- What holds of the best stretch so far, from row to row and from entry to entry. -/
theorem longestFrom_induct (holds : List String → List String → Stretch → Prop)
    {left right : List String} (start : holds [] right.reverse ⟨0, 0, 0⟩)
    (row : ∀ line done best, line :: done <:+ left.reverse → holds done right.reverse best →
      holds (line :: done) [] best)
    (entry : ∀ line done other seen best, line :: done <:+ left.reverse →
      other :: seen <:+ right.reverse → holds (line :: done) seen best →
        holds (line :: done) (other :: seen)
          (betterOf frequent best (line :: done) (other :: seen))) :
    holds left.reverse right.reverse
      (longestFrom frequent right ⟨0, 0, 0⟩ 0 (right.map fun _ => 0) left) := by
  have walk (rest : List String) : ∀ {done : List String} {best : Stretch},
      done.reverse ++ rest = left → holds done right.reverse best →
        holds left.reverse right.reverse
          (longestFrom frequent right best done.length (rowFrom frequent done [] right) rest) := by
    induction rest with
    | nil =>
        rintro done best rfl start
        simpa [longestFrom] using start
    | cons line rest ih =>
        intro done best split start
        have next : (line :: done).reverse ++ rest = left := by simpa using split
        have suffix : line :: done <:+ left.reverse := by simp [← next]
        simp only [longestFrom, endingAt_row]
        exact ih next (bestInRow_induct
          (fun other seen best => entry line done other seen best suffix) rfl
          (row line done best suffix start))
  rw [← rowFrom_nil frequent []]
  exact walk left rfl start

/-!
### What is found agrees

The best stretch so far agrees, and it still does when it is drawn out, put among the stretches of
the lines around it and joined with its neighbours.
-/

theorem stretchEndingAt_agrees {left right done seen : List String}
    (inLeft : done <:+ left.reverse) (inRight : seen <:+ right.reverse) :
    (stretchEndingAt frequent done seen).Agrees left right := by
  obtain ⟨after, eq⟩ := inLeft
  obtain ⟨after', eq'⟩ := inRight
  obtain ⟨shared, rest, rest', rfl, rfl, length⟩ := exists_rareShared frequent done seen
  refine ⟨rest.reverse, rest'.reverse, shared.reverse, after.reverse, after'.reverse, ?_, ?_, ?_⟩
  · simpa using congrArg List.reverse eq.symm
  · simpa using congrArg List.reverse eq'.symm
  · simp [stretchEndingAt, ← length]

theorem longestFrom_agrees (frequent left right : List String) :
    (longestFrom frequent right ⟨0, 0, 0⟩ 0 (right.map fun _ => 0) left).Agrees left right := by
  refine longestFrom_induct (fun _ _ best => best.Agrees left right)
    (Stretch.agrees_empty left right) (fun _ _ _ _ agrees => agrees) ?_
  intro line done other seen best inLeft inRight agrees
  unfold betterOf
  split
  · exact stretchEndingAt_agrees inLeft inRight
  · exact agrees

theorem sharedLength_eq_rareShared : ∀ front back : List String,
    sharedLength front back = rareShared [] front back
  | a :: rest, b :: others => by
      simp [sharedLength, rareShared, sharedLength_eq_rareShared rest others, eq_comm]
  | [], _ => by simp [sharedLength, rareShared]
  | _ :: _, [] => by simp [sharedLength, rareShared]

theorem take_and_drop_of_parts (before lines after : List String) :
    (before ++ lines ++ after).take before.length = before ∧
      (before ++ lines ++ after).drop (before.length + lines.length) = after := by
  simp [← List.drop_drop]

/-- What is found agrees, and so does what it is drawn out to. -/
theorem longest_agrees (frequent left right : List String) :
    (longest frequent left right).Agrees left right := by
  have agrees := longestFrom_agrees frequent left right
  unfold longest
  generalize longestFrom frequent right ⟨0, 0, 0⟩ 0 (right.map fun _ => 0) left = s at agrees ⊢
  obtain ⟨i, j, size⟩ := s
  obtain ⟨before, before', lines, after, after', rfl, rfl, rfl, rfl, rfl⟩ := agrees
  simp only [take_and_drop_of_parts, sharedLength_eq_rareShared]
  obtain ⟨front, rest, rest', isFront, isFront', frontLength⟩ :=
    exists_rareShared [] before.reverse before'.reverse
  obtain ⟨back, more, more', rfl, rfl, backLength⟩ := exists_rareShared [] after after'
  rw [← frontLength, ← backLength]
  rw [List.reverse_eq_iff, List.reverse_append] at isFront isFront'
  refine ⟨rest.reverse, rest'.reverse, front.reverse ++ lines ++ back, more, more', ?_⟩
  simp [isFront, isFront', Nat.add_assoc]

/-- The stretches lie in the lists that the given ones are the middle of. -/
theorem stretches_agree (frequent : List String) (leftStart rightStart : Nat)
    (left right : List String) :
    ∀ before before' after after' : List String, before.length = leftStart →
      before'.length = rightStart → ∀ s ∈ stretches frequent leftStart rightStart left right,
        s.Agrees (before ++ left ++ after) (before' ++ right ++ after') := by
  induction leftStart, rightStart, left, right using stretches.induct frequent with
  | case1 leftStart rightStart left right i j size found nothing =>
      intro before before' after after' _ _ s member
      rw [stretches, found] at member
      simp only at member
      rw [if_pos nothing] at member
      cases member
  | case2 leftStart rightStart left right i j size found begins ahead behind =>
      rintro before before' after after' rfl rfl s member
      have agrees := longest_agrees frequent left right
      rw [stretches, found] at member
      simp only at member
      rw [if_neg begins] at member
      rw [found] at agrees
      obtain ⟨front, front', lines, back, back', rfl, rfl, rfl, rfl, rfl⟩ := agrees
      simp only [take_and_drop_of_parts] at member ahead behind
      rcases List.mem_append.1 member with member | member
      · simpa using ahead before before' (lines ++ back ++ after) (lines ++ back' ++ after') rfl rfl
          s member
      rcases List.mem_cons.1 member with rfl | member
      · exact ⟨before ++ front, before' ++ front', lines, back ++ after, back' ++ after',
          by simp, by simp, by simp, by simp, rfl⟩
      · simpa using behind (before ++ front ++ lines) (before' ++ front' ++ lines) after after'
          (by simp [Nat.add_assoc]) (by simp [Nat.add_assoc]) s member

/-- Two stretches without a gap are one. -/
theorem Stretch.Agrees.join {s next : Stretch} {left right : List String}
    (agrees : s.Agrees left right) (agrees' : next.Agrees left right)
    (atLeft : s.left + s.size = next.left) (atRight : s.right + s.size = next.right) :
    (⟨s.left, s.right, s.size + next.size⟩ : Stretch).Agrees left right := by
  obtain ⟨before, before', lines, after, after', rfl, rfl, leftLength, rightLength, size⟩ := agrees
  obtain ⟨front, front', more, back, back', eq, eq', leftLength', rightLength', size'⟩ := agrees'
  rw [List.append_assoc front] at eq
  rw [List.append_assoc front'] at eq'
  obtain ⟨rfl, rfl⟩ := List.append_inj eq (by simp [*])
  obtain ⟨rfl, rfl⟩ := List.append_inj eq' (by simp [*])
  exact ⟨before, before', lines ++ more, back, back', by simp, by simp, leftLength, rightLength,
    by simp [size, size']⟩

theorem joinAdjacent_agree {left right : List String} {ss : List Stretch}
    (agree : ∀ s ∈ ss, s.Agrees left right) : ∀ s ∈ joinAdjacent ss, s.Agrees left right := by
  induction ss with
  | nil => exact agree
  | cons first rest ih =>
      have others := ih fun s member => agree s (List.mem_cons_of_mem _ member)
      have here := agree first List.mem_cons_self
      rw [joinAdjacent]
      split
      · simpa using here
      · next next more joined =>
        rw [joined, List.forall_mem_cons] at others
        split
        · next adjacent =>
          exact List.forall_mem_cons.2 ⟨here.join others.1 adjacent.1 adjacent.2, others.2⟩
        · exact List.forall_mem_cons.2 ⟨here, List.forall_mem_cons.2 others⟩

theorem common_agree (left right : List String) :
    ∀ s ∈ common left right, s.Agrees left right := by
  refine joinAdjacent_agree fun s member => ?_
  simpa using stretches_agree (frequentLines right) 0 0 left right [] [] [] [] rfl rfl s member

/-!
### Lists without changes

Without changes the parts lead from the beginning of both lists to their ends through lines that
agree.
-/

/-- All parts are the same in both lists. -/
def AllSame (ps : List Part) : Prop := ∀ p ∈ ps, p.same = true

@[simp] theorem allSame_nil : AllSame [] := by simp [AllSame]

@[simp] theorem allSame_cons {p : Part} {rest : List Part} :
    AllSame (p :: rest) ↔ p.same = true ∧ AllSame rest := by simp [AllSame]

@[simp] theorem allSame_append {front back : List Part} :
    AllSame (front ++ back) ↔ AllSame front ∧ AllSame back := List.forall_mem_append

@[simp] theorem allSame_reverse {ps : List Part} : AllSame ps.reverse ↔ AllSame ps := by
  simp [AllSame]

theorem drop_eq_of_same {left right : List String} {ss : List Stretch}
    (agree : ∀ s ∈ ss, s.Agrees left right) : ∀ {i j : Nat},
      AllSame (partsFrom i j left.length right.length ss) → left.drop i = right.drop j := by
  induction ss with
  | nil =>
      intro i j same
      rw [partsFrom] at same
      split at same
      · next ends => simp [ends]
      · simp at same
  | cons s rest ih =>
      intro i j same
      rw [List.forall_mem_cons] at agree
      rw [partsFrom, allSame_append, allSame_cons] at same
      have here : i = s.left ∧ j = s.right := by
        by_cases meets : i = s.left ∧ j = s.right
        · exact meets
        · simp [meets] at same
      have others := ih agree.2 same.2.2
      obtain ⟨before, before', lines, after, after', rfl, rfl, leftLength, rightLength, size⟩ :=
        agree.1
      rw [← leftLength, ← rightLength] at here
      rw [← leftLength, ← rightLength, ← size] at others
      simp only [take_and_drop_of_parts] at others
      simp [here, others]

theorem eq_of_allSame_parts {left right : List String} (same : AllSame (parts left right)) :
    left = right :=
  drop_eq_of_same (common_agree left right) same

/-!
### A list and itself

In each row the entry on the diagonal is the greatest one. Those before it are no greater than the
diagonal entries of earlier rows, so none of them is better than the best stretch so far.
-/

variable (frequent) in
/-- The best stretch lies on the diagonal, and it is as long as any that ends on the diagonal of the
rows walked so far. `done` belongs to them if its diagonal entry is among those of `seen`. -/
structure OnDiagonal (done seen : List String) (best : Stretch) : Prop where
  diagonal : best.left = best.right
  covers : ∀ read, read <:+ done → (read = done → done <:+ seen) →
    rareShared frequent read read ≤ best.size

namespace OnDiagonal

theorem row {line : String} {done lines : List String} {best : Stretch}
    (known : line :: done <:+ lines.reverse) (on : OnDiagonal frequent done lines.reverse best) :
    OnDiagonal frequent (line :: done) [] best := by
  refine ⟨on.diagonal, fun read earlier unread => ?_⟩
  rcases List.suffix_cons_iff.1 earlier with rfl | earlier
  · simpa using unread rfl
  · exact on.covers read earlier fun _ => (List.suffix_cons line done).trans known

/-- An entry off the diagonal changes nothing. -/
theorem entry_apart {done seen : List String} {other : String} {best : Stretch}
    (on : OnDiagonal frequent done seen best) (apart : done ≠ other :: seen)
    (known : done <:+ other :: seen ∨ other :: seen <:+ done) :
    OnDiagonal frequent done (other :: seen) (betterOf frequent best done (other :: seen)) := by
  have bounds := rareShared_le_self frequent done (other :: seen)
  have small : rareShared frequent done (other :: seen) ≤ best.size := by
    rcases known with later | earlier
    · have later := (List.suffix_cons_iff.1 later).resolve_left apart
      exact Nat.le_trans bounds.1 (on.covers done (List.suffix_refl done) fun _ => later)
    · exact Nat.le_trans bounds.2 (on.covers _ earlier fun same => absurd same.symm apart)
  rw [betterOf, if_neg (Nat.not_lt.2 small)]
  refine ⟨on.diagonal, fun read earlier unread => on.covers read earlier fun same => ?_⟩
  exact (List.suffix_cons_iff.1 (unread same)).resolve_left apart

/-- On the diagonal a longer stretch replaces the best one. -/
theorem entry_diagonal {seen : List String} {other : String} {best : Stretch}
    (on : OnDiagonal frequent (other :: seen) seen best) :
    OnDiagonal frequent (other :: seen) (other :: seen)
      (betterOf frequent best (other :: seen) (other :: seen)) := by
  have covered (read : List String) (earlier : read <:+ other :: seen)
      (before : read ≠ other :: seen) : rareShared frequent read read ≤ best.size :=
    on.covers read earlier fun same => absurd same before
  unfold betterOf
  split
  · next better =>
    refine ⟨rfl, fun read earlier _ => ?_⟩
    by_cases here : read = other :: seen
    · rw [here]
      exact Nat.le_refl _
    · exact Nat.le_trans (covered read earlier here) (Nat.le_of_lt better)
  · next enough =>
    refine ⟨on.diagonal, fun read earlier _ => ?_⟩
    by_cases here : read = other :: seen
    · rw [here]
      exact Nat.not_lt.1 enough
    · exact covered read earlier here

theorem entry {done seen lines : List String} {other : String} {best : Stretch}
    (inLeft : done <:+ lines.reverse) (inRight : other :: seen <:+ lines.reverse)
    (on : OnDiagonal frequent done seen best) :
    OnDiagonal frequent done (other :: seen) (betterOf frequent best done (other :: seen)) := by
  by_cases here : done = other :: seen
  · subst here
    exact on.entry_diagonal
  · exact on.entry_apart here (List.suffix_or_suffix_of_suffix inLeft inRight)

end OnDiagonal

theorem longestFrom_self (frequent lines : List String) :
    OnDiagonal frequent lines.reverse lines.reverse
      (longestFrom frequent lines ⟨0, 0, 0⟩ 0 (lines.map fun _ => 0) lines) := by
  refine longestFrom_induct (OnDiagonal frequent) ⟨rfl, fun read nothing _ => ?_⟩
    (fun _ _ _ => .row) (fun _ _ _ _ _ => .entry)
  rw [List.suffix_nil.1 nothing]
  exact Nat.le_refl 0

theorem rareShared_self (lines : List String) : rareShared [] lines lines = lines.length := by
  induction lines with
  | nil => rfl
  | cons line rest ih => simp [rareShared, ih]

/-- What a list has in common with itself is the whole list. -/
theorem longest_self (frequent lines : List String) :
    longest frequent lines lines = ⟨0, 0, lines.length⟩ := by
  have agrees := longestFrom_agrees frequent lines lines
  have diagonal := (longestFrom_self frequent lines).diagonal
  unfold longest
  generalize longestFrom frequent lines ⟨0, 0, 0⟩ 0 (lines.map fun _ => 0) lines = s at *
  obtain ⟨i, j, size⟩ := s
  simp only at diagonal
  obtain ⟨before, _, found, after, _, rfl, _, rfl, _, rfl⟩ := agrees
  subst diagonal
  simp only [take_and_drop_of_parts, sharedLength_eq_rareShared, rareShared_self]
  simp [Nat.add_assoc]

theorem stretches_self (frequent lines : List String) :
    stretches frequent 0 0 lines lines =
      if lines = [] then [] else [⟨0, 0, lines.length⟩] := by
  have behind : stretches frequent lines.length lines.length [] [] = [] := by
    rw [stretches, longest_self]
    rfl
  have ahead : stretches frequent 0 0 [] [] = [] := by
    rw [stretches, longest_self]
    rfl
  rw [stretches, longest_self]
  simp [behind, ahead]

theorem allSame_parts_self (lines : List String) : AllSame (parts lines lines) := by
  rw [parts, common, stretches_self]
  split
  · next empty => simp [empty, joinAdjacent, partsFrom]
  · simp [joinAdjacent, partsFrom]

/-!
### Groups without changes
-/

theorem allSame_trimFirst (ps : List Part) : AllSame (trimFirst ps) ↔ AllSame ps := by
  cases ps with
  | nil => rfl
  | cons p rest => simp [trimFirst, apply_ite Part.same, Part.last]

theorem allSame_trimLast (ps : List Part) : AllSame (trimLast ps) ↔ AllSame ps := by
  induction ps using trimLast.induct with
  | case1 => rfl
  | case2 p => simp [trimLast, apply_ite Part.same, Part.first]
  | case3 p rest more ih => simp [trimLast, ih]

theorem allSame_groupsFrom (ps : List Part) : ∀ group : List Part,
    (∀ g ∈ groupsFrom group ps, AllSame g) ↔ AllSame group ∧ AllSame ps := by
  induction ps with
  | nil => simp [groupsFrom]
  | cons p rest ih =>
      intro group
      rw [groupsFrom]
      split
      · next long =>
        rw [List.forall_mem_cons, ih, allSame_reverse]
        simp [Part.first, Part.last, long.1]
      · simp only [ih, allSame_cons]
        grind

/-- No group has a change if and only if the lists are equal. -/
theorem groups_eq_nil_iff (left right : List String) : groups left right = [] ↔ left = right := by
  have unchanged : groups left right = [] ↔ AllSame (parts left right) := by
    have trimmed := (allSame_trimLast (trimFirst (parts left right))).trans (allSame_trimFirst _)
    rw [groups, List.filter_eq_nil_iff, ← trimmed]
    simpa [AllSame] using allSame_groupsFrom (trimLast (trimFirst (parts left right))) []
  rw [unchanged]
  constructor
  · exact eq_of_allSame_parts
  · rintro rfl
    exact allSame_parts_self left

/-- The difference has lines if and only if there is a difference. -/
theorem unified_eq_nil_iff (leftName rightName : String) (left right : List String) :
    unified leftName rightName left right = [] ↔ left = right := by
  refine Iff.trans ?_ (groups_eq_nil_iff left right)
  unfold unified
  cases groups left right <;> simp

end TypedManifests.Diff

/-
Module: TypedManifests.Proofs.Cuts
Purpose: Where a text is cut at a character. The part before the first place and the part behind the
  last one are free of the character, and every such part is the one that is cut off.
Main exports: splitFirst?_append, splitLast?_append, exists_lastCut, takeWhile_ne_append
-/
import Mathlib.Data.List.TakeWhile
import TypedManifests.Text.Split

namespace TypedManifests.Text

variable {c : Char} {text before after : List Char}

theorem splitFirst?_of_notMem (absent : c ∉ text) : splitFirst? c text = none := by
  induction text with
  | nil => rfl
  | cons d text ih =>
      rw [List.mem_cons, not_or] at absent
      rw [splitFirst?, if_neg (Ne.symm absent.1), ih absent.2, Option.map_none]

theorem splitFirst?_append (absent : c ∉ before) (after : List Char) :
    splitFirst? c (before ++ c :: after) = some (before, after) := by
  induction before with
  | nil => simp [splitFirst?]
  | cons d before ih =>
      rw [List.mem_cons, not_or] at absent
      rw [List.cons_append, splitFirst?, if_neg (Ne.symm absent.1), ih absent.2, Option.map_some]

theorem splitLast?_of_notMem (absent : c ∉ text) : splitLast? c text = none := by
  induction text with
  | nil => rfl
  | cons d text ih =>
      rw [List.mem_cons, not_or] at absent
      rw [splitLast?, ih absent.2]
      exact if_neg (Ne.symm absent.1)

theorem splitLast?_append (before : List Char) (absent : c ∉ after) :
    splitLast? c (before ++ c :: after) = some (before, after) := by
  induction before with
  | nil => simp [splitLast?, splitLast?_of_notMem absent]
  | cons d before ih => rw [List.cons_append, splitLast?, ih]

theorem exists_lastCut (present : c ∈ text) :
    ∃ before after, text = before ++ c :: after ∧ c ∉ after := by
  obtain ⟨after, before, split, absent⟩ :=
    List.eq_append_cons_of_mem (List.mem_reverse.2 present)
  refine ⟨before.reverse, after.reverse, ?_, by simpa using absent⟩
  rw [← List.reverse_reverse text, split]
  simp

theorem takeWhile_ne_of_notMem (absent : c ∉ text) : text.takeWhile (· ≠ c) = text := by
  rw [List.takeWhile_eq_self_iff]
  intro d member
  simpa using ne_of_mem_of_not_mem member absent

theorem takeWhile_ne_append (absent : c ∉ before) (after : List Char) :
    (before ++ c :: after).takeWhile (· ≠ c) = before := by
  have kept := takeWhile_ne_of_notMem absent
  rw [List.takeWhile_eq_self_iff] at kept
  rw [List.takeWhile_append_of_pos kept]
  simp

end TypedManifests.Text

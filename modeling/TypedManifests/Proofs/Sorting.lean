/-
Module: TypedManifests.Proofs.Sorting
Purpose: Sorted lists. Named things with different names are put into the strict order of their
  names, and a list that is sorted by a key tells everything that the key determines.
Main exports: pairwise_mergeSort_fst, map_eq_of_sorted
-/
import Mathlib.Data.List.Sort
import Mathlib.Data.String.Basic

namespace TypedManifests

/-- Pairs that are sorted by their first parts stand in the order of these. -/
theorem pairwise_mergeSort_fst {α : Type} {pairs : List (String × α)}
    (nodup : (pairs.map Prod.fst).Nodup) :
    (pairs.mergeSort fun a b => a.1 ≤ b.1).Pairwise fun a b => a.1 < b.1 := by
  have perm := List.mergeSort_perm pairs fun a b => decide (a.1 ≤ b.1)
  have apart : (pairs.mergeSort fun a b => a.1 ≤ b.1).Pairwise fun a b => a.1 ≠ b.1 :=
    List.pairwise_map.1 ((perm.map Prod.fst).nodup_iff.2 nodup)
  have sorted : (pairs.mergeSort fun a b => a.1 ≤ b.1).Pairwise fun a b => a.1 ≤ b.1 := by
    refine (List.pairwise_mergeSort ?_ ?_ pairs).imp of_decide_eq_true
    · intro a b c first second
      exact decide_eq_true ((of_decide_eq_true first).trans (of_decide_eq_true second))
    · intro a b
      rw [Bool.or_eq_true, decide_eq_true_eq, decide_eq_true_eq]
      exact le_total a.1 b.1
  exact (sorted.and apart).imp fun both => lt_of_le_of_ne both.1 both.2

/-- Two lists of the same things, both sorted by a key, have the same images under a map that the
key determines. -/
theorem map_eq_of_sorted {α β κ : Type} [PartialOrder κ] (key : α → κ) (f : α → β) {l l' : List α}
    (perm : l.Perm l') (sorted : l.Pairwise fun a b => key a ≤ key b)
    (sorted' : l'.Pairwise fun a b => key a ≤ key b)
    (ties : ∀ a ∈ l, ∀ b ∈ l, key a = key b → f a = f b) : l.map f = l'.map f := by
  have both : (l.map fun a => (key a, f a)) = l'.map fun a => (key a, f a) := by
    have ordered : (l.map fun a => (key a, f a)).Pairwise fun a b => a.1 ≤ b.1 :=
      List.pairwise_map.2 sorted
    refine List.Perm.eq_of_pairwise ?_ ordered (List.pairwise_map.2 sorted') (perm.map _)
    intro x y listed listed' le ge
    obtain ⟨a, member, rfl⟩ := List.mem_map.1 listed
    obtain ⟨b, member', rfl⟩ := List.mem_map.1 listed'
    have same : key a = key b := le_antisymm le ge
    rw [Prod.mk.injEq]
    exact ⟨same, ties a member b (perm.mem_iff.2 member') same⟩
  have second := congrArg (List.map Prod.snd) both
  rwa [List.map_map, List.map_map] at second

end TypedManifests

/-
Module: TypedManifests.Proofs.ReshapedParts
Purpose: What reshaping does to a value, whatever the type is. A mapping keeps its keys, and each of
  its values is reshaped by some type; a list stays a list of reshaped items, or it is keyed and is
  reshaped like the mapping of its items by name; a text stays or is taken apart by a convention
  that covers its label.
Main exports: Value.byItems, Reshaped, reshaped_map, reshaped_list, reshaped_text, reshaped_plain
-/
import Mathlib.Data.List.Forall2
import TypedManifests.Proofs.Reshaping

namespace TypedManifests

open TypedManifests.TypeExpr

/-- The value is neither text nor list nor mapping. -/
def Value.IsPlain : Value → Prop
  | .text _ | .list _ | .map _ => False
  | _ => True

/-- A property holds of all values if it passes from the parts of a value to the value, where the
parts of a list are not only its items but also what is left of those that are mappings when some of
their entries are dropped. -/
@[elab_as_elim]
theorem Value.byItems {motive : Value → Prop}
    (plain : ∀ v : Value, v.IsPlain → motive v) (text : ∀ s, motive (.text s))
    (list : ∀ items : List Value, (∀ item ∈ items, motive item) →
      (∀ entries, .map entries ∈ items → ∀ kept, kept ⊆ entries → motive (.map kept)) →
        motive (.list items))
    (map : ∀ entries : Entries, (∀ entry ∈ entries, motive entry.2) → motive (.map entries))
    (v : Value) : motive v := by
  have both : motive v ∧ ∀ entries, v = .map entries → ∀ entry ∈ entries, motive entry.2 := by
    refine @Value.rec
      (fun v => motive v ∧ ∀ entries, v = .map entries → ∀ entry ∈ entries, motive entry.2)
      (fun items => ∀ item ∈ items,
        motive item ∧ ∀ entries, item = .map entries → ∀ entry ∈ entries, motive entry.2)
      (fun entries => ∀ entry ∈ entries, motive entry.2) (fun entry => motive entry.2)
      ⟨plain _ trivial, by simp⟩ (fun _ => ⟨plain _ trivial, by simp⟩)
      (fun _ => ⟨plain _ trivial, by simp⟩) (fun _ => ⟨plain _ trivial, by simp⟩)
      (fun s => ⟨text s, by simp⟩) (fun _ => ⟨plain _ trivial, by simp⟩)
      (fun _ => ⟨plain _ trivial, by simp⟩)
      ?_ ?_ ?_ ?_ ?_ ?_ ?_ v
    · intro items each
      refine ⟨list items (fun item member => (each item member).1) ?_, by simp⟩
      intro entries member kept sub
      exact map kept fun entry inside => (each _ member).2 entries rfl entry (sub inside)
    · intro entries each
      refine ⟨map entries each, ?_⟩
      rintro _ ⟨⟩
      exact each
    · simp
    · intro item rest first others other member
      rcases List.mem_cons.1 member with rfl | member
      · exact first
      · exact others other member
    · simp
    · intro entry rest first others other member
      rcases List.mem_cons.1 member with rfl | member
      · exact first
      · exact others other member
    · exact fun _ _ _ inner => inner.1
  exact both.1

namespace Reshaping

/-- `v'` is what reshaping makes of `v` under a label by some type. -/
def Reshaped (r : Reshaping) (label : Option String) (v v' : Value) : Prop :=
  ∃ t, v' = r.conform label t v

/-- The second mapping has the keys of the first one, and under each key the reshaped value. -/
def ReshapedEntries (r : Reshaping) : Entries → Entries → Prop :=
  List.Forall₂ fun entry entry' =>
    entry'.1 = entry.1 ∧ r.Reshaped (some entry.1.keyText) entry.2 entry'.2

variable {r : Reshaping} {label : Option String} {v v' : Value}

theorem Reshaped.refl (label : Option String) (v : Value) : r.Reshaped label v v :=
  ⟨.scalar "", (r.conform_scalar label "" v).symm⟩

theorem reshaped_conformAt (r : Reshaping) (name : String) (v : Value) : ∀ fields : Fields,
    r.Reshaped (some name) v (r.conformAt fields name v)
  | [] => by
      rw [conformAt]
      exact .refl _ v
  | (l, t) :: rest => by
      rw [conformAt]
      split
      · next same =>
        subst same
        exact ⟨t, rfl⟩
      · exact reshaped_conformAt r name v rest

theorem reshapedEntries_mapEntries {f : String → Value → Value}
    (each : ∀ name v, r.Reshaped (some name) v (f name v)) : ∀ entries : Entries,
      r.ReshapedEntries entries (mapEntries f entries)
  | [] => .nil
  | (key, value) :: rest => by
      rw [mapEntries]
      refine .cons ⟨rfl, ?_⟩ (reshapedEntries_mapEntries each rest)
      simp only
      split
      · exact .refl _ value
      · exact each key.keyText value

theorem ReshapedEntries.refl (entries : Entries) : r.ReshapedEntries entries entries :=
  List.forall₂_same.2 fun entry _ => ⟨rfl, .refl _ entry.2⟩

/-- A mapping keeps its keys. -/
theorem reshaped_map {entries : Entries} (reshaped : r.Reshaped label (.map entries) v') :
    ∃ entries', v' = .map entries' ∧ r.ReshapedEntries entries entries' := by
  obtain ⟨t, rfl⟩ := reshaped
  induction t with
  | scalar name => exact ⟨entries, r.conform_scalar label name _, .refl entries⟩
  | optional inner ih =>
      rw [conform_optional]
      exact ih
  | list element => exact ⟨entries, by rw [conform] <;> simp, .refl entries⟩
  | record fields =>
      refine ⟨_, by rw [conform], reshapedEntries_mapEntries (fun name v => ?_) entries⟩
      exact reshaped_conformAt r name v fields

/-- A list keeps its items, or it is keyed and reshaped like the mapping from the names of its items
to their other entries. -/
theorem reshaped_list {items : List Value} (reshaped : r.Reshaped label (.list items) v') :
    (∃ items', v' = .list items' ∧ List.Forall₂ (r.Reshaped none) items items') ∨
      ∃ keyed, KeyedList.of? r.keyFields items = some keyed ∧
        r.Reshaped label (.ofFields (SampleIndex.namedItems keyed.field items)) v' := by
  obtain ⟨t, rfl⟩ := reshaped
  have same : List.Forall₂ (r.Reshaped none) items items :=
    List.forall₂_same.2 fun item _ => .refl none item
  induction t with
  | scalar name => exact Or.inl ⟨items, r.conform_scalar label name _, same⟩
  | optional inner ih =>
      rw [conform_optional]
      exact ih
  | list element =>
      refine Or.inl ⟨_, r.conform_list label element items, ?_⟩
      exact List.forall₂_map_right_iff.2 (List.forall₂_same.2 fun item _ => ⟨element, rfl⟩)
  | record fields =>
      cases isKeyed : KeyedList.of? r.keyFields items with
      | none => exact Or.inl ⟨items, by rw [conform, isKeyed], same⟩
      | some keyed =>
          exact Or.inr ⟨keyed, rfl, .record fields, r.conform_keyed label fields isKeyed⟩

/-- A text stays, or a convention that covers its label takes it apart. -/
theorem reshaped_text {s : String} (reshaped : r.Reshaped label (.text s) v') :
    v' = .text s ∨ ∃ c ∈ r.conventions, ∃ l ∈ label, l ∈ c.labels ∧
      v' = (ImageReference.ofText s).toValue c.withDigest := by
  obtain ⟨t, rfl⟩ := reshaped
  induction t with
  | scalar name => exact Or.inl (r.conform_scalar label name _)
  | optional inner ih =>
      rw [conform_optional]
      exact ih
  | list element => exact Or.inl (by rw [conform] <;> simp)
  | record fields =>
      rw [conform_text]
      unfold text
      cases label with
      | none => exact Or.inl rfl
      | some l =>
          simp only
          split
          · next c found =>
            have applies := List.find?_some found
            simp only [ImageConvention.applies, Bool.and_eq_true, List.contains_iff_mem] at applies
            exact Or.inr ⟨c, List.mem_of_find?_eq_some found, l, rfl, applies.1.1, rfl⟩
          · exact Or.inl rfl

/-- What is neither text nor list nor mapping stays. -/
theorem reshaped_plain (plain : v.IsPlain) (reshaped : r.Reshaped label v v') : v' = v := by
  obtain ⟨t, rfl⟩ := reshaped
  induction t with
  | scalar name => exact r.conform_scalar label name v
  | optional inner ih =>
      rw [conform_optional]
      exact ih
  | list element | record fields =>
      cases v with
      | null => exact r.conform_null label _
      | text _ | list _ | map _ => cases plain
      | _ => rw [conform] <;> simp

end Reshaping

end TypedManifests

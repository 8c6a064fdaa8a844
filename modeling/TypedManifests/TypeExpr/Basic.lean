/-
Module: TypedManifests.TypeExpr.Basic
Purpose: Types of configuration data: named scalars, optional values, lists, and records of labelled
  fields. The labels of a record are meant to be pairwise different; `UniqueLabels` says so of a
  whole type, and `ofFields` refuses a record that repeats a label.
Main exports: TypeExpr, Fields, labels, field?, UniqueLabels, ofFields
-/

namespace TypedManifests

/-- The type of a piece of data. -/
inductive TypeExpr where
  | scalar (name : String)
  | optional (inner : TypeExpr)
  | list (element : TypeExpr)
  | record (fields : List (String × TypeExpr))
deriving Inhabited, Repr

/-- The labelled fields of a record, in their order. -/
abbrev Fields := List (String × TypeExpr)

namespace TypeExpr

mutual

/-- Equality of types is decided by walking both. -/
def decEq : (s t : TypeExpr) → Decidable (s = t)
  | .scalar a, .scalar b =>
    if h : a = b then isTrue (by rw [h]) else isFalse (by intro e; cases e; exact h rfl)
  | .optional a, .optional b =>
    match decEq a b with
    | isTrue h => isTrue (by rw [h])
    | isFalse h => isFalse (by intro e; cases e; exact h rfl)
  | .list a, .list b =>
    match decEq a b with
    | isTrue h => isTrue (by rw [h])
    | isFalse h => isFalse (by intro e; cases e; exact h rfl)
  | .record a, .record b =>
    match decEqFields a b with
    | isTrue h => isTrue (by rw [h])
    | isFalse h => isFalse (by intro e; cases e; exact h rfl)
  | .scalar _, .optional _ | .scalar _, .list _ | .scalar _, .record _
  | .optional _, .scalar _ | .optional _, .list _ | .optional _, .record _
  | .list _, .scalar _ | .list _, .optional _ | .list _, .record _
  | .record _, .scalar _ | .record _, .optional _ | .record _, .list _ =>
    isFalse (by intro e; cases e)

def decEqFields : (s t : List (String × TypeExpr)) → Decidable (s = t)
  | [], [] => isTrue rfl
  | [], _ :: _ | _ :: _, [] => isFalse (by intro e; cases e)
  | (l, a) :: s, (m, b) :: t =>
    if h : l = m then
      match decEq a b, decEqFields s t with
      | isTrue h₁, isTrue h₂ => isTrue (by rw [h, h₁, h₂])
      | isFalse h₁, _ => isFalse (by intro e; cases e; exact h₁ rfl)
      | _, isFalse h₂ => isFalse (by intro e; cases e; exact h₂ rfl)
    else isFalse (by intro e; cases e; exact h rfl)

end

instance : DecidableEq TypeExpr := decEq

/-- The type of plain text. -/
def text : TypeExpr := .scalar "Text"

/-- The labels of a record, in order. -/
def labels (fields : Fields) : List String := fields.map Prod.fst

/-- The type of the first field labelled `label`. -/
def field? (fields : Fields) (label : String) : Option TypeExpr :=
  (fields.find? fun field => field.1 = label).map Prod.snd

/-- The fields that are not labelled `label`. -/
def without (fields : Fields) (label : String) : Fields :=
  fields.filter fun field => field.1 ≠ label

mutual

/-- In every record of the type the labels are pairwise different. -/
def UniqueLabels : TypeExpr → Prop
  | .scalar _ => True
  | .optional t | .list t => t.UniqueLabels
  | .record fields => (fields.map Prod.fst).Nodup ∧ UniqueLabelsFields fields

def UniqueLabelsFields : List (String × TypeExpr) → Prop
  | [] => True
  | (_, t) :: rest => t.UniqueLabels ∧ UniqueLabelsFields rest

end

/-- The first label that repeats an earlier one. -/
def repeatedLabel? : List String → Option String :=
  go []
where
  go (seen : List String) : List String → Option String
    | [] => none
    | label :: rest => if label ∈ seen then some label else go (label :: seen) rest

/-- The record of `fields`, or the label that some two of them share. -/
def ofFields (fields : Fields) : Except String TypeExpr :=
  match repeatedLabel? (labels fields) with
  | some label => .error label
  | none => .ok (.record fields)

/-- What is said of a record in which `label` stands twice. -/
def repeatedLabelMessage (label : String) : String :=
  s!"duplicate field label '{label}' in record"

end TypeExpr

end TypedManifests

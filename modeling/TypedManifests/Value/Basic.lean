/-
Module: TypedManifests.Value.Basic
Purpose: Configuration data: scalars, lists, and mappings whose entries keep their order. The keys
  of a mapping are values too; most are text.
Main exports: Value, Entries, Value.truthy, Entries.get?, Entries.set, Entries.get?_set
-/
import TypedManifests.Number.Binary64
import TypedManifests.Value.Calendar

namespace TypedManifests

inductive Value where
  | null
  | bool (b : Bool)
  | int (i : Int)
  | float (x : Binary64)
  | text (s : String)
  | date (d : Date)
  | time (t : Timestamp)
  | list (items : List Value)
  | map (entries : List (Value × Value))
deriving Inhabited, Repr

/-- The entries of a mapping, in their order. -/
abbrev Entries := List (Value × Value)

namespace Value

/-- The value is the text `s`. -/
def isTextOf (s : String) : Value → Bool
  | .text t => t = s
  | _ => false

theorem isTextOf_iff {v : Value} {s : String} : v.isTextOf s = true ↔ v = .text s := by
  cases v <;> simp [isTextOf]

def text? : Value → Option String
  | .text s => some s
  | _ => none

def entries? : Value → Option Entries
  | .map entries => some entries
  | _ => none

def isMap (v : Value) : Bool := v.entries?.isSome

/-- The mapping with the given texts as keys. -/
def ofFields (fields : List (String × Value)) : Value :=
  .map (fields.map fun (key, value) => (.text key, value))

/-- A text, or null. -/
def ofText? : Option String → Value
  | none => .null
  | some s => .text s

/-- A list of texts. -/
def ofTexts (texts : List String) : Value := .list (texts.map .text)

/-- The texts of a list that holds nothing else. -/
def texts? : Value → Option (List String)
  | .list items => items.mapM text?
  | _ => none

/-- Whether a condition on the value holds: everything does but null, false, zero and what is
empty. -/
def truthy : Value → Bool
  | .null => false
  | .bool b => b
  | .int i => i ≠ 0
  | .float x => !x.isZero
  | .text s => s ≠ ""
  | .date _ | .time _ => true
  | .list items => !items.isEmpty
  | .map entries => !entries.isEmpty

end Value

namespace Entries

/-- The value of the first entry whose key is the text `key`. -/
def get? (entries : Entries) (key : String) : Option Value :=
  (entries.find? fun entry => entry.1.isTextOf key).map Prod.snd

theorem get?_cons (entry : Value × Value) (rest : Entries) (key : String) :
    Entries.get? (entry :: rest) key =
      if entry.1.isTextOf key then some entry.2 else rest.get? key := by
  rw [get?, List.find?_cons]
  cases entry.1.isTextOf key <;> rfl

/-- The entries whose key is not the text `key`. -/
def without (entries : Entries) (key : String) : Entries :=
  entries.filter fun entry => !entry.1.isTextOf key

/-- Gives `key` the value: in place of its old value, or in a new entry at the end. -/
def set (key : String) (value : Value) : Entries → Entries
  | [] => [(.text key, value)]
  | entry :: rest =>
    if entry.1.isTextOf key then (entry.1, value) :: rest else entry :: set key value rest

/-- Setting a key changes what is found under it and nothing else. -/
theorem get?_set (key label : String) (value : Value) (entries : Entries) :
    (entries.set key value).get? label =
      if key = label then some value else entries.get? label := by
  induction entries with
  | nil => simp [set, get?, Value.isTextOf]
  | cons entry rest ih =>
      rw [set]
      by_cases here : entry.1.isTextOf key = true
      · have isKey := Value.isTextOf_iff.1 here
        rw [if_pos here, get?_cons, get?_cons]
        by_cases same : key = label <;> simp [isKey, Value.isTextOf, same]
      · rw [if_neg here, get?_cons, get?_cons, ih]
        by_cases same : key = label
        · subst same
          simp [here]
        · simp [same]

end Entries

end TypedManifests

/-
Module: TypedManifests.Yaml.NodeValue
Purpose: What YAML nodes stand for.
Main exports: sameKey, Faults, Node.document, Node.toDocument
-/
import TypedManifests.Document
import TypedManifests.Yaml.Node
import TypedManifests.Yaml.ScalarValue

/-!
What YAML documents stand for. The keys of a mapping are pairwise different; a merge key brings in
the entries of other mappings, which come first and give way to the mapping's own. A node that
several aliases name is one list or mapping in all these places. Of several faults in a document
the one in the shallowest collection is reported, and of those the first.
-/

namespace TypedManifests.Yaml

/-! ### Keys -/

/-- Numbers are the same key if they are equal; truth values count as zero and one. -/
def sameNumber : Value → Value → Bool
  | .float .nan, .float .nan => true
  | .float (.infinite a), .float (.infinite b) => a = b
  | .float x, .float y => (x.isZero && y.isZero) || x = y
  | .float x, .int i | .int i, .float x => x.toInt? = some i
  | .float x, .bool b | .bool b, .float x => x.toInt? = some (if b then 1 else 0)
  | .int i, .bool b | .bool b, .int i => i = if b then 1 else 0
  | .int i, .int j => i = j
  | .bool a, .bool b => a = b
  | _, _ => false

mutual

/-- The two values cannot both be keys of one mapping. -/
def sameKey : Value → Value → Bool
  | .null, .null => true
  | .text s, .text t => s = t
  | .date d, .date e => d = e
  | .time t, .time u => t = u
  | .list items, .list others => sameKeys items others
  | a, b => sameNumber a b

def sameKeys : List Value → List Value → Bool
  | [], [] => true
  | a :: rest, b :: others => sameKey a b && sameKeys rest others
  | _, _ => false

end

/-- Entries whose values are as they are read. -/
abbrev DocumentEntries := List (Value × Document)

/-- Gives a key its value: in place of an old value, or in a new entry at the end. -/
def putEntry (entries : DocumentEntries) (key : Value) (value : Document) : DocumentEntries :=
  if entries.any fun entry => sameKey entry.1 key then
    entries.map fun entry => if sameKey entry.1 key then (entry.1, value) else entry
  else entries ++ [(key, value)]

/-! ### Faults -/

/-- Faults and the depths at which they were found. -/
abbrev Faults := List (Nat × ReadError)

/-- A result that may be spoilt by faults. -/
abbrev Checked (α : Type) := α × Faults

/-- The shallowest fault, of several the first. -/
def Faults.first : Faults → Option (Nat × ReadError)
  | [] => none
  | fault :: rest =>
    match first rest with
    | some other => some (if other.1 < fault.1 then other else fault)
    | none => some fault

/-- The fault to report. What there are no values for here is reported if nothing is wrong. -/
def Faults.reported? (faults : Faults) : Option ReadError :=
  let wrong := faults.filter fun fault => !fault.2.isForeign
  ((first wrong).or (first faults)).map Prod.snd

/-- Nothing but a fault. -/
def refused (depth : Nat) (e : ReadError) : Checked Document := (.scalar .null, [(depth, e)])

/-- What a scalar node comes to. -/
def scalarDocument (version : Version) (depth : Nat) (tag : Tag) (text : String) :
    Checked Document :=
  match tag with
  | .scalar kind =>
    match ScalarValue.ofText version kind text with
    | .ok v => (.scalar v, [])
    | .error e => refused depth e
  | .bytes => refused depth (.badValue .bytes)
  | _ => refused depth .malformed

/-- What keeps a value from being a key. -/
def keyFaults (depth : Nat) : Value → Faults
  | .map _ => [(depth, .malformed)]
  | .list items =>
    match items.find? fun item => match item with | .list _ | .map _ => true | _ => false with
    | some item => [(depth, .badValue (.nestedKey item.isMap))]
    | none => []
  | _ => []

namespace Node

/-- A collection cannot be a scalar, but a mapping with an entry for the default value may stand for
that value. -/
def defaultText? : Node → Option String
  | .scalar _ text => some text
  | .sequence .. | .enclosing => none
  | .mapping _ _ [] => none
  | .mapping tag start ((key, value) :: rest) =>
    if key.tag? = some (.scalar .defaultValue) then value.defaultText?
    else defaultText? (.mapping tag start rest)

end Node

/-- An entry of a mapping, with the faults that were found in it. -/
structure Entry where
  key : Value
  value : Document
  faults : Faults

/-- The mapping of the given entries, whose keys are pairwise different. -/
def assemble (depth : Nat) (entries : List Entry) : Checked DocumentEntries :=
  entries.foldl (fun (done, faults) e =>
    let repeated := if done.any fun old => sameKey old.1 e.key then [(depth, .malformed)] else []
    (putEntry done e.key e.value, faults ++ e.faults ++ keyFaults depth e.key ++ repeated)) ([], [])

/-- The mapping of the entries that a merge key brings in and of the mapping's own. -/
def assembleMerged (depth : Nat) (brought own : List Entry) : Checked DocumentEntries :=
  (brought ++ own).foldl (fun (done, faults) e =>
    (putEntry done e.key e.value, faults ++ e.faults ++ keyFaults depth e.key)) ([], [])

/-- The pair of a key and its value in a list of pairs. -/
def pairDocument (place : Mark) (key : Value) (value : Document) : Document :=
  .list place [.ofValueAt (place ++ [0]) key, value]

namespace Node

/-- The key is a merge key. -/
def isMerge (key : Node) : Bool := key.tag? = some (.scalar .merge)

mutual

/-- What a node that is found at `depth` stands for. What is inside a key is found together with the
key itself, which is told by `inKey`. -/
def document (version : Version) (inKey : Bool) (depth : Nat) : Node → Checked Document
  | .scalar tag text => scalarDocument version depth tag text
  | .sequence tag start items =>
    let inner := if inKey then depth else depth + 1
    match tag with
    | .sequence =>
      let (documents, faults) := documents version inKey inner items
      (.list [start] documents, faults)
    | .orderedMapping =>
      let (entries, faults) := singles version inKey inner items
      (.map [start] entries, faults)
    | .pairs =>
      let (entries, faults) := singles version inKey inner items
      (.list [start] (entries.mapIdx fun i (k, d) => pairDocument [start, i] k d), faults)
    | .mapping | .set => refused inner .malformed
    | .scalar _ | .bytes | .unknown => refused depth .malformed
  | .mapping tag start entries =>
    let inner := if inKey then depth else depth + 1
    let (brought, own, faults) := entryParts version inKey inner entries
    let (assembled, more) :=
      if brought.isEmpty then assemble inner own else assembleMerged inner brought own
    match tag with
    | .mapping => (.map [start] assembled, faults ++ more)
    | .set => (.map [start] assembled, faults ++ more ++ [(inner, .badValue .set)])
    | .sequence | .orderedMapping | .pairs => refused inner .malformed
    | .scalar _ | .bytes =>
      match defaultText? (.mapping tag start entries) with
      | some text => scalarDocument version depth tag text
      | none => refused depth .malformed
    | .unknown => refused depth .malformed
  | .enclosing => refused depth (.badValue .insideItself)

def documents (version : Version) (inKey : Bool) (depth : Nat) :
    List Node → Checked (List Document)
  | [] => ([], [])
  | node :: rest =>
    let (d, faults) := document version inKey depth node
    let (ds, more) := documents version inKey depth rest
    (d :: ds, faults ++ more)

/-- The entries of mappings that have one entry each. -/
def singles (version : Version) (inKey : Bool) (depth : Nat) :
    List Node → Checked DocumentEntries
  | [] => ([], [])
  | .mapping _ _ [(key, node)] :: rest =>
    let (k, keyFaults) := document version inKey depth key
    let (d, faults) := document version inKey depth node
    let (entries, more) := singles version inKey depth rest
    ((k.value, d) :: entries, keyFaults ++ faults ++ more)
  | .enclosing :: _ => ([], [(depth, .badValue .insideItself)])
  | _ :: _ => ([], [(depth, .malformed)])

/-- The entries that merge keys bring in, the other entries, and the faults of the merge keys. A
second merge key is refused unless the first brought in nothing. -/
def entryParts (version : Version) (inKey : Bool) (depth : Nat) :
    List (Node × Node) → List Entry × List Entry × Faults
  | [] => ([], [], [])
  | (key, node) :: rest =>
    let (brought, own, faults) := entryParts version inKey depth rest
    if key.isMerge then
      let (here, found) := broughtIn version inKey depth node
      let again := !here.isEmpty && rest.any fun entry => entry.1.isMerge
      (here ++ brought, own, found ++ faults ++ if again then [(depth, .malformed)] else [])
    else
      let (k, keyFaults) :=
        if key.tag? = some (.scalar .defaultValue) then (.scalar (.text "="), [])
        else document version true depth key
      let (d, valueFaults) := document version inKey depth node
      (brought, ⟨k.value, d, keyFaults ++ valueFaults⟩ :: own, faults)

/-- The entries of a mapping, or of the mappings of a sequence, the last of which come first. -/
def broughtIn (version : Version) (inKey : Bool) (depth : Nat) : Node → List Entry × Faults
  | .mapping _ _ entries =>
    let (brought, own, faults) := entryParts version inKey depth entries
    (brought ++ own, faults)
  | .sequence _ _ items => broughtInAll version inKey depth items
  | .enclosing => ([], [(depth, .badValue .insideItself)])
  | .scalar .. => ([], [(depth, .malformed)])

def broughtInAll (version : Version) (inKey : Bool) (depth : Nat) :
    List Node → List Entry × Faults
  | [] => ([], [])
  | .mapping _ _ entries :: rest =>
    let (brought, own, faults) := entryParts version inKey depth entries
    let (others, more) := broughtInAll version inKey depth rest
    (others ++ brought ++ own, faults ++ more)
  | .enclosing :: _ => ([], [(depth, .badValue .insideItself)])
  | _ :: _ => ([], [(depth, .malformed)])

end

/-- What the node of a whole document stands for. -/
def toDocument (version : Version) (node : Node) : Except ReadError Document :=
  let (d, faults) := node.document version false 0
  match faults.reported? with
  | some e => .error e
  | none => .ok d

end Node

end TypedManifests.Yaml

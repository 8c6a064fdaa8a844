/-
Module: TypedManifests.Value.Shape
Purpose: Values of the wrong shape: a file name or a part of a command that is no text.
Main exports: ShapeError, kindName, textsFrom, asPath
-/
import TypedManifests.Value.Basic

namespace TypedManifests

/-- A value is not what it is used as. -/
inductive ShapeError where
  /-- The item at `index` of what is joined is no text. -/
  | itemNotText (index : Nat) (kind : String)
  /-- A file name is no text. -/
  | pathNotText (kind : String)
  /-- What is joined has no items. -/
  | notItems
deriving DecidableEq, Repr

def ShapeError.message : ShapeError → String
  | .itemNotText index kind =>
    s!"sequence item {index}: expected str instance, " ++ kind ++ " found"
  | .pathNotText kind => "expected str, bytes or os.PathLike object, not " ++ kind
  | .notItems => "can only join an iterable"

namespace Value

/-- What messages call the kind of a value. -/
def kindName : Value → String
  | .null => "NoneType"
  | .bool _ => "bool"
  | .int _ => "int"
  | .float _ => "float"
  | .text _ => "str"
  | .date _ => "datetime.date"
  | .time _ => "datetime.datetime"
  | .list _ => "list"
  | .map _ => "dict"

/-- The texts among which `index` have gone before. -/
def textsFrom (index : Nat) : List Value → Except ShapeError (List String)
  | [] => .ok []
  | .text s :: rest => (textsFrom (index + 1) rest).map (s :: ·)
  | v :: _ => .error (.itemNotText index v.kindName)

/-- The texts that are joined: the items of a list, the keys of a mapping, or the characters of a
text. -/
def items : Value → Except ShapeError (List String)
  | .list values => textsFrom 0 values
  | .map entries => textsFrom 0 (entries.map Prod.fst)
  | .text s => .ok (s.toList.map fun c => String.ofList [c])
  | _ => .error .notItems

/-- The text that a file name is. -/
def asPath : Value → Except ShapeError String
  | .text s => .ok s
  | v => .error (.pathNotText v.kindName)

end Value

end TypedManifests

/-
Module: TypedManifests.Run.Encoder
Purpose: The outside commands of a run: one tells the type of a record and encodes it, another lays
  out a file.
Main exports: inferType, encode, format
-/
import TypedManifests.Run.World

namespace TypedManifests.Run

def encoderName : Value := .text "yaml-to-dhall"
def formatterName : Value := .text "dhall"

/-- The type of the record in a YAML text. -/
def inferType (timeout : Value) (yaml : String) : Run String := do
  return Text.trim (← call [encoderName, .text "type"] (some yaml) timeout)

/-- What encodes a record into a file, by a type unless that is empty. -/
def encoderLine (type : String) (destination : Value) : List Value :=
  let typed := if type = "" then [] else [.text type]
  encoderName :: typed ++ [.text "--records-loose", .text "--output", destination]

/-- Encodes the record in a YAML text into a file. -/
def encode (timeout : Value) (type yaml : String) (destination : Value) : Run Unit := do
  let _ ← call (encoderLine type destination) (some yaml) timeout

/-- What lays out a file. -/
def formatLine (path : Value) : List Value :=
  [formatterName, .text "format", .text "--inplace", path]

/-- Lays out a file anew. The command takes the time it takes. -/
def format (path : Value) : Run Unit := do
  let _ ← call (formatLine path) none .null

end TypedManifests.Run

/-
Module: TypedManifests.Yaml.Token.Basic
Purpose: The tokens of YAML text. Indentation is made explicit: where a block collection begins and
  ends there is a token, and a key on one line with its colon has a token before it.
Main exports: WrittenTag, Token
-/
import TypedManifests.Yaml.ScalarKind

namespace TypedManifests.Yaml

/-- A tag as it is written: a handle that stands for the first part of it, and the rest. -/
structure WrittenTag where
  handle : Option String
  suffix : String
deriving DecidableEq, Repr

inductive Token where
  /-- The version of the documents that follow. -/
  | versionDirective (major minor : Nat)
  /-- A handle and what it stands for in tags. -/
  | tagDirective (handle meaning : String)
  | otherDirective
  | documentStart
  | documentEnd
  | streamEnd
  | blockSequenceStart
  | blockMappingStart
  | blockEnd
  | openBracket
  | closeBracket
  | openBrace
  | closeBrace
  | comma
  /-- The dash before an item. -/
  | item
  | key
  | value
  | alias (name : String)
  | anchor (name : String)
  | tag (tag : WrittenTag)
  /-- A scalar; `plain` tells that it is neither quoted nor a block. -/
  | scalar (plain : Bool) (text : String)
deriving DecidableEq, Repr

end TypedManifests.Yaml

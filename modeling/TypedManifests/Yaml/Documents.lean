/-
Module: TypedManifests.Yaml.Documents
Purpose: The documents of a YAML text.
Main exports: Directives, Documents, Documents.next, Documents.all, readOne, readAll
-/
import TypedManifests.Yaml.NodeValue

/-!
A text with any number of YAML documents. Each begins with three hyphens, but the first one, and one
after three points, may do without. The version that a directive names holds for all that is read
afterwards.
-/

namespace TypedManifests.Yaml

/-- What the directives before a document say. -/
structure Directives where
  version : Option (Nat × Nat)
  handles : Node.Handles

namespace Directives

/-- Takes the directives off the front. Neither the version nor what a handle stands for is told
twice, and the first number of the version is one. -/
def ofTokens (d : Directives) : List Token → Option (Directives × List Token)
  | .versionDirective major minor :: rest =>
    if d.version.isSome ∨ major ≠ 1 then none
    else ofTokens { d with version := some (major, minor) } rest
  | .tagDirective handle meaning :: rest =>
    if (d.handles.lookup handle).isSome then none
    else ofTokens { d with handles := (handle, meaning) :: d.handles } rest
  | .otherDirective :: rest => ofTokens d rest
  | tokens => some (d, tokens)

def isDirective : Token → Bool
  | .versionDirective .. | .tagDirective .. | .otherDirective => true
  | _ => false

end Directives

/-- The documents that are left of a text. -/
structure Documents where
  version : Version
  /-- The next document needs no mark at its beginning. -/
  bare : Bool
  tokens : List Token

namespace Documents

def ofText (version : Version) (text : String) : Documents :=
  ⟨version, true, Token.ofText version text⟩

/-- The token stands where a document is, or ends, and begins no node. -/
def beginsNoNode (token : Token) : Bool :=
  Directives.isDirective token || token = .documentStart || token = .documentEnd ||
    token = .streamEnd

/-- The content of a document from the mark at its beginning on, and what is left. -/
def nodeAfterMark (ctx : Node.Context) (tokens : List Token) : Option (Node × List Token) :=
  match tokens with
  | [] => none
  | token :: more =>
    if beginsNoNode token then some (ctx.empty none, token :: more)
    else (Node.ofTokens ctx .block [] (token :: more)).map fun (node, _, rest) => (node, rest.1)

/-- What follows the content of a document. -/
def afterDocument (version : Version) : List Token → Option Documents
  | .documentEnd :: rest => some ⟨version, version ≠ .v11, rest⟩
  | [] => none
  | tokens => some ⟨version, false, tokens⟩

/-- The next document. There is none, in `some none`, at the end of the stream. -/
def next (s : Documents) : Option (Option (Node × Documents)) :=
  match s.tokens with
  | [] => none
  | token :: more =>
    if s.bare ∧ !(Directives.isDirective token || token = .documentStart || token = .streamEnd) then
      (Node.ofTokens ⟨s.version, Node.defaultHandles⟩ .block [] (token :: more)).bind
        fun (node, _, rest) => (afterDocument s.version rest.1).map fun s => some (node, s)
    else
      match s.tokens.dropWhile (· = .documentEnd) with
      | .streamEnd :: _ => some none
      | tokens => do
        let (directives, rest) ← Directives.ofTokens ⟨none, []⟩ tokens
        let version := match directives.version with
          | some (_, minor) => .ofMinor minor
          | none => s.version
        match rest with
        | .documentStart :: rest =>
          let (node, rest) ← nodeAfterMark ⟨version, directives.handles ++ Node.defaultHandles⟩ rest
          let s ← afterDocument version rest
          return some (node, s)
        | _ => none

/-- What all documents stand for, and the version for what is read afterwards. -/
def all (s : Documents) : Except ReadError (List Document × Version) :=
  match s.next with
  | none => .error .malformed
  | some none => .ok ([], s.version)
  | some (some (node, s')) =>
    match node.toDocument s'.version with
    | .error e => .error e
    | .ok d =>
      if s'.tokens.length < s.tokens.length then
        (all s').map fun (ds, version) => (d :: ds, version)
      else .error .malformed
termination_by s.tokens.length

end Documents

/-- The value of a text with one document; without any it is null. -/
def readOne (text : String) : Except ReadError Value :=
  match (Documents.ofText .default text).next with
  | none => .error .malformed
  | some none => .ok .null
  | some (some (node, s)) =>
    match s.next with
    | some none => (node.toDocument s.version).map Document.value
    | _ => .error .malformed

/-- What all documents of a text stand for, which is read after another one that left off with
`version`; and the version it leaves off with. -/
def readAll (version : Version) (text : String) : Except ReadError (List Document × Version) :=
  (Documents.ofText version text).all

end TypedManifests.Yaml

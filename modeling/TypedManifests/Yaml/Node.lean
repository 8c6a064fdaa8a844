/-
Module: TypedManifests.Yaml.Node
Purpose: From YAML tokens to the nodes of a document.
Main exports: Tag, Node, Context, Anchors, Node.ofTokens
-/
import TypedManifests.Yaml.Token.Lexer

/-!
The nodes of YAML documents: scalars, sequences and mappings with their tags. An alias has become
the node that it names, unless that node is still being read.

    document ::= directive … --- [node] [...]
               | node [...]
    node     ::= alias
               | [anchor] [tag] content      (anchor and tag in any order)
    content  ::= scalar | sequence | mapping

Where a node may be left out, an empty scalar stands for it.
-/

namespace TypedManifests.Yaml

/-- What a node is said to be. -/
inductive Tag where
  | scalar (kind : ScalarKind)
  /-- A scalar that spells bytes. -/
  | bytes
  | sequence
  | mapping
  /-- A mapping whose keys are the members of a set. -/
  | set
  /-- A sequence of mappings with one entry each, as one mapping. -/
  | orderedMapping
  /-- A sequence of mappings with one entry each, as a list of pairs. -/
  | pairs
  | unknown
deriving DecidableEq, Repr

namespace Tag

/-- What the names of all known tags begin with. -/
def family : String := "tag:yaml.org,2002:"

/-- The known tags by the rest of their names. -/
def known : List (String × Tag) :=
  [("null", .scalar .null), ("bool", .scalar .bool), ("int", .scalar .int),
   ("float", .scalar .float), ("timestamp", .scalar .timestamp), ("merge", .scalar .merge),
   ("value", .scalar .defaultValue), ("str", .scalar .text), ("binary", .bytes),
   ("seq", .sequence), ("map", .mapping), ("set", .set), ("omap", .orderedMapping),
   ("pairs", .pairs)]

def ofName (name : String) : Tag :=
  ((known.find? fun entry => family ++ entry.1 = name).map Prod.snd).getD .unknown

end Tag

/-- A node of a document. What tells a collection from all others is how many tokens were left of
the text where it began. -/
inductive Node where
  | scalar (tag : Tag) (text : String)
  | sequence (tag : Tag) (start : Nat) (items : List Node)
  | mapping (tag : Tag) (start : Nat) (entries : List (Node × Node))
  /-- A collection that the node stands in. -/
  | enclosing

namespace Node

/-- What a node is said to be, if that is known when the node is read. -/
def tag? : Node → Option Tag
  | .scalar tag _ => some tag
  | .sequence tag .. => some tag
  | .mapping tag .. => some tag
  | .enclosing => none

/-- What each handle in a tag stands for. -/
abbrev Handles := List (String × String)

def defaultHandles : Handles := [("!", "!"), ("!!", Tag.family)]

/-- What the nodes of one document have in common. -/
structure Context where
  version : Version
  handles : Handles

/-- The node of each anchor, the latest first; there is none yet for a collection that is being
read. -/
abbrev Anchors := List (String × Option Node)

/-- The full name of a tag; there is none if the handle is not known. -/
def Context.tagName? (ctx : Context) (tag : WrittenTag) : Option String :=
  match tag.handle with
  | none => some tag.suffix
  | some handle => (ctx.handles.lookup handle).map (· ++ tag.suffix)

/-- The name of a tag that says nothing. -/
def plainTag : String := "!"

/-- The tag of a scalar: the tag that is written, else what a plain scalar stands for. -/
def Context.scalarTag (ctx : Context) (name : Option String) (plain : Bool) (text : String) : Tag :=
  match name with
  | none => .scalar (if plain then .ofPlain ctx.version text else .text)
  | some name => if name = plainTag then .scalar (.ofPlain ctx.version text) else .ofName name

/-- The tag of a collection: the tag that is written, else `usual`. -/
def collectionTag (usual : Tag) : Option String → Tag
  | none => usual
  | some name => if name = plainTag then usual else .ofName name

/-- The scalar that stands for a node that is left out. -/
def Context.empty (ctx : Context) (name : Option String) : Node :=
  .scalar (ctx.scalarTag name true "") ""

/-- The tokens that are left after at least one of `tokens` was used. -/
abbrev Shorter (tokens : List Token) := { rest : List Token // rest.length < tokens.length }

/-- The tokens that are left of `tokens`. -/
abbrev Remaining (tokens : List Token) := { rest : List Token // rest.length ≤ tokens.length }

/-- The anchor and the tag before a node. -/
def properties (tokens : List Token) : Option String × Option WrittenTag × Remaining tokens :=
  match tokens with
  | .anchor name :: .tag tag :: rest => (some name, some tag, ⟨rest, by simp; omega⟩)
  | .tag tag :: .anchor name :: rest => (some name, some tag, ⟨rest, by simp; omega⟩)
  | .anchor name :: rest => (some name, none, ⟨rest, by simp⟩)
  | .tag tag :: rest => (none, some tag, ⟨rest, by simp⟩)
  | tokens => (none, none, ⟨tokens, Nat.le_refl _⟩)

/-- Where a node stands: within brackets, as an item of a block sequence or a document, or beside a
key or value mark, where the dashes of a sequence need not be indented. -/
inductive Place where
  | flow | block | entry
deriving DecidableEq, Repr

/-- The token begins the content of a node. -/
def Place.admits (place : Place) : Token → Bool
  | .scalar .. | .openBracket | .openBrace => true
  | .blockSequenceStart | .blockMappingStart => place ≠ .flow
  | .item => place = .entry
  | _ => false

/-- No node stands before a token that begins or ends an entry of a block. -/
def endsEntry : Token → Bool
  | .key | .value | .blockEnd => true
  | _ => false

/-- No node stands before a comma or a closing bracket. -/
def endsFlow : Token → Bool
  | .comma | .closeBracket | .closeBrace => true
  | _ => false

def remember (name : Option String) (node : Option Node) (anchors : Anchors) : Anchors :=
  match name with
  | some name => (name, node) :: anchors
  | none => anchors

mutual

/-- Takes a node off the front. -/
def ofTokens (ctx : Context) (place : Place) (anchors : Anchors) (tokens : List Token) :
    Option (Node × Anchors × Shorter tokens) :=
  match tokens with
  | [] => none
  | .alias name :: rest =>
    match anchors.lookup name with
    | some node => some (node.getD .enclosing, anchors, ⟨rest, by simp⟩)
    | none => none
  | token :: more =>
    match properties (token :: more) with
    | (anchor, written, ⟨rest, h⟩) =>
      -- a tag with an unknown handle is refused
      match written.map ctx.tagName? with
      | some none => none
      | name =>
        match rest.head? with
        | none => none
        | some next =>
          if place.admits next then
            match content ctx (remember anchor none anchors) name.join rest with
            | none => none
            | some (node, anchors, ⟨after, h'⟩) =>
              some (node, remember anchor (some node) anchors, ⟨after, by omega⟩)
          else if hp : rest.length < (token :: more).length then
            let node := ctx.empty name.join
            some (node, remember anchor (some node) anchors, ⟨rest, hp⟩)
          else none
termination_by (tokens.length, 1)
decreasing_by all_goals simp_wf; simp [Prod.lex_def]; simp at h; omega

/-- Takes a scalar or a collection off the front. -/
def content (ctx : Context) (anchors : Anchors) (tag : Option String)
    (tokens : List Token) : Option (Node × Anchors × Shorter tokens) :=
  match tokens with
  | .scalar plain text :: rest =>
    some (.scalar (ctx.scalarTag tag plain text) text, anchors, ⟨rest, by simp⟩)
  | .openBracket :: rest =>
    match flowItems ctx anchors rest with
    | none => none
    | some (items, anchors, ⟨after, h⟩) =>
      some (.sequence (collectionTag .sequence tag) tokens.length items, anchors,
        ⟨after, by simp; omega⟩)
  | .openBrace :: rest =>
    match flowEntries ctx anchors rest with
    | none => none
    | some (entries, anchors, ⟨after, h⟩) =>
      some (.mapping (collectionTag .mapping tag) tokens.length entries, anchors,
        ⟨after, by simp; omega⟩)
  | .blockSequenceStart :: rest =>
    match blockItems ctx anchors rest with
    | none => none
    | some (items, anchors, ⟨after, h⟩) =>
      some (.sequence (collectionTag .sequence tag) tokens.length items, anchors,
        ⟨after, by simp; omega⟩)
  | .item :: rest =>
    match looseItems ctx anchors rest with
    | none => none
    | some (items, anchors, ⟨after, h⟩) =>
      some (.sequence (collectionTag .sequence tag) tokens.length items, anchors,
        ⟨after, by simp; omega⟩)
  | .blockMappingStart :: rest =>
    match blockEntries ctx anchors rest with
    | none => none
    | some (entries, anchors, ⟨after, h⟩) =>
      some (.mapping (collectionTag .mapping tag) tokens.length entries, anchors,
        ⟨after, by simp; omega⟩)
  | _ => none
termination_by (tokens.length, 0)
decreasing_by all_goals simp [Prod.lex_def]

/-- Takes a node off the front, which may be left out before a token that `ends` tells. -/
def optionalNode (ctx : Context) (place : Place) (ends : Token → Bool) (anchors : Anchors)
    (tokens : List Token) : Option (Node × Anchors × Remaining tokens) :=
  match tokens with
  | [] => none
  | token :: more =>
    if ends token then some (ctx.empty none, anchors, ⟨token :: more, Nat.le_refl _⟩)
    else
      match ofTokens ctx place anchors (token :: more) with
      | none => none
      | some (node, anchors, ⟨after, h⟩) => some (node, anchors, ⟨after, Nat.le_of_lt h⟩)
termination_by (tokens.length, 2)
decreasing_by all_goals simp [Prod.lex_def]

/-- Takes the mark of a value and the value off the front; both may be left out. -/
def optionalValue (ctx : Context) (place : Place) (ends : Token → Bool) (anchors : Anchors)
    (tokens : List Token) : Option (Node × Anchors × Remaining tokens) :=
  match tokens with
  | .value :: rest =>
    match optionalNode ctx place ends anchors rest with
    | none => none
    | some (node, anchors, ⟨after, h⟩) => some (node, anchors, ⟨after, by simp; omega⟩)
  | tokens => some (ctx.empty none, anchors, ⟨tokens, Nat.le_refl _⟩)
termination_by (tokens.length, 3)
decreasing_by all_goals simp [Prod.lex_def]

/-- The items of a block sequence as far as its end. -/
def blockItems (ctx : Context) (anchors : Anchors) (tokens : List Token) :
    Option (List Node × Anchors × Shorter tokens) :=
  match tokens with
  | .blockEnd :: rest => some ([], anchors, ⟨rest, by simp⟩)
  | .item :: rest =>
    match optionalNode ctx .block (fun t => t = .item || t = .blockEnd) anchors rest with
    | none => none
    | some (node, anchors, ⟨after, h⟩) =>
      match blockItems ctx anchors after with
      | none => none
      | some (nodes, anchors, ⟨rest, h'⟩) => some (node :: nodes, anchors, ⟨rest, by simp; omega⟩)
  | _ => none
termination_by (tokens.length, 4)
decreasing_by all_goals simp_wf; simp [Prod.lex_def]; try omega

/-- The items of a sequence that is not indented, from behind the first dash on. -/
def looseItems (ctx : Context) (anchors : Anchors) (tokens : List Token) :
    Option (List Node × Anchors × Remaining tokens) :=
  match optionalNode ctx .block (fun t => t = .item || endsEntry t) anchors tokens with
  | none => none
  | some (node, anchors, ⟨.item :: after, h⟩) =>
    match looseItems ctx anchors after with
    | none => none
    | some (nodes, anchors, ⟨rest, h'⟩) =>
      some (node :: nodes, anchors, ⟨rest, by simp at h; omega⟩)
  | some (node, anchors, rest) => some ([node], anchors, rest)
termination_by (tokens.length, 4)
decreasing_by all_goals simp [Prod.lex_def]; try (simp at h; omega)

/-- The entries of a block mapping as far as its end. -/
def blockEntries (ctx : Context) (anchors : Anchors) (tokens : List Token) :
    Option (List (Node × Node) × Anchors × Shorter tokens) :=
  match tokens with
  | .blockEnd :: rest => some ([], anchors, ⟨rest, by simp⟩)
  | .key :: rest =>
    match optionalNode ctx .entry endsEntry anchors rest with
    | none => none
    | some (key, anchors, ⟨atValue, h₁⟩) =>
      match optionalValue ctx .entry endsEntry anchors atValue with
      | none => none
      | some (value, anchors, ⟨after, h₂⟩) =>
        match blockEntries ctx anchors after with
        | none => none
        | some (entries, anchors, ⟨rest, h₃⟩) =>
          some ((key, value) :: entries, anchors, ⟨rest, by simp; omega⟩)
  | .value :: rest =>
    if ctx.version.allowsMissingKey then
      match optionalNode ctx .entry endsEntry anchors rest with
      | none => none
      | some (value, anchors, ⟨after, h₁⟩) =>
        match blockEntries ctx anchors after with
        | none => none
        | some (entries, anchors, ⟨rest, h₂⟩) =>
          some ((ctx.empty none, value) :: entries, anchors, ⟨rest, by simp; omega⟩)
    else none
  | _ => none
termination_by (tokens.length, 4)
decreasing_by all_goals simp_wf; simp [Prod.lex_def]; try omega

/-- The items of a sequence in brackets, from the place of an item on. An entry with a key is a
mapping of its own. -/
def flowItems (ctx : Context) (anchors : Anchors) (tokens : List Token) :
    Option (List Node × Anchors × Shorter tokens) :=
  match tokens with
  | .closeBracket :: rest => some ([], anchors, ⟨rest, by simp⟩)
  | .key :: rest =>
    match optionalNode ctx .flow (fun t => t = .value || endsFlow t) anchors rest with
    | none => none
    | some (key, anchors, ⟨atValue, h₁⟩) =>
      match optionalValue ctx .flow endsFlow anchors atValue with
      | none => none
      | some (value, anchors, ⟨after, h₂⟩) =>
        match moreFlowItems ctx anchors after with
        | none => none
        | some (items, anchors, ⟨rest, h₃⟩) =>
          some (.mapping .mapping tokens.length [(key, value)] :: items, anchors,
            ⟨rest, by simp; omega⟩)
  | token :: more =>
    match ofTokens ctx .flow anchors (token :: more) with
    | none => none
    | some (item, anchors, ⟨after, h₁⟩) =>
      match moreFlowItems ctx anchors after with
      | none => none
      | some (items, anchors, ⟨rest, h₂⟩) => some (item :: items, anchors, ⟨rest, by omega⟩)
  | [] => none
termination_by (tokens.length, 5)
decreasing_by
  all_goals simp_wf
  all_goals simp [Prod.lex_def]
  all_goals try simp only [List.length_cons] at *
  all_goals omega

/-- The items of a sequence in brackets, from behind an item on. -/
def moreFlowItems (ctx : Context) (anchors : Anchors) (tokens : List Token) :
    Option (List Node × Anchors × Shorter tokens) :=
  match tokens with
  | .closeBracket :: rest => some ([], anchors, ⟨rest, by simp⟩)
  | .comma :: rest =>
    match flowItems ctx anchors rest with
    | none => none
    | some (items, anchors, ⟨after, h⟩) => some (items, anchors, ⟨after, by simp; omega⟩)
  | _ => none
termination_by (tokens.length, 4)
decreasing_by all_goals simp [Prod.lex_def]

/-- The entries of a mapping in braces, from the place of an entry on. -/
def flowEntries (ctx : Context) (anchors : Anchors) (tokens : List Token) :
    Option (List (Node × Node) × Anchors × Shorter tokens) :=
  match tokens with
  | .closeBrace :: rest => some ([], anchors, ⟨rest, by simp⟩)
  | .key :: rest =>
    match optionalNode ctx .flow (fun t => t = .value || endsFlow t) anchors rest with
    | none => none
    | some (key, anchors, ⟨atValue, h₁⟩) =>
      match optionalValue ctx .flow endsFlow anchors atValue with
      | none => none
      | some (value, anchors, ⟨after, h₂⟩) =>
        match moreFlowEntries ctx anchors after with
        | none => none
        | some (entries, anchors, ⟨rest, h₃⟩) =>
          some ((key, value) :: entries, anchors, ⟨rest, by simp; omega⟩)
  | .value :: rest =>
    if ctx.version.allowsMissingKey then
      match optionalNode ctx .flow endsFlow anchors rest with
      | none => none
      | some (value, anchors, ⟨after, h₁⟩) =>
        match moreFlowEntries ctx anchors after with
        | none => none
        | some (entries, anchors, ⟨rest, h₂⟩) =>
          some ((ctx.empty none, value) :: entries, anchors, ⟨rest, by simp; omega⟩)
    else none
  | token :: more =>
    match ofTokens ctx .flow anchors (token :: more) with
    | none => none
    | some (key, anchors, ⟨after, h₁⟩) =>
      match moreFlowEntries ctx anchors after with
      | none => none
      | some (entries, anchors, ⟨rest, h₂⟩) =>
        some ((key, ctx.empty none) :: entries, anchors, ⟨rest, by omega⟩)
  | [] => none
termination_by (tokens.length, 5)
decreasing_by
  all_goals simp_wf
  all_goals simp [Prod.lex_def]
  all_goals try simp only [List.length_cons] at *
  all_goals omega

/-- The entries of a mapping in braces, from behind an entry on. -/
def moreFlowEntries (ctx : Context) (anchors : Anchors) (tokens : List Token) :
    Option (List (Node × Node) × Anchors × Shorter tokens) :=
  match tokens with
  | .closeBrace :: rest => some ([], anchors, ⟨rest, by simp⟩)
  | .comma :: rest =>
    match flowEntries ctx anchors rest with
    | none => none
    | some (entries, anchors, ⟨after, h⟩) => some (entries, anchors, ⟨after, by simp; omega⟩)
  | _ => none
termination_by (tokens.length, 4)
decreasing_by all_goals simp [Prod.lex_def]

end

end Node

end TypedManifests.Yaml

/-
Module: TypedManifests.CommandLine.Switch
Purpose: The words and switches of a command line, and the values that the switches take.
Main exports: Switch, Argument, Argument.ofTexts?, Event, Reading, Ending, ofArguments
-/
import TypedManifests.Text.CharacterClass
import TypedManifests.Text.Split

/-!
Command lines: words, and switches that begin with a hyphen. A switch of two hyphens may be
shortened as long as one switch is meant, and takes its value after an equals sign or as the next
word; a switch of one hyphen and a letter takes what is joined to it. Two hyphens alone end the
switches.
-/

namespace TypedManifests.CommandLine

/-- A switch by its names; `key` tells which one it is. -/
structure Switch (κ : Type) where
  names : List String
  takesValue : Bool
  key : κ

/-- What is joined to the name of a switch. -/
structure Joined where
  text : String
  /-- It follows an equals sign. -/
  afterEquals : Bool

/-- What an argument is. -/
inductive Argument (κ : Type) where
  | word (text : String)
  /-- The two hyphens after which all arguments are words. -/
  | separator
  /-- A switch under one of its names, with what is joined to it. -/
  | switch (switch : Switch κ) (name : String) (joined : Option Joined)
  | unknown

namespace Argument

/-- The switches with their names, one by one. -/
def named (switches : List (Switch κ)) : List (String × Switch κ) :=
  switches.flatMap fun s => s.names.map fun name => (name, s)

/-- What stands before and after the first equals sign. -/
def splitValue (text : String) : String × Option Joined :=
  match Text.splitFirst? '=' text.toList with
  | some (name, value) => (String.ofList name, some ⟨String.ofList value, true⟩)
  | none => (text, none)

def isPrefixOf (text name : String) : Bool := text.toList.isPrefixOf name.toList

/-- The switches that an argument may mean, none of which it names in full. -/
def meant (switches : List (Switch κ)) (text : String) : List (Argument κ) :=
  let (short, value) := splitValue text
  let oneHyphen := String.ofList (text.toList.take 2)
  let joined := Joined.mk (String.ofList (text.toList.drop 2)) false
  (named switches).filterMap fun (name, s) =>
    if isPrefixOf "--" text then
      if isPrefixOf short name then some (.switch s name value) else none
    else if name = oneHyphen then some (.switch s name (some joined))
    else if isPrefixOf text name then some (.switch s name none)
    else none

/-- A number below zero is a word. -/
def isNegativeNumber (text : String) : Bool :=
  match text.toList with
  | '-' :: rest =>
    let digit c := (Text.decimalDigit? c).isSome
    let after := rest.dropWhile digit
    match after with
    | [] => !rest.isEmpty
    | '.' :: fraction => !fraction.isEmpty && fraction.all digit
    | _ => false
  | _ => false

/-- What an argument before the separator is. It is not told what a switch is that may mean several
ones. -/
def ofText? (switches : List (Switch κ)) (text : String) : Option (Argument κ) :=
  if text.toList.head? ≠ some '-' ∨ text = "-" then some (.word text)
  else
    match (named switches).lookup text with
    | some s => some (.switch s text none)
    | none =>
      let (short, value) := splitValue text
      match value, (named switches).lookup short with
      | some _, some s => some (.switch s short value)
      | _, _ =>
        match meant switches text with
        | [argument] => some argument
        | _ :: _ :: _ => none
        | [] =>
          if isNegativeNumber text ∨ ' ' ∈ text.toList then some (.word text) else some .unknown

/-- What the arguments are. -/
def ofTexts? (switches : List (Switch κ)) : List String → Option (List (Argument κ))
  | [] => some []
  | text :: rest =>
    if text = "--" then some (.separator :: rest.map .word)
    else
      match ofText? switches text with
      | none => none
      | some argument => (ofTexts? switches rest).map (argument :: ·)

end Argument

/-- What a command line says, one thing after the other. -/
inductive Event (κ : Type) where
  | flag (key : κ)
  | value (key : κ) (value : String)
  | words (words : List String)

/-- What was read of a command line. -/
structure Reading (κ : Type) where
  events : List (Event κ)
  /-- Some arguments have no place. -/
  hasExtra : Bool
  /-- A switch lacks its value, or has one that it does not take; what follows was not read. -/
  isBroken : Bool

namespace Reading

def add (events : List (Event κ)) (r : Reading κ) : Reading κ :=
  { r with events := events ++ r.events }

def addExtra (r : Reading κ) : Reading κ := { r with hasExtra := true }

/-- The end of a command line. -/
def done : Reading κ := ⟨[], false, false⟩

def broken : Reading κ := ⟨[], false, true⟩

/-- How an argument with switches ends. -/
inductive Ending (κ : Type) where
  | flag
  /-- With a switch and its value. -/
  | value (key : κ) (value : String)
  /-- With a switch whose value is the next argument. -/
  | awaits (key : κ)
  /-- With letters that name no switch. -/
  | unknown

/-- What is joined to a switch of one letter: an equals sign does not count. -/
def joinedTo : List Char → Option (Bool × List Char)
  | [] => none
  | '=' :: rest => some (true, rest)
  | rest => some (false, rest)

theorem length_joinedTo (rest : List Char) :
    ((joinedTo rest).map fun joined => joined.2.length).getD 0 ≤ rest.length := by
  unfold joinedTo
  split <;> simp

/-- The flags in an argument that begins with a switch, and how it ends. Flags of one letter may be
joined behind one hyphen, also to a switch that takes a value. -/
def flags (switches : List (Switch κ)) (s : Switch κ) (name : String)
    (joined : Option (Bool × List Char)) : Option (List κ × Ending κ) :=
  if s.takesValue then
    match joined with
    | none => some ([], .awaits s.key)
    | some (_, text) => some ([], .value s.key (String.ofList text))
  else
    match joined with
    | none => some ([s.key], .flag)
    | some (_, []) => none
    | some (afterEquals, c :: rest) =>
      if afterEquals ∨ c = '-' ∨ Argument.isPrefixOf "--" name then none
      else
        let next := String.ofList ['-', c]
        match (Argument.named switches).lookup next with
        | none => some ([s.key], .unknown)
        | some following =>
          (flags switches following next (joinedTo rest)).map fun (keys, ending) =>
            (s.key :: keys, ending)
termination_by (joined.map fun joined => joined.2.length).getD 0
decreasing_by exact Nat.lt_succ_of_le (length_joinedTo rest)

/-- The flags of a switch with what is joined to it. -/
def flagsOf (switches : List (Switch κ)) (s : Switch κ) (name : String) (joined : Option Joined) :
    Option (List κ × Ending κ) :=
  flags switches s name (joined.map fun joined => (joined.afterEquals, joined.text.toList))

/-- The words of a run of words and separators. Of several separators all but the first are words.
-/
def wordTexts : List (Argument κ) → List String
  | .word text :: rest => text :: wordTexts rest
  | .separator :: rest => "--" :: wordTexts rest
  | _ => []

/-- How many words have a place: any number, or one at most. -/
inductive Room where
  | any | one
deriving DecidableEq, Repr

/-- How many arguments of a run of words and separators have a place. -/
def taken (room : Room) (run : List (Argument κ)) : Nat :=
  match room with
  | .any => run.length
  | .one =>
    let isSeparator : Argument κ → Bool
      | .separator => true
      | _ => false
    let before := (run.takeWhile isSeparator).length
    match run.drop before with
    | [] => before
    | _ :: rest => before + 1 + (rest.takeWhile isSeparator).length

def isWord : Argument κ → Bool
  | .word _ | .separator => true
  | _ => false

/-- Reads arguments; `room` tells how many words still have a place. -/
def ofArguments (switches : List (Switch κ)) (room : Option Room) (arguments : List (Argument κ)) :
    Reading κ :=
  match arguments with
  | [] => done
  | .unknown :: rest => (ofArguments switches room rest).addExtra
  | .switch s name joined :: rest =>
    match flagsOf switches s name joined, rest with
    | some (keys, .flag), rest => (ofArguments switches room rest).add (keys.map .flag)
    | some (keys, .unknown), rest => (ofArguments switches room rest).addExtra.add (keys.map .flag)
    | some (keys, .value key text), rest =>
      (ofArguments switches room rest).add (keys.map .flag ++ [.value key text])
    | some (keys, .awaits key), .word text :: rest =>
      (ofArguments switches room rest).add (keys.map .flag ++ [.value key text])
    | _, _ => broken
  | argument :: more =>
    match room with
    | none => (ofArguments switches none more).addExtra
    | some room =>
      let run := argument :: more.takeWhile isWord
      let words := (wordTexts (run.take (taken room run))).erase "--"
      let r := ofArguments switches none (more.dropWhile isWord)
      let r := r.add [.words words]
      if taken room run < run.length then r.addExtra else r
termination_by arguments.length
decreasing_by
  all_goals simp_wf <;> grind [List.dropWhile_sublist, List.Sublist.length_le]

end Reading

end TypedManifests.CommandLine

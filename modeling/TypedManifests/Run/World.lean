/-
Module: TypedManifests.Run.World
Purpose: What a run works on, its failures, and its steps.
Main exports: World, RunError, Run, Run.start, Run.readFile, Run.writeFile, Run.call
-/
import TypedManifests.Log
import TypedManifests.Manifest.Loading
import TypedManifests.Run.Command
import TypedManifests.Value.Shape

/-!
What a run works on: files, the replies that outside commands will give, the calls made so far, and
the log. A run that fails leaves behind what it did before.
-/

namespace TypedManifests

structure World where
  files : Workspace
  /-- What the outside commands will reply, in the order of the calls; after these there are no
  commands any more. -/
  replies : List Reply
  calls : List Call
  log : List LogLine
  host : Host
deriving Repr

/-- Why a run fails. -/
inductive RunError where
  | noOutput
  | load (error : LoadError)
  | command (error : CommandError)
  /-- A command was not started, as an argument holds a zero character. -/
  | zeroInCommand (command : List String)
  /-- A command was broken off, as its time limit cannot be waited for. -/
  | unwaitable (fault : WaitFault)
  | file (error : FileError)
  /-- A file was not replaced. -/
  | notReplaced (cause : FileError)
  | noWriteAccess (directory : String)
  /-- The path of a file has no name at its end. -/
  | unnamedFile (path : String)
  /-- The path of a file holds a zero character. -/
  | zeroInPath (path : String)
  | shape (error : ShapeError)
deriving Repr

namespace RunError

def zeroMessage : String := "embedded null byte"

def message : RunError → String
  | .noOutput => "an output file is required"
  | .load (.resource e) => e.message
  | .load (.pattern e) => e.message
  | .load (.badValue fault) => fault.message
  | .command e => e.message
  | .zeroInCommand _ | .zeroInPath _ => zeroMessage
  | .unwaitable fault => fault.message
  | .file e => e.message
  | .notReplaced cause => "Atomic write failed: " ++ cause.message
  | .noWriteAccess directory => "No write access to " ++ directory
  | .unnamedFile path => "PosixPath(" ++ Text.quotedLiteral path ++ ") has an empty name"
  | .shape e => e.message

/-- The failure is one that a run is expected to meet: a fault of the input, of a file or of a
command. -/
def isExpected : RunError → Bool
  | .noOutput | .load (.resource _) | .command _ => true
  | .file _ | .notReplaced _ | .noWriteAccess _ => true
  | .load (.pattern _) | .load (.badValue _) | .zeroInCommand _ | .unwaitable _ => false
  | .unnamedFile _ | .zeroInPath _ | .shape _ => false

end RunError

/-- A step of a run: from the world before to a result or a failure, and the world after. -/
abbrev Run (α : Type) := ExceptT RunError (StateM World) α

namespace Run

/-- Takes the step in a world. -/
def start (run : Run α) (w : World) : Except RunError α × World := ExceptT.run run w

def fail (e : RunError) : Run α := throw e

/-- The result of a computation that does nothing to the world. -/
def ofExcept (wrap : ε → RunError) : Except ε α → Run α
  | .ok a => pure a
  | .error e => fail (wrap e)

def note (line : LogLine) : Run Unit := modify fun w => { w with log := w.log ++ [line] }

def files : Run Workspace := return (← get).files

def setFiles (files : Workspace) : Run Unit := modify fun w => { w with files }

/-- The text of a file as it is read. -/
def readFile (path : String) : Run String := do
  return Text.asRead (← ofExcept .file ((← files).read path))

def writeFile (path text : String) : Run Unit := do
  setFiles (← ofExcept .file ((← files).write path text))

/-- Takes the next reply. -/
def nextReply : Run Reply := do
  match (← get).replies with
  | [] => return .missing
  | reply :: rest => do
    modify fun w => { w with replies := rest }
    return reply

/-- Calls a command and gives back what it wrote to its standard output. -/
def call (command : List Value) (stdin : Option String) (timeout : Value) : Run String := do
  let command ← ofExcept .shape (Value.textsFrom 0 command)
  let host := (← get).host
  if !host.starts command then fail (.zeroInCommand command)
  else do
    modify fun w => { w with calls := w.calls ++ [⟨command, stdin, timeout⟩] }
    match ← nextReply with
    | .missing => fail (.command ⟨.notFound, command, ""⟩)
    | .timedOut => do
      ofExcept .unwaitable (host.awaitsCall timeout)
      fail (.command ⟨.timedOut timeout, command, ""⟩)
    | .finished written status stdout stderr => do
      setFiles (written.foldl (fun w (path, text) => w.provide path text) (← files))
      -- the command is running before it is waited for
      ofExcept .unwaitable (host.awaitsCall timeout)
      if status = 0 then return stdout else fail (.command ⟨.exited status, command, stderr⟩)

end Run

end TypedManifests

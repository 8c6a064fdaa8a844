/-
Module: TypedManifests.Run.Command
Purpose: Outside commands: how they are called, what the system refuses of that, what they reply,
  and how they fail.
Main exports: Call, Reply, Host, WaitFault, Host.starts, Host.awaitsCall, CommandFault, CommandError
-/
import TypedManifests.Text.Words
import TypedManifests.Value.Literal

namespace TypedManifests

/-- The call of an outside command. -/
structure Call where
  command : List String
  stdin : Option String
  /-- The seconds it may take; null if there is no limit. -/
  timeout : Value
deriving Repr

inductive Reply where
  /-- There is no such command. -/
  | missing
  /-- The command did not end in time. -/
  | timedOut
  /-- The command wrote files, then ended. -/
  | finished (written : List (String × String)) (status : Int) (stdout stderr : String)
deriving Repr

/-! ### What the system does not carry out -/

/-- What the system asks of the call of a command. -/
structure Host where
  /-- Texts end at a zero character, so that no argument of a command holds one. -/
  zeroEndsTexts : Bool
  /-- The longest time in milliseconds that can be waited for; if there is none, any time can. -/
  longestWait : Option Nat
deriving DecidableEq, Repr

/-- A time limit cannot be waited for. -/
inductive WaitFault where
  | notANumber
  | infinite
  | tooLong (milliseconds : Int)
deriving DecidableEq, Repr

namespace WaitFault

/-- The milliseconds that a clock of nanoseconds in 64 bits can count. -/
def clockRange : Int := 9223372036854

def message : WaitFault → String
  | .notANumber => "cannot convert float NaN to integer"
  | .infinite => "cannot convert float infinity to integer"
  | .tooLong milliseconds =>
    if clockRange < milliseconds then "timestamp too large to convert to C _PyTime_t"
    else "timeout is too large"

end WaitFault

/-- The character that ends a text is in it. -/
def holdsZero (text : String) : Bool := text.toList.contains '\x00'

namespace Host

/-- Texts end at a zero, and times to wait are milliseconds in 32 bits. -/
def posix : Host := ⟨true, some 2147483647⟩

/-- Everything is carried out. -/
def lenient : Host := ⟨false, none⟩

/-- The command line can be passed to a command. -/
def starts (host : Host) (command : List String) : Bool :=
  !(host.zeroEndsTexts && command.any holdsZero)

/-- Waits for a number of seconds at most. -/
def awaits (host : Host) (seconds : Binary64) : Except WaitFault Unit :=
  match host.longestWait with
  | none => .ok ()
  | some longest =>
    match seconds.times 1000 with
    | .nan => .error .notANumber
    | .infinite _ => .error .infinite
    | milliseconds =>
      let whole := milliseconds.ceil?.getD 0
      if (longest : Int) < whole then .error (.tooLong whole) else .ok ()

/-- Waits as long as a call may take. -/
def awaitsCall (host : Host) : Value → Except WaitFault Unit
  | .float seconds => host.awaits seconds
  | .int seconds => host.awaits (.ofInt seconds)
  | _ => .ok ()

end Host

/-! ### Commands that fail -/

inductive CommandFault where
  | notFound
  | timedOut (limit : Value)
  | exited (status : Int)
deriving Repr

/-- A call that failed. -/
structure CommandError where
  fault : CommandFault
  command : List String
  stderr : String
deriving Repr

namespace CommandFault

def describe : CommandFault → String
  | .notFound => "command not found"
  | .timedOut limit => "command timed out after " ++ limit.display ++ "s"
  | .exited status => s!"command exited with status {status}"

end CommandFault

/-- The fault, the command line, and what the command had to say about it. -/
def CommandError.message (e : CommandError) : String :=
  let complaint := Text.trim e.stderr
  e.fault.describe ++ ": " ++ String.intercalate " " e.command ++
    (if complaint = "" then "" else "\n" ++ complaint)

end TypedManifests

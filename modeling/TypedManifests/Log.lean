/-
Module: TypedManifests.Log
Purpose: Lines of the log of a run.
Main exports: LogLevel, LogLine, LogLine.toText
-/

namespace TypedManifests

inductive LogLevel where
  | info | warning | error
deriving DecidableEq, Repr

/-- A log line; `channel` names the part of the program that wrote it. -/
structure LogLine where
  level : LogLevel
  channel : String
  text : String
deriving DecidableEq, Repr

namespace LogLine

def levelText : LogLevel → String
  | .info => "INFO"
  | .warning => "WARNING"
  | .error => "ERROR"

def toText (line : LogLine) : String :=
  levelText line.level ++ " " ++ line.channel ++ " " ++ line.text

end LogLine

end TypedManifests

/-
Module: TypedManifests.Value.Literal
Purpose: Values as text: the text that stands for a mapping key, and the literal that messages show.
Main exports: literal, keyText, display
-/
import TypedManifests.Number.Shortest
import TypedManifests.Text.QuotedLiteral
import TypedManifests.Value.Basic

namespace TypedManifests.Value

open TypedManifests.Text

/-- Numbers are written by place value from 10^-4 to below 10^16. -/
def decimalStyle : DecimalStyle := ⟨-4, 16, "nan", "inf"⟩

def boolText (b : Bool) : String := if b then "True" else "False"

def dateLiteral (d : Date) : String := s!"datetime.date({d.year}, {d.month}, {d.day})"

/-- The distance from universal time, in whole days and the seconds of the last one. -/
def offsetLiteral (seconds : Int) : String :=
  if seconds = 0 then "datetime.timezone.utc"
  else
    let days := seconds.fdiv 86400
    let rest := seconds.fmod 86400
    let parts := (if days = 0 then [] else [s!"days={days}"]) ++
      (if rest = 0 then [] else [s!"seconds={rest}"])
    "datetime.timezone(datetime.timedelta(" ++ String.intercalate ", " parts ++ "))"

/-- Trailing zeros of the time of day are left out, but hour and minute are always shown. -/
def timeLiteral (t : Timestamp) : String :=
  let fields := [t.date.year, t.date.month, t.date.day, t.hour, t.minute] ++
    (if t.second = 0 ∧ t.microsecond = 0 then [] else [t.second]) ++
    (if t.microsecond = 0 then [] else [t.microsecond])
  let zone := match t.offset with
    | none => []
    | some seconds => ["tzinfo=" ++ offsetLiteral seconds]
  "datetime.datetime(" ++ String.intercalate ", " (fields.map toString ++ zone) ++ ")"

/-- The literal of a value that is neither list nor mapping. -/
def scalarLiteral : Value → String
  | .bool b => boolText b
  | .int i => toString i
  | .float x => decimalStyle.write x
  | .text s => quotedLiteral s
  | .date d => dateLiteral d
  | .time t => timeLiteral t
  | _ => "None"

mutual

/-- The value as a literal: lists in brackets, mappings in braces, text in quotes. -/
def literal : Value → String
  | .list items => "[" ++ String.intercalate ", " (literals items) ++ "]"
  | .map entries => "\x7b" ++ String.intercalate ", " (entryLiterals entries) ++ "\x7d"
  | v => scalarLiteral v

def literals : List Value → List String
  | [] => []
  | v :: rest => literal v :: literals rest

def entryLiterals : List (Value × Value) → List String
  | [] => []
  | (k, v) :: rest => (keyLiteral k ++ ": " ++ literal v) :: entryLiterals rest

/-- The literal of a key. A list that serves as a key is fixed and stands in parentheses. -/
def keyLiteral : Value → String
  | .list [item] => "(" ++ literal item ++ ",)"
  | .list items => "(" ++ String.intercalate ", " (literals items) ++ ")"
  | .map entries => "\x7b" ++ String.intercalate ", " (entryLiterals entries) ++ "\x7d"
  | v => scalarLiteral v

end

/-- The text that a key stands for: a text itself, dates and times in their plain form, anything
else its literal. -/
def keyText : Value → String
  | .text s => s
  | .date d => d.iso
  | .time t => t.iso " "
  | key => keyLiteral key

/-- The text of a value inside a sentence: a text itself, dates and times in their plain form,
anything else its literal. -/
def display : Value → String
  | .text s => s
  | .date d => d.iso
  | .time t => t.iso " "
  | v => literal v

end TypedManifests.Value

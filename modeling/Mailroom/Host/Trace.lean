import Mailroom.Json.Printer
import Mailroom.Text.Numeral
import Mailroom.Wire.Event

/-!
Tracing: what a watcher heard of the events, as lines of a log, and the stamps of such lines, which
are a time of day in universal time with its date to the millisecond.
-/

namespace Mailroom

inductive Severity where
  | info
  | warning
  deriving DecidableEq, Repr, Inhabited

def Severity.label : Severity → String
  | .info => "INFO"
  | .warning => "WARN"

structure LogLine where
  severity : Severity
  text : String
  deriving DecidableEq, Repr, Inhabited

def Heard.log (heard : Heard) : List LogLine :=
  let loss : List LogLine :=
    if heard.lost = 0 then []
    else [⟨.warning, s!"Event tracer lagged, {heard.lost} events skipped"⟩]
  loss ++ heard.events.map fun event => ⟨.info, event.toJson.render⟩

namespace Stamp

/-- The year, month and day of a day counted from the first of January 1970. Years begin in March
here, so that a leap day is the last of its year; four centuries have always the same length. -/
def civil (day : Nat) : Nat × Nat × Nat :=
  let shifted := day + 719468
  let era := shifted / 146097
  let dayOfEra := shifted % 146097
  let yearOfEra := (dayOfEra - dayOfEra / 1460 + dayOfEra / 36524 - dayOfEra / 146096) / 365
  let dayOfYear := dayOfEra - (365 * yearOfEra + yearOfEra / 4 - yearOfEra / 100)
  let month := (5 * dayOfYear + 2) / 153
  let date := dayOfYear - (153 * month + 2) / 5 + 1
  if month < 10 then (yearOfEra + era * 400, month + 3, date)
  else (yearOfEra + era * 400 + 1, month - 9, date)

def padded (width number : Nat) : String :=
  let digits := Nat.toDigits 10 number
  String.ofList (List.replicate (width - digits.length) '0' ++ digits)

def ofMillis (millis : Nat) : String :=
  let (year, month, day) := civil (millis / 86400000)
  let rest := millis % 86400000
  padded 4 year ++ "-" ++ padded 2 month ++ "-" ++ padded 2 day ++ "T" ++
    padded 2 (rest / 3600000) ++ ":" ++ padded 2 (rest / 60000 % 60) ++ ":" ++
    padded 2 (rest / 1000 % 60) ++ "." ++ padded 3 (rest % 1000) ++ "Z"

end Stamp

end Mailroom

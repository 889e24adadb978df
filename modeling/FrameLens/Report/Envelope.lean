import FrameLens.Json.Writer
import FrameLens.Text.Integer

/-!
# Envelopes

The machine-readable form of a report, and the time that it names.
-/

namespace FrameLens.Envelope

/-! ## Envelopes

The machine-readable form of a report: an object that names itself, with a summary and the report's
own fields. The time stands apart, so that one input always gives the same other fields. -/

def schema : String := "stackdigest-envelope-v1"

def schemaVersion : String := "1.0.0"

def programVersion : String := "0.4.0"

/-- The fields of an envelope. A field of the report replaces one of the same name, but for the
time. An empty summary is an object without fields. -/
def fields (command summary : Json) (payload : Json.Fields) (timestamp : String) : Json.Fields :=
  let head : Json.Fields := [
    ("schema", .string schema),
    ("schema_version", .string schemaVersion),
    ("command", command),
    ("version", .string programVersion),
    ("summary", if summary.isPresent then summary else .object [])]
  Json.insert "_meta" (.object [("timestamp", .string timestamp)]) (Json.update head payload)

/-- A value with the keys of every object in order, as text. -/
def text (value : Json) : String :=
  String.ofList value.sorted.write

end FrameLens.Envelope

namespace FrameLens.Timestamp

/-! ## Timestamps

A time as text, in universal time and to the second: a date in the Gregorian calendar and a time of
day. Years are counted from March on, so that the day a leap year adds comes last in its year. -/

structure Date where
  year : Nat
  month : Nat
  day : Nat
deriving DecidableEq, Repr

/-- The days from the first of March of year zero to the first of January 1970. -/
def daysBeforeEpoch : Nat := 719468

/-- The days of four hundred years. -/
def daysPerEra : Nat := 146097

/-- The year within four hundred years that a day falls in. -/
def yearOfEra (dayOfEra : Nat) : Nat :=
  (dayOfEra - dayOfEra / 1460 + dayOfEra / 36524 - dayOfEra / 146096) / 365

def dayOfYear (dayOfEra : Nat) : Nat :=
  let year := yearOfEra dayOfEra
  dayOfEra - (365 * year + year / 4 - year / 100)

/-- The month within its year, where March is the first and zero. -/
def monthFromMarch (dayOfYear : Nat) : Nat :=
  (5 * dayOfYear + 2) / 153

/-- The date of the day that is `days` after the first of January 1970. -/
def dateOf (days : Nat) : Date :=
  let days := days + daysBeforeEpoch
  let dayOfEra := days % daysPerEra
  let year := yearOfEra dayOfEra + 400 * (days / daysPerEra)
  let dayOfYear := dayOfYear dayOfEra
  let month := monthFromMarch dayOfYear
  let day := dayOfYear - (153 * month + 2) / 5 + 1
  if month < 10 then ⟨year, month + 3, day⟩ else ⟨year + 1, month - 9, day⟩

/-- A number with at least so many digits. -/
def digits (width : Nat) (n : Nat) : String :=
  String.ofList (Text.zeroPadded width n)

/-- The time that is `seconds` after the start of 1970. -/
def text (seconds : Nat) : String :=
  let date := dateOf (seconds / 86400)
  let second := seconds % 86400
  digits 4 date.year ++ "-" ++ digits 2 date.month ++ "-" ++ digits 2 date.day ++ "T" ++
    digits 2 (second / 3600) ++ ":" ++ digits 2 (second / 60 % 60) ++ ":" ++
    digits 2 (second % 60) ++ "Z"

end FrameLens.Timestamp

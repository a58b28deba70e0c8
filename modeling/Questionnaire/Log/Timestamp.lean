/-!
Points in time as they are written in log lines.
-/

namespace Questionnaire

/-- A point in time, in seconds from the beginning of 1970 and milliseconds. -/
structure Timestamp where
  seconds : Nat
  milliseconds : Nat
deriving DecidableEq, Repr

namespace Timestamp

structure Date where
  year : Nat
  month : Nat
  day : Nat
deriving DecidableEq, Repr

/-- The date of a day, counted from the beginning of 1970.  Years are counted from March on, in
periods of 400 years, so that the leap day is the last day of a year. -/
def date (day : Nat) : Date :=
  let shifted := day + 719468
  let era := shifted / 146097
  let dayOfEra := shifted % 146097
  let yearOfEra := (dayOfEra - dayOfEra / 1460 + dayOfEra / 36524 - dayOfEra / 146096) / 365
  let dayOfYear := dayOfEra - (365 * yearOfEra + yearOfEra / 4 - yearOfEra / 100)
  let month := (5 * dayOfYear + 2) / 153
  let year := yearOfEra + era * 400
  { year := if month < 10 then year else year + 1
    month := if month < 10 then month + 3 else month - 9
    day := dayOfYear - (153 * month + 2) / 5 + 1 }

/-- A number with zeros in front of it. -/
def padded (width n : Nat) : List Char :=
  let digits := Nat.toDigits 10 n
  List.replicate (width - digits.length) '0' ++ digits

theorem width_padded (width n : Nat) : width ≤ (padded width n).length := by
  simp only [padded, List.length_append, List.length_replicate]
  omega

def dateText (t : Timestamp) : List Char :=
  let date := date (t.seconds / 86400)
  padded 4 date.year ++ '-' :: padded 2 date.month ++ '-' :: padded 2 date.day

def clockText (t : Timestamp) : List Char :=
  padded 2 (t.seconds / 3600 % 24) ++ ':' :: padded 2 (t.seconds / 60 % 60)
    ++ ':' :: padded 2 (t.seconds % 60)

/-- The time in a line of plain text. -/
def plainText (t : Timestamp) : String :=
  String.ofList (t.dateText ++ ' ' :: t.clockText ++ ',' :: padded 3 t.milliseconds)

/-- The time in a data object. -/
def documentText (t : Timestamp) : String :=
  String.ofList (t.dateText ++ 'T' :: t.clockText ++ ['+', '0', '0', ':', '0', '0'])

example : (⟨951825599, 7⟩ : Timestamp).plainText = "2000-02-29 11:59:59,007" := by decide +kernel

example : (⟨0, 0⟩ : Timestamp).documentText = "1970-01-01T00:00:00+00:00" := by decide +kernel

end Timestamp

end Questionnaire

import LintBridge.Failure
import LintBridge.Yaml.Tag
/-!
Days and moments of the calendar from the parts of a timestamp. The zone is looked at
first, then the day, then the time of day.
-/
namespace LintBridge.Yaml

def isLeap (year : Nat) : Bool := year % 4 = 0 && (year % 100 ≠ 0 || year % 400 = 0)

def monthLength (year month : Nat) : Nat :=
  if month = 2 then (if isLeap year then 29 else 28)
  else if month = 4 || month = 6 || month = 9 || month = 11 then 30
  else 31

/-- A day that exists in the years 1 to 9999. -/
def checkedDate (year month day : Nat) : Except ScalarFault Date :=
  if year = 0 then .error (.rule "year 0 is out of range")
  else if month = 0 || 12 < month then .error (.rule "month must be in 1..12")
  else if day = 0 || monthLength year month < day then
    .error (.rule "day is out of range for month")
  else .ok ⟨year, month, day⟩

/-- An offset of less than a day. -/
def checkedOffset (offset : Int) : Except ScalarFault Int :=
  if offset.natAbs < 86400 then .ok offset
  else .error (.rule ("offset must be a timedelta strictly between -timedelta(hours=24) and " ++
    s!"timedelta(hours=24), not {durationText offset}."))

def numberOf (digits : List Char) : Nat := Numeral.digitsValue digits

/-- The first six digits of a fraction of a second, filled up with zeros. -/
def microseconds (digits : List Char) : Nat :=
  let six := digits.take 6
  numberOf (six ++ List.replicate (6 - six.length) '0')

def zoneOffset : Option (Char × List Char × List Char) → Int
  | none => 0
  | some (sign, hours, minutes) =>
    let seconds : Int := numberOf hours * 3600 + numberOf minutes * 60
    if sign = '-' then -seconds else seconds

/-- The value of a timestamp. -/
def timestampValue (text : String) : Except ScalarFault Value :=
  match timestampText? text.toList with
  | none => .error .timestamp
  | some t =>
    let date := checkedDate (numberOf t.year) (numberOf t.month) (numberOf t.day)
    match t.clock with
    | none => date.map .date
    | some (hour, minute, second, part) => do
      let offset ← (t.zone.map zoneOffset).mapM checkedOffset
      let date ← date
      if 23 < numberOf hour then throw (.rule "hour must be in 0..23")
      if 59 < numberOf minute then throw (.rule "minute must be in 0..59")
      if 59 < numberOf second then throw (.rule "second must be in 0..59")
      return .moment ⟨date, numberOf hour, numberOf minute, numberOf second,
        microseconds part, offset⟩

end LintBridge.Yaml

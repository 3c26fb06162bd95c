import PatchForge.Yaml.Resolution
import PatchForge.Json.Reader

/-!
# Days and moments

A day of the calendar, or a moment of a day with its distance from
universal time. A written moment has one of these if its numbers are in
range (`Moment.ofWritten`): the time zone is looked at first, then the
day, then the time of day.
-/

namespace PatchForge.Yaml

structure Day where
  year : Nat
  month : Nat
  day : Nat
  deriving DecidableEq, Repr, Inhabited

/-- A time of day to the millionth of a second. -/
structure Clock where
  hour : Nat
  minute : Nat
  second : Nat
  fraction : Nat
  deriving DecidableEq, Repr, Inhabited

/-- A day, or a time on a day with the seconds that its zone is ahead, if it tells. -/
structure Moment where
  day : Day
  clock : Option (Clock × Option Int)
  deriving DecidableEq, Repr, Inhabited

def isLeapYear (year : Nat) : Bool :=
  year % 4 = 0 && (year % 100 ≠ 0 || year % 400 = 0)

/-- The number of days in a month. -/
def daysInMonth (year month : Nat) : Nat :=
  if month = 2 then if isLeapYear year then 29 else 28
  else if [4, 6, 9, 11].contains month then 30
  else 31

namespace Moment

open Json (digitsValue)

/-- The day with these numbers. -/
def dayOf (year month day : Nat) : Except Fault Day :=
  if year = 0 then .error (.year year)
  else if month = 0 || 12 < month then .error .month
  else if day = 0 || daysInMonth year month < day then .error .day
  else .ok ⟨year, month, day⟩

def clockOf (hour minute second fraction : Nat) : Except Fault Clock :=
  if 23 < hour then .error .hour
  else if 59 < minute then .error .minute
  else if 59 < second then .error .second
  else .ok ⟨hour, minute, second, fraction⟩

/-- The seconds that a zone is ahead; less than a day either way. -/
def zoneOf : Char × List Char × List Char → Except Fault Int
  | (sign, hours, minutes) =>
    let ahead : Int := digitsValue hours * 3600 + digitsValue minutes * 60
    let ahead := if sign = '-' then -ahead else ahead
    if 86400 ≤ ahead.natAbs then .error (.zone ahead) else .ok ahead

/-- The millionths that the digits after a point stand for; further digits do not count. -/
def fractionOf (ds : List Char) : Nat :=
  digitsValue ((ds ++ List.replicate 6 '0').take 6)

def ofWritten (w : WrittenMoment) : Except Fault Moment := do
  let zone ← w.zone.mapM zoneOf
  let day ← dayOf (digitsValue w.year) (digitsValue w.month) (digitsValue w.day)
  match w.time with
  | none => return ⟨day, none⟩
  | some (hour, minute, second, fraction) =>
    let clock ← clockOf (digitsValue hour) (digitsValue minute) (digitsValue second)
      (fractionOf fraction)
    return ⟨day, some (clock, zone)⟩

/-! ## Instants -/

/-- The days before the first of a year. -/
def daysBeforeYear (year : Nat) : Nat :=
  let y := year - 1
  y * 365 + y / 4 - y / 100 + y / 400

/-- The days before the first of a month in its year. -/
def daysBeforeMonth (year month : Nat) : Nat :=
  (List.range (month - 1)).foldl (fun n m => n + daysInMonth year (m + 1)) 0

def dayNumber (d : Day) : Nat :=
  daysBeforeYear d.year + daysBeforeMonth d.year d.month + d.day

/-- The seconds and millionths of a moment in universal time, if its zone is known. -/
def instant? (m : Moment) : Option (Int × Nat) :=
  match m.clock with
  | some (c, some ahead) =>
    let ofDay : Int := c.hour * 3600 + c.minute * 60 + c.second
    some (dayNumber m.day * 86400 + ofDay - ahead, c.fraction)
  | _ => none

/-! ## Texts -/

/-- A number with zeros in front up to a width. -/
def padded (width n : Nat) : String :=
  let ds := Nat.toDigits 10 n
  String.ofList (List.replicate (width - ds.length) '0' ++ ds)

def dayText (d : Day) : String :=
  padded 4 d.year ++ "-" ++ padded 2 d.month ++ "-" ++ padded 2 d.day

def zoneText (ahead : Int) : String :=
  let minutes := ahead.natAbs / 60
  (if ahead < 0 then "-" else "+") ++ padded 2 (minutes / 60) ++ ":" ++ padded 2 (minutes % 60)

def clockText (c : Clock) : String :=
  padded 2 c.hour ++ ":" ++ padded 2 c.minute ++ ":" ++ padded 2 c.second ++
    if c.fraction = 0 then "" else "." ++ padded 6 c.fraction

/-- The moment as a text: the day, the time and the zone, as far as they are known. -/
def text (m : Moment) : String :=
  match m.clock with
  | none => dayText m.day
  | some (clock, zone) =>
    dayText m.day ++ " " ++ clockText clock ++ ((zone.map zoneText).getD "")

/-- A zone spelled out. -/
def zoneShown (ahead : Int) : String :=
  if ahead = 0 then "datetime.timezone.utc" else "datetime.timezone(" ++ spanText ahead ++ ")"

/-- The moment spelled out part by part. Seconds and their fraction are left out if they are
zero. -/
def shown (m : Moment) : String :=
  let day := [m.day.year, m.day.month, m.day.day].map Text.decimal
  match m.clock with
  | none => "datetime.date(" ++ ", ".intercalate day ++ ")"
  | some (c, zone) =>
    let seconds :=
      if c.fraction ≠ 0 then [c.second, c.fraction] else if c.second ≠ 0 then [c.second] else []
    let numbers := day ++ ([c.hour, c.minute] ++ seconds).map Text.decimal
    let parts := numbers ++ (zone.map fun z => "tzinfo=" ++ zoneShown z).toList
    "datetime.datetime(" ++ ", ".intercalate parts ++ ")"

end Moment

end PatchForge.Yaml

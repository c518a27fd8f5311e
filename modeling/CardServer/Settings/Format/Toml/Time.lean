import CardServer.Settings.Format.Toml.Text

/-! # Days and times of a file of tables

A day such as `1979-05-27`, a time of day such as `07:32:00.5`, or both, and then perhaps the distance
from the prime meridian.  As a setting a time is a text in one layout.

* `Time.text`   that layout
-/

namespace CardServer.Settings.Format.Toml

open Scan Walk

/-! ## Times and their texts -/

/-- A day of the calendar. -/
structure Day where
  year : Nat
  month : Nat
  day : Nat
  deriving DecidableEq, Repr

/-- A time of day. -/
structure Clock where
  hour : Nat
  minute : Nat
  second : Nat
  nanosecond : Nat
  deriving DecidableEq, Repr

/-- The distance from the prime meridian. -/
inductive Zone where
  | meridian
  | minutes (ahead : Int)
  deriving DecidableEq, Repr

/-- A day, a time of day or both. -/
inductive Time where
  | day (day : Day)
  | clock (clock : Clock)
  | moment (day : Day) (clock : Clock) (zone : Option Zone)
  deriving DecidableEq, Repr

/-- A number with zeros in front of it up to some width. -/
def padded (width n : Nat) : List Char :=
  let digits := Nat.toDigits 10 n
  List.replicate (width - digits.length) '0' ++ digits

/-- The text of a day. -/
def Day.text (d : Day) : List Char :=
  padded 4 d.year ++ '-' :: padded 2 d.month ++ '-' :: padded 2 d.day

/-- The text of a time of day; the fraction of a second ends in no zero. -/
def Clock.text (c : Clock) : List Char :=
  let fraction := ((padded 9 c.nanosecond).reverse.dropWhile (· = '0')).reverse
  padded 2 c.hour ++ ':' :: padded 2 c.minute ++ ':' :: padded 2 c.second ++
    if fraction.isEmpty then [] else '.' :: fraction

/-- The text of the distance from the prime meridian. -/
def Zone.text : Zone → List Char
  | .meridian => ['Z']
  | .minutes ahead =>
    (if ahead < 0 then '-' else '+') ::
      padded 2 (ahead.natAbs / 60) ++ ':' :: padded 2 (ahead.natAbs % 60)

/-- The text of a time. -/
def Time.text : Time → String
  | .day d => String.ofList d.text
  | .clock c => String.ofList c.text
  | .moment d c zone => String.ofList (d.text ++ 'T' :: c.text ++ ((zone.map Zone.text).getD []))

/-! ## The calendar -/

/-- Whether a year has a leap day. -/
def isLeapYear (year : Nat) : Bool := year % 4 = 0 && (year % 100 != 0 || year % 400 = 0)

/-- How many days a month has. -/
def daysIn (year month : Nat) : Nat :=
  if month = 2 then (if isLeapYear year then 29 else 28)
  else if month = 4 ∨ month = 6 ∨ month = 9 ∨ month = 11 then 30
  else 31

/-- The day of a month of a year, if the month has that day. -/
def Day.ofParts? (year month day : Nat) : Option Day :=
  if day ≤ daysIn year month then some ⟨year, month, day⟩ else none

/-! ## Reading -/

/-- Takes so many digits and gives the number. -/
def digits (count : Nat) : Walk Nat := do
  let digits := ((← get).take count).takeWhile Char.isDigit
  if digits.length < count then fail
  drop count
  return (natural? 10 digits).getD 0

/-- Takes a number of two digits that lies between two others. -/
def numberBetween (least greatest : Nat) : Walk Nat := do
  let start ← get
  let n ← digits 2
  if n < least ∨ greatest < n then refuse start .outOfRange
  return n

/-- Takes the digits behind a point and gives them as nanoseconds; further digits do not count. -/
def secondFraction : Walk Nat := do
  text "."
  let digits ← span Char.isDigit
  if digits.isEmpty then fail
  let kept := digits.take 9
  return (natural? 10 kept).getD 0 * Nat.pow 10 (9 - kept.length)

/-- Takes a day; its year and the dash behind it tell a day from other numbers. -/
def day : Walk Day := do
  let year ← digits 4
  text "-"
  final do
    let month ← numberBetween 1 12
    text "-"
    let start ← get
    let day ← numberBetween 1 31
    match Day.ofParts? year month day with
    | some day => return day
    | none => refuse start .outOfRange

/-- Takes a time of day; its hour and the colon behind it tell it from other numbers. -/
def clock : Walk Clock := do
  let hour ← numberBetween 0 23
  text ":"
  final do
    let minute ← numberBetween 0 59
    text ":"
    let second ← numberBetween 0 60
    let nanosecond := (← attempt? secondFraction).getD 0
    return { hour, minute, second, nanosecond }

/-- Takes the distance from the prime meridian. -/
def zone : Walk Zone := within "time offset" do
  let sign ← one fun c => c = 'Z' || c = 'z' || c = '+' || c = '-'
  if sign = 'Z' ∨ sign = 'z' then
    return .meridian
  final do
    let hours ← numberBetween 0 23
    text ":"
    let minutes ← numberBetween 0 59
    let ahead : Int := hours * 60 + minutes
    return .minutes (if sign = '-' then -ahead else ahead)

/-- Takes the time of day behind a day. -/
def clockOfDay : Walk (Clock × Option Zone) := do
  let _ ← one fun c => c = 'T' || c = 't' || c = ' '
  return (← clock, ← attempt? zone)

/-- Takes a day, a time of day or both. -/
def time : Walk Time :=
  (within "date-time" do
    let day ← day
    match ← attempt? clockOfDay with
    | some (clock, zone) => return .moment day clock zone
    | none => return .day day).orElse
  (within "time" do return .clock (← clock))

end CardServer.Settings.Format.Toml

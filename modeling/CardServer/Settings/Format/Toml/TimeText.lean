import CardServer.Settings.Format.Numeral
import CardServer.Settings.Format.Toml.Time

/-! # Times as texts

A time may be given as a text in place of a value of its own.  Such a text is cut into runs of digits and
single signs first, and a part of it is looked at as a whole: the numbers are checked when all of them
are there.

* `Time.ofText`   the time that a text stands for, or what is wrong with it
-/

namespace CardServer.Settings.Format.Toml

/-! ## Pieces -/

/-- A piece of the text of a time. -/
inductive Piece where
  | digits (run : List Char)
  | sign (c : Char)
  deriving DecidableEq, Repr

/-- The pieces of a text. -/
def pieces : List Char → List Piece
  | [] => []
  | c :: rest =>
    if c.isDigit then
      match pieces rest with
      | .digits run :: others => .digits (c :: run) :: others
      | others => .digits [c] :: others
    else
      .sign c :: pieces rest

/-! ## Parts -/

namespace TimeText

/-- A walk through the pieces of a text; what is wrong is a part and what it should have been. -/
abbrev Reading (α : Type) := StateT (List Piece) (Except (Option String × Option String)) α

/-- Gives up, as a part should have been something else. -/
def fail {α : Type} (part wanted : String) : Reading α := throw (some part, some wanted)

/-- Takes a run of digits. -/
def run (part : Option String) (wanted : String) : Reading (List Char) := do
  match ← get with
  | .digits run :: rest => set rest *> return run
  | _ => throw (part, some wanted)

/-- Takes a sign. -/
def sign (c : Char) (part wanted : String) : Reading Unit := do
  match ← get with
  | .sign other :: rest => if other = c then set rest else fail part wanted
  | _ => fail part wanted

/-- The number of a run of digits, which has to have so many. -/
def number (run : List Char) (count : Nat) (part wanted : String) : Reading Nat := do
  if run.length ≠ count then fail part wanted
  return (natural? 10 run).getD 0

/-- Takes the rest of a day behind its year and a dash. -/
def day (year : List Char) : Reading Day := do
  let month ← run (some "date") "month"
  sign '-' "date" "`-` (MM-DD)"
  let day ← run (some "date") "day"
  let year ← number year 4 "date" "a four-digit year (YYYY)"
  let month ← number month 2 "date" "a two-digit month (MM)"
  let day ← number day 2 "date" "a two-digit day (DD)"
  if month < 1 ∨ 12 < month then fail "date" "month between 01 and 12"
  let last := daysIn year month
  match if 1 ≤ day then Day.ofParts? year month day else none with
  | some day => return day
  | none => fail "date" ("day between 01 and " ++ toString last)

/-- Takes the fraction of a second behind its point, if there is one, in nanoseconds; further digits do
    not count. -/
def nanosecond : Reading Nat := do
  match ← get with
  | .sign '.' :: rest => do
    set rest
    let kept := (← run (some "time") "nanosecond").take 9
    return (natural? 10 kept).getD 0 * Nat.pow 10 (9 - kept.length)
  | _ => return 0

/-- Takes a time of day. -/
def clock : Reading Clock := do
  let hour ← run (some "time") "hour"
  sign ':' "time" "`:` (HH:MM)"
  let minute ← run (some "time") "minute"
  sign ':' "time" "`:` (MM:SS)"
  let second ← run (some "time") "second"
  let nanosecond ← nanosecond
  let hour ← number hour 2 "time" "a two-digit hour (HH)"
  let minute ← number minute 2 "time" "a two-digit minute (MM)"
  let second ← number second 2 "time" "a two-digit second (SS)"
  if 23 < hour then fail "time" "hour between 00 and 23"
  if 59 < minute then fail "time" "minute between 00 and 59"
  if 60 < second then fail "time" "second between 00 and 60"
  return { hour, minute, second, nanosecond }

/-- Takes the distance from the prime meridian behind its sign, in minutes. -/
def distance : Reading Nat := do
  let hours ← run (some "offset") "hour"
  sign ':' "offset" "`:` (HH:MM)"
  let minutes ← run (some "offset") "minute"
  let hours ← number hours 2 "offset" "a two-digit hour (HH)"
  let minutes ← number minutes 2 "offset" "a two-digit minute (MM)"
  if 23 < hours then fail "offset" "hours between 00 and 23"
  if 59 < minutes then fail "offset" "minutes between 00 and 59"
  return hours * 60 + minutes

/-- Takes the distance from the prime meridian, if there is one. -/
def zone : Reading (Option Zone) := do
  match ← get with
  | [] => return none
  | .sign c :: rest => do
    set rest
    if c = 'Z' ∨ c = 'z' then return some .meridian
    else if c = '+' then return some (.minutes (← distance))
    else if c = '-' then return some (.minutes (-(← distance : Nat)))
    else fail "offset" "`Z`, +OFFSET, -OFFSET"
  | _ => fail "offset" "`Z`, +OFFSET, -OFFSET"

/-- Takes what stands behind a day. -/
def behindDay (day : Day) : Reading Time := do
  match ← get with
  | [] => return .day day
  | .sign c :: rest => do
    if c ≠ 'T' ∧ c ≠ 't' ∧ c ≠ ' ' then fail "date-time" "`T` between date and time"
    set rest
    let clock ← clock
    return .moment day clock (← zone)
  | _ => fail "date-time" "`T` between date and time"

/-- Takes a time; the sign behind the first number tells a day from a time of day. -/
def time : Reading Time := do
  let wanted := "`-` (YYYY-MM) or `:` (HH:MM)"
  let start ← get
  let first ← run none "year or hour"
  match ← get with
  | .sign '-' :: rest => do
    set rest
    behindDay (← day first)
  | .sign ':' :: _ => do
    set start
    return .clock (← clock)
  | _ => throw (none, some wanted)

end TimeText

/-- The time that a text stands for, or which part of it is wrong and what it should have been. -/
def Time.ofText (text : String) : Except (Option String × Option String) Time :=
  match TimeText.time.run (pieces text.toList) with
  | .ok (time, []) => .ok time
  | .ok _ => .error (none, none)
  | .error wrong => .error wrong

end CardServer.Settings.Format.Toml

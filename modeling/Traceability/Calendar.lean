import Traceability.Number.Integer
import Traceability.Text.Search

/-! # Days and moments

Days follow the Gregorian calendar, which is extended to all years from 1 to 9999. A moment is a
time of a day with microseconds; it may carry the distance of its clock from universal time.
-/
namespace Traceability

structure Date where
  year : Nat
  month : Nat
  day : Nat
  deriving DecidableEq, Repr

/-- A moment of a day; the offset is in seconds, and a moment without one has no zone. -/
structure Moment where
  date : Date
  hour : Nat
  minute : Nat
  second : Nat
  microsecond : Nat
  offset : Option Int
  deriving DecidableEq, Repr

inductive CalendarError
  | year (year : Nat)
  | month
  | day
  | hour
  | minute
  | second
  | offset (negative : Bool) (days seconds : Nat)
  deriving DecidableEq, Repr

/-- A span of time as it is shown: whole days and the seconds within a day. -/
def spanText (seconds : Int) : String :=
  let days := seconds / 86400
  let rest := seconds % 86400
  let parts := (if days = 0 then [] else [s!"days={days}"]) ++
    (if rest = 0 then [] else [s!"seconds={rest}"])
  "datetime.timedelta(" ++ (if parts.isEmpty then "0" else ", ".intercalate parts) ++ ")"

def CalendarError.message : CalendarError → String
  | year n => s!"year {n} is out of range"
  | month => "month must be in 1..12"
  | day => "day is out of range for month"
  | hour => "hour must be in 0..23"
  | minute => "minute must be in 0..59"
  | second => "second must be in 0..59"
  | offset negative days seconds =>
    let span : Int := days * 86400 + seconds
    "offset must be a timedelta strictly between -timedelta(hours=24) and timedelta(hours=24), not " ++
      spanText (if negative then -span else span) ++ "."

def isLeapYear (year : Nat) : Bool :=
  year % 4 == 0 && (year % 100 != 0 || year % 400 == 0)

def daysInMonth (year month : Nat) : Nat :=
  if month = 2 then (if isLeapYear year then 29 else 28)
  else if month = 4 ∨ month = 6 ∨ month = 9 ∨ month = 11 then 30
  else 31

def Date.ofParts (year month day : Nat) : Except CalendarError Date :=
  if year = 0 ∨ 9999 < year then .error (.year year)
  else if month = 0 ∨ 12 < month then .error .month
  else if day = 0 ∨ daysInMonth year month < day then .error .day
  else .ok ⟨year, month, day⟩

def Moment.ofParts (year month day hour minute second microsecond : Nat) (offset : Option Int) :
    Except CalendarError Moment := do
  let date ← Date.ofParts year month day
  if 23 < hour then .error .hour
  else if 59 < minute then .error .minute
  else if 59 < second then .error .second
  else .ok ⟨date, hour, minute, second, microsecond, offset⟩

/-- The zone offset of some hours and minutes; it is shorter than a day. -/
def zoneOffset (negative : Bool) (hours minutes : Nat) : Except CalendarError Int :=
  let span := hours * 3600 + minutes * 60
  if 86400 ≤ span then .error (.offset negative (span / 86400) (span % 86400))
  else .ok (if negative then -(span : Int) else span)

/-- Days since the last day before year 1. -/
def Date.ordinal (d : Date) : Nat :=
  let before := d.year - 1
  before * 365 + before / 4 - before / 100 + before / 400 +
    ((List.range (d.month - 1)).map fun m => daysInMonth d.year (m + 1)).foldl (· + ·) 0 + d.day

def Moment.ticks (m : Moment) : Int :=
  (((m.date.ordinal * 24 + m.hour) * 60 + m.minute) * 60 + m.second : Nat) * 1000000 + m.microsecond

/-- Two moments are the same time; one with a zone never equals one without. -/
def Moment.sameTime (a b : Moment) : Bool :=
  match a.offset, b.offset with
  | none, none => a.ticks == b.ticks
  | some s, some t => a.ticks - s * 1000000 == b.ticks - t * 1000000
  | _, _ => false

open Text

/-- The day as `YYYY-MM-DD`. -/
def Date.toText (d : Date) : String :=
  s!"{padded 4 d.year}-{padded 2 d.month}-{padded 2 d.day}"

/-- A zone offset as `+HH:MM`, with seconds when there are any. -/
def offsetText (seconds : Int) : String :=
  let n := seconds.natAbs
  let body := s!"{padded 2 (n / 3600)}:{padded 2 (n / 60 % 60)}"
  (if seconds < 0 then "-" else "+") ++ body ++
    (if n % 60 = 0 then "" else ":" ++ padded 2 (n % 60))

/-- The moment as `YYYY-MM-DD HH:MM:SS`, with the given character before the time. -/
def Moment.toText (m : Moment) (separator : Char) : String :=
  m.date.toText ++ separator.toString ++
    s!"{padded 2 m.hour}:{padded 2 m.minute}:{padded 2 m.second}" ++
    (if m.microsecond = 0 then "" else "." ++ padded 6 m.microsecond) ++
    (match m.offset with
    | none => ""
    | some seconds => offsetText seconds)

def Date.literal (d : Date) : String :=
  s!"datetime.date({d.year}, {d.month}, {d.day})"

def zoneLiteral (seconds : Int) : String :=
  if seconds = 0 then "datetime.timezone.utc"
  else "datetime.timezone(" ++ spanText seconds ++ ")"

/-- The moment as a literal: seconds and microseconds are left out when they are zero. -/
def Moment.literal (m : Moment) : String :=
  let parts := [m.date.year, m.date.month, m.date.day, m.hour, m.minute] ++
    (if m.second = 0 ∧ m.microsecond = 0 then []
     else if m.microsecond = 0 then [m.second] else [m.second, m.microsecond])
  "datetime.datetime(" ++ ", ".intercalate (parts.map toString) ++
    (match m.offset with
    | none => ""
    | some seconds => ", tzinfo=" ++ zoneLiteral seconds) ++ ")"

def takeDigits? (count : Nat) (cs : List Char) : Option (Nat × List Char) :=
  let digits := cs.take count
  if digits.length = count ∧ digits.all isAsciiDigit then
    some (Number.ofDigits 10 (digits.map (·.toNat - 48)), cs.drop count)
  else none

def readDate? (cs : List Char) : Option (Date × List Char) := do
  let (year, cs) ← takeDigits? 4 cs
  let cs ← after? ['-'] cs
  let (month, cs) ← takeDigits? 2 cs
  let cs ← after? ['-'] cs
  let (day, cs) ← takeDigits? 2 cs
  let date ← (Date.ofParts year month day).toOption
  pure (date, cs)

def Date.ofText? (s : String) : Option Date :=
  match readDate? s.toList with
  | some (date, []) => some date
  | _ => none

/-- A part such as `:SS` at the start of a text, zero when it is absent. -/
def readPart (lead : Char) (width : Nat) (cs : List Char) : Nat × List Char :=
  match (after? [lead] cs).bind (takeDigits? width) with
  | some (n, rest) => (n, rest)
  | none => (0, cs)

def readZone? : List Char → Option (Option Int)
  | [] => some none
  | ['Z'] => some (some 0)
  | sign :: cs =>
    if sign = '+' ∨ sign = '-' then do
      let (hours, cs) ← takeDigits? 2 cs
      let (minutes, cs) := readPart ':' 2 cs
      let (seconds, cs) := readPart ':' 2 cs
      let span : Int := hours * 3600 + minutes * 60 + seconds
      if cs.isEmpty then some (some (if sign = '-' then -span else span)) else none
    else none

/-- Reads a moment written as `YYYY-MM-DDTHH:MM:SS` with optional fraction and zone. -/
def Moment.ofText? (s : String) : Option Moment := do
  let (date, cs) ← readDate? s.toList
  match cs with
  | [] => pure ⟨date, 0, 0, 0, 0, none⟩
  | _ :: cs =>
    let (hour, cs) ← takeDigits? 2 cs
    let (minute, cs) := readPart ':' 2 cs
    let (second, cs) := readPart ':' 2 cs
    let fraction := ((after? ['.'] cs).getD []).takeWhile isAsciiDigit
    let cs := if fraction.isEmpty then cs else cs.drop (fraction.length + 1)
    let digits := (fraction ++ List.replicate 6 '0').take 6
    let microsecond := Number.ofDigits 10 (digits.map (·.toNat - 48))
    let zone ← readZone? cs
    (Moment.ofParts date.year date.month date.day hour minute second microsecond zone).toOption

end Traceability

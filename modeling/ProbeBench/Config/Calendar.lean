import ProbeBench.Decimal.Written

/-!
# Dates and times

The dates, the times of day and the moments that a configuration file can hold, and two ways to
write each: `iso`, the standard form with a fixed number of digits, and `literal`, the form that
messages show.
-/

namespace ProbeBench.Config

/-- A number in at least `width` digits. -/
def padded (width n : Nat) : String :=
  let ds := Decimal.digitsOf n
  String.ofList (List.replicate (width - ds.length) '0' ++ ds)

/-- A day of the calendar. -/
structure Date where
  year : Nat
  month : Nat
  day : Nat
  deriving DecidableEq, Repr

/-- A time of day, to the millionth of a second. -/
structure Clock where
  hour : Nat
  minute : Nat
  second : Nat
  micro : Nat
  deriving DecidableEq, Repr

namespace Date

/-- Whether February has 29 days. -/
def isLeap (year : Nat) : Bool :=
  year % 4 = 0 && (year % 100 ≠ 0 || year % 400 = 0)

/-- The number of days of a month. -/
def daysIn (year month : Nat) : Nat :=
  if month = 2 then if isLeap year then 29 else 28
  else if month = 4 ∨ month = 6 ∨ month = 9 ∨ month = 11 then 30
  else 31

/-- Whether the day exists; years begin with 1. -/
def isValid (d : Date) : Bool :=
  1 ≤ d.year && 1 ≤ d.month && d.month ≤ 12 && 1 ≤ d.day && d.day ≤ daysIn d.year d.month

/-- The standard form. -/
def iso (d : Date) : String :=
  padded 4 d.year ++ "-" ++ padded 2 d.month ++ "-" ++ padded 2 d.day

/-- The numbers of the date. -/
def fields (d : Date) : List Nat := [d.year, d.month, d.day]

theorem length_fields (d : Date) : d.fields.length = 3 := rfl

end Date

namespace Clock

/-- The standard form; millionths only where there are any. -/
def iso (c : Clock) : String :=
  padded 2 c.hour ++ ":" ++ padded 2 c.minute ++ ":" ++ padded 2 c.second ++
    (if c.micro = 0 then "" else "." ++ padded 6 c.micro)

/-- The numbers of the time, without zeros at the end after the minute. -/
def fields (c : Clock) : List Nat :=
  if c.micro ≠ 0 then [c.hour, c.minute, c.second, c.micro]
  else if c.second ≠ 0 then [c.hour, c.minute, c.second]
  else [c.hour, c.minute]

end Clock

/-- Numbers with a comma and a blank between them. -/
def listed (ns : List Nat) : String :=
  ", ".intercalate (ns.map toString)

/-- The standard form of a distance from universal time in minutes. -/
def isoOffset (minutes : Int) : String :=
  let n := minutes.natAbs
  (if minutes < 0 then "-" else "+") ++ padded 2 (n / 60) ++ ":" ++ padded 2 (n % 60)

/-- A distance from universal time in minutes as a literal: whole days, and seconds upwards from
them. -/
def offsetLiteral (minutes : Int) : String :=
  if minutes = 0 then "datetime.timezone.utc"
  else
    let seconds := minutes * 60
    let days := Int.fdiv seconds 86400
    let rest := Int.fmod seconds 86400
    let parts :=
      (if days = 0 then [] else ["days=" ++ toString days]) ++
        (if rest = 0 then [] else ["seconds=" ++ toString rest])
    "datetime.timezone(datetime.timedelta(" ++ ", ".intercalate parts ++ "))"

/-- A day and a time, and the distance from universal time in minutes if it is known. -/
structure Moment where
  date : Date
  clock : Clock
  offset : Option Int
  deriving DecidableEq, Repr

/-- The standard form. -/
def Moment.iso (m : Moment) : String :=
  m.date.iso ++ "T" ++ m.clock.iso ++ (m.offset.map isoOffset).getD ""

/-- A date as messages show it. -/
def Date.literal (d : Date) : String :=
  "datetime.date(" ++ listed d.fields ++ ")"

/-- A time of day as messages show it. -/
def Clock.literal (c : Clock) : String :=
  "datetime.time(" ++ listed c.fields ++ ")"

/-- A moment as messages show it. -/
def Moment.literal (m : Moment) : String :=
  "datetime.datetime(" ++ listed (m.date.fields ++ m.clock.fields) ++
    (m.offset.map (", tzinfo=" ++ offsetLiteral ·)).getD "" ++ ")"

end ProbeBench.Config

/-!
# Dates and moments
A date has a year of at most four digits, a moment adds a time of day and possibly the offset of its
zone from universal time. Only dates and times that exist can be made.
-/
namespace LineScript.Calendar

/-- Why there is no such date or moment. -/
inductive Misfit where
  | year (year : Nat)
  | month
  | day
  | hour
  | minute
  | second
  | offset (shown : String)
  deriving DecidableEq, Repr

def Misfit.message : Misfit → String
  | .year number => "year " ++ toString number ++ " is out of range"
  | .month => "month must be in 1..12"
  | .day => "day is out of range for month"
  | .hour => "hour must be in 0..23"
  | .minute => "minute must be in 0..59"
  | .second => "second must be in 0..59"
  | .offset text =>
    "offset must be a timedelta strictly between -timedelta(hours=24) and timedelta(hours=24), " ++
      "not " ++ text

/-- Every fourth year is a leap year, except for centuries that are not fourth ones. -/
def isLeap (year : Nat) : Bool := year % 4 == 0 && (year % 100 != 0 || year % 400 == 0)

/-- How many days a month has. -/
def daysIn (year month : Nat) : Nat :=
  if month = 2 then if isLeap year then 29 else 28
  else if month = 4 ∨ month = 6 ∨ month = 9 ∨ month = 11 then 30
  else 31

/-- A day of the calendar. -/
structure Date where
  year : Nat
  month : Nat
  day : Nat
  deriving DecidableEq, Repr

/-- A time of day. -/
structure Time where
  hour : Nat
  minute : Nat
  second : Nat
  microsecond : Nat
  deriving DecidableEq, Repr

/-- A time of a day, with the offset of its zone in minutes if it has one. -/
structure Moment where
  date : Date
  time : Time
  offset : Option Int
  deriving DecidableEq, Repr

def Date.make (year month day : Nat) : Except Misfit Date :=
  if year = 0 ∨ 9999 < year then .error (.year year)
  else if month = 0 ∨ 12 < month then .error .month
  else if day = 0 ∨ daysIn year month < day then .error .day
  else .ok ⟨year, month, day⟩

def Time.make (hour minute second microsecond : Nat) : Except Misfit Time :=
  if 23 < hour then .error .hour
  else if 59 < minute then .error .minute
  else if 59 < second then .error .second
  else .ok ⟨hour, minute, second, microsecond⟩

/-- A length of time in minutes as it is shown, in days and seconds. -/
def showSpan (minutes : Int) : String :=
  let days := minutes.fdiv 1440
  let seconds := minutes.fmod 1440 * 60
  let parts := (if days = 0 then [] else ["days=" ++ toString days]) ++
    (if seconds = 0 then [] else ["seconds=" ++ toString seconds])
  "datetime.timedelta(" ++ (if parts.isEmpty then "0" else ", ".intercalate parts) ++ ")"

/-- The offset of a zone is less than a day. -/
def checkOffset (minutes : Int) : Except Misfit Int :=
  if -1440 < minutes ∧ minutes < 1440 then .ok minutes else .error (.offset (showSpan minutes))

/-- A number with at least `width` digits. -/
def padded (width n : Nat) : String :=
  let digits := Nat.toDigits 10 n
  String.ofList (List.replicate (width - digits.length) '0' ++ digits)

def Date.text (date : Date) : String :=
  padded 4 date.year ++ "-" ++ padded 2 date.month ++ "-" ++ padded 2 date.day

/-- A time in digits; microseconds are left out when there are none. -/
def Time.text (time : Time) : String :=
  padded 2 time.hour ++ ":" ++ padded 2 time.minute ++ ":" ++ padded 2 time.second ++
    (if time.microsecond = 0 then "" else "." ++ padded 6 time.microsecond)

def offsetText (minutes : Int) : String :=
  (if minutes < 0 then "-" else "+") ++ padded 2 (minutes.natAbs / 60) ++ ":" ++
    padded 2 (minutes.natAbs % 60)

def Moment.text (moment : Moment) : String :=
  moment.date.text ++ " " ++ moment.time.text ++ (moment.offset.elim "" offsetText)

def Date.parts (date : Date) : List Nat := [date.year, date.month, date.day]

/-- The parts of a time; seconds and microseconds at the end are left out when they are zero. -/
def Time.parts (time : Time) : List Nat :=
  [time.hour, time.minute] ++
    if time.microsecond ≠ 0 then [time.second, time.microsecond]
    else if time.second ≠ 0 then [time.second]
    else []

/-- How many days come before a date, counted from the first day of the first year. -/
def Date.ordinal (date : Date) : Nat :=
  let years := date.year - 1
  let months := (List.range date.month).drop 1
  years * 365 + years / 4 - years / 100 + years / 400 +
    (months.map (daysIn date.year)).foldr (· + ·) 0 + (date.day - 1)

/-- The microseconds that come before a moment, in universal time if it has a zone. -/
def Moment.instant (moment : Moment) : Int :=
  let time := moment.time
  let minutes : Int := ((moment.date.ordinal * 24 + time.hour) * 60 + time.minute : Nat)
  ((minutes - moment.offset.getD 0) * 60 + time.second) * 1000000 + time.microsecond

/-- Two moments can be compared if both have a zone or neither has one. -/
def Moment.isLike (a b : Moment) : Bool := a.offset.isSome == b.offset.isSome

/-- A date as messages show it. -/
def Date.shown (date : Date) : String :=
  "datetime.date(" ++ ", ".intercalate (date.parts.map toString) ++ ")"

/-- The zone of a moment as messages show it. -/
def showZone (minutes : Int) : String :=
  if minutes = 0 then "datetime.timezone.utc" else "datetime.timezone(" ++ showSpan minutes ++ ")"

/-- A moment as messages show it. -/
def Moment.shown (moment : Moment) : String :=
  let parts := (moment.date.parts ++ moment.time.parts).map toString
  let zone := moment.offset.elim [] fun minutes => ["tzinfo=" ++ showZone minutes]
  "datetime.datetime(" ++ ", ".intercalate (parts ++ zone) ++ ")"

end LineScript.Calendar

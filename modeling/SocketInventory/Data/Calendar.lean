import SocketInventory.Text.Numeral

/-!
# Dates and moments

A day of the calendar, and a time of day on it with an optional offset from universal time.
-/

namespace SocketInventory

structure Date where
  year : Nat
  month : Nat
  day : Nat
  deriving DecidableEq, Repr

structure Moment where
  date : Date
  hour : Nat
  minute : Nat
  second : Nat
  microsecond : Nat
  /-- Minutes ahead of universal time. -/
  offset : Option Int
  deriving DecidableEq, Repr

def paddedDecimal (width n : Nat) : String :=
  let digits := Text.decimalChars n
  String.ofList (List.replicate (width - digits.length) '0' ++ digits)

def callText (function : String) (arguments : List String) : String :=
  function ++ "(" ++ ", ".intercalate arguments ++ ")"

namespace Date

def isLeapYear (year : Nat) : Bool := year % 4 == 0 && (year % 100 != 0 || year % 400 == 0)

def monthLength (year month : Nat) : Nat :=
  if month = 2 then if isLeapYear year then 29 else 28
  else if month = 4 || month = 6 || month = 9 || month = 11 then 30
  else 31

/-- The days of years 1 to 9999. -/
def ofParts? (year month day : Nat) : Option Date :=
  if 1 ≤ year && year ≤ 9999 && 1 ≤ month && month ≤ 12 && 1 ≤ day && day ≤ monthLength year month
  then some ⟨year, month, day⟩
  else none

def dayNumber (d : Date) : Nat :=
  let past := d.year - 1
  past * 365 + past / 4 - past / 100 + past / 400 +
    (List.range (d.month - 1)).foldl (fun days m => days + monthLength d.year (m + 1)) 0 + d.day

def text (d : Date) : String :=
  "-".intercalate [paddedDecimal 4 d.year, paddedDecimal 2 d.month, paddedDecimal 2 d.day]

def quoted (d : Date) : String := callText "datetime.date" ([d.year, d.month, d.day].map toString)

end Date

namespace Moment

/-- A moment whose parts are in range; the offset is less than a day. -/
def ofParts? (date : Date) (hour minute second microsecond : Nat) (offset : Option Int) :
    Option Moment :=
  if hour < 24 && minute < 60 && second < 60 && offset.all (fun n => n.natAbs < 24 * 60)
  then some ⟨date, hour, minute, second, microsecond, offset⟩
  else none

/-- The minutes of universal time from the start of the calendar. -/
def instant (m : Moment) (offset : Int) : Int :=
  ((m.date.dayNumber * 24 + m.hour) * 60 + m.minute : Nat) - offset

/-- The same instant, or the same parts where no offset is known. -/
def same (m n : Moment) : Bool :=
  match m.offset, n.offset with
  | none, none => m == n
  | some a, some b =>
    m.instant a == n.instant b && m.second == n.second && m.microsecond == n.microsecond
  | _, _ => false

def offsetText (n : Int) : String :=
  (if n < 0 then "-" else "+") ++ paddedDecimal 2 (n.natAbs / 60) ++ ":" ++
    paddedDecimal 2 (n.natAbs % 60)

def text (m : Moment) : String :=
  m.date.text ++ " " ++
    ":".intercalate [paddedDecimal 2 m.hour, paddedDecimal 2 m.minute, paddedDecimal 2 m.second] ++
    (if m.microsecond = 0 then "" else "." ++ paddedDecimal 6 m.microsecond) ++
    match m.offset with
    | none => ""
    | some n => offsetText n

/-- An offset is shown in days and seconds, the seconds never negative. -/
def quotedOffset (n : Int) : String :=
  if n = 0 then "datetime.timezone.utc"
  else
    let seconds := toString ((n * 60) % (24 * 60 * 60)).toNat
    let span := if n < 0 then ["days=-1", "seconds=" ++ seconds] else ["seconds=" ++ seconds]
    callText "datetime.timezone" [callText "datetime.timedelta" span]

/-- Seconds are left out when they and the microseconds are zero, microseconds when zero. -/
def quoted (m : Moment) : String :=
  let fine :=
    if m.microsecond ≠ 0 then [m.second, m.microsecond]
    else if m.second ≠ 0 then [m.second]
    else []
  let numbers := [m.date.year, m.date.month, m.date.day, m.hour, m.minute] ++ fine
  callText "datetime.datetime"
    (numbers.map toString ++ (m.offset.map fun n => "tzinfo=" ++ quotedOffset n).toList)

end Moment

end SocketInventory

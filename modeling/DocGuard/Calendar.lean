set_option autoImplicit false

namespace DocGuard

def zeroPadded (width n : Nat) : String :=
  let digits := Nat.toDigits 10 n
  String.ofList (List.replicate (width - digits.length) '0' ++ digits)

structure Date where
  year : Nat
  month : Nat
  day : Nat
  deriving Repr, DecidableEq

namespace Date

def isLeapYear (year : Nat) : Bool := year % 4 == 0 && (year % 100 != 0 || year % 400 == 0)

def daysIn (year month : Nat) : Nat :=
  if month == 2 then (if isLeapYear year then 29 else 28)
  else if [4, 6, 9, 11].contains month then 30
  else 31

def dayNumber (d : Date) : Nat :=
  let years := d.year - 1
  let months := (List.range (d.month - 1)).foldl (fun n month => n + daysIn d.year (month + 1)) 0
  365 * years + years / 4 - years / 100 + years / 400 + months + (d.day - 1)

def toText (d : Date) : String :=
  zeroPadded 4 d.year ++ "-" ++ zeroPadded 2 d.month ++ "-" ++ zeroPadded 2 d.day

end Date

-- `offset` says how many minutes the clock is ahead of universal time, if that is known.
structure Moment where
  date : Date
  hour : Nat
  minute : Nat
  second : Nat
  micro : Nat
  offset : Option Int
  deriving Repr, DecidableEq

namespace Moment

def minutes (m : Moment) : Int :=
  ((m.date.dayNumber * 24 + m.hour) * 60 + m.minute : Nat) - m.offset.getD 0

-- A clock of unknown offset agrees with none of known offset.
def same (a b : Moment) : Bool :=
  a.offset.isSome == b.offset.isSome && a.minutes == b.minutes && a.second == b.second &&
    a.micro == b.micro

def offsetText (offset : Int) : String :=
  (if offset < 0 then "-" else "+") ++ zeroPadded 2 (offset.natAbs / 60) ++ ":" ++
    zeroPadded 2 (offset.natAbs % 60)

def toText (m : Moment) (between : String) : String :=
  m.date.toText ++ between ++ zeroPadded 2 m.hour ++ ":" ++ zeroPadded 2 m.minute ++ ":" ++
    zeroPadded 2 m.second ++ (if m.micro == 0 then "" else "." ++ zeroPadded 6 m.micro) ++
    m.offset.elim "" offsetText

-- Only the days of a span can be negative.
def spanText (minutes : Int) : String :=
  let days := minutes.fdiv 1440
  let seconds := minutes.fmod 1440 * 60
  let parts := (if days == 0 then [] else [s!"days={days}"]) ++
    (if seconds == 0 then [] else [s!"seconds={seconds}"])
  "datetime.timedelta(" ++ (if parts.isEmpty then "0" else ", ".intercalate parts) ++ ")"

def zoneText (offset : Int) : String :=
  if offset == 0 then "datetime.timezone.utc" else "datetime.timezone(" ++ spanText offset ++ ")"

def literal (m : Moment) : String :=
  let fraction := if m.micro == 0 then [] else [m.micro]
  let seconds := if m.second == 0 && m.micro == 0 then [] else m.second :: fraction
  let parts := ([m.date.year, m.date.month, m.date.day, m.hour, m.minute] ++ seconds).map toString
  let zone := m.offset.elim [] fun offset => ["tzinfo=" ++ zoneText offset]
  "datetime.datetime(" ++ ", ".intercalate (parts ++ zone) ++ ")"

end Moment

end DocGuard

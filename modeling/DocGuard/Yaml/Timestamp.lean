import DocGuard.Number.Numeral
import DocGuard.Value
import DocGuard.Yaml.Cursor

set_option autoImplicit false

namespace DocGuard.Yaml

inductive Zone
  | universal
  | ahead (minutes : Int)
  deriving Repr, DecidableEq

structure ClockTime where
  hour : Nat
  minute : Nat
  second : Nat
  micro : Nat
  zone : Option Zone
  deriving Repr, DecidableEq

structure Timestamp where
  year : Nat
  month : Nat
  day : Nat
  time : Option ClockTime
  deriving Repr, DecidableEq

namespace Timestamp

def number? (least most : Nat) (text : List Char) : Option (Nat × List Char) :=
  let digits := (text.take most).takeWhile isDecimal
  if least ≤ digits.length then some (Numeral.ofDigits 10 digits, text.drop digits.length) else none

def mark? (mark : Char) : List Char → Option (List Char)
  | c :: rest => if c == mark then some rest else none
  | [] => none

def date? (text : List Char) : Option ((Nat × Nat × Nat) × List Char) := do
  let (year, rest) ← number? 4 4 text
  let (month, rest) ← number? 1 2 (← mark? '-' rest)
  let (day, rest) ← number? 1 2 (← mark? '-' rest)
  return ((year, month, day), rest)

def divider? : List Char → Option (List Char)
  | 'T' :: rest | 't' :: rest => some rest
  | c :: rest => if isSpaceOrTab c then some (rest.dropWhile isSpaceOrTab) else none
  | [] => none

def micro (digits : List Char) : Nat :=
  Numeral.ofDigits 10 ((digits ++ List.replicate 6 '0').take 6)

def fraction : List Char → Nat × List Char
  | '.' :: rest =>
    let digits := rest.takeWhile isDecimal
    (micro digits, rest.drop digits.length)
  | rest => (0, rest)

def ahead? (text : List Char) : Option Nat := do
  let (hours, rest) ← number? 1 2 text
  match rest with
  | [] => some (hours * 60)
  | ':' :: rest =>
    let (minutes, rest) ← number? 2 2 rest
    if rest.isEmpty then some (hours * 60 + minutes) else none
  | _ => none

def zone? (text : List Char) : Option (Option Zone) :=
  if text.isEmpty then some none
  else
    match text.dropWhile isSpaceOrTab with
    | ['Z'] => some (some .universal)
    | '+' :: rest => (ahead? rest).map fun minutes => some (.ahead minutes)
    | '-' :: rest => (ahead? rest).map fun minutes => some (.ahead (-minutes))
    | _ => none

def time? (text : List Char) : Option ClockTime := do
  let (hour, rest) ← number? 1 2 (← divider? text)
  let (minute, rest) ← number? 2 2 (← mark? ':' rest)
  let (second, rest) ← number? 2 2 (← mark? ':' rest)
  let (micro, rest) := fraction rest
  return { hour, minute, second, micro, zone := ← zone? rest }

def ofText? (text : List Char) : Option Timestamp := do
  let ((year, month, day), rest) ← date? text
  if rest.isEmpty then return { year, month, day, time := none }
  return { year, month, day, time := some (← time? rest) }

def isPlain (text : List Char) : Bool :=
  match ofText? text with
  | some stamp => stamp.time.isSome || text.length == 10
  | none => false

def calendarDate (year month day : Nat) : Except Fault Date :=
  if year == 0 then .error (.yearRange year)
  else if month == 0 || 12 < month then .error .monthRange
  else if day == 0 || Date.daysIn year month < day then .error .dayRange
  else .ok ⟨year, month, day⟩

def offset : Option Zone → Except Fault (Option Int)
  | none => .ok none
  | some .universal => .ok (some 0)
  | some (.ahead minutes) =>
    if minutes.natAbs < 1440 then .ok (some minutes) else .error (.offsetRange minutes)

-- The zone is checked first, then the date, then the time.
def moment (stamp : Timestamp) (time : ClockTime) : Except Fault Moment := do
  let offset ← offset time.zone
  let date ← calendarDate stamp.year stamp.month stamp.day
  if 23 < time.hour then throw .hourRange
  if 59 < time.minute then throw .minuteRange
  if 59 < time.second then throw .secondRange
  return ⟨date, time.hour, time.minute, time.second, time.micro, offset⟩

def value (stamp : Timestamp) : Except Fault Value :=
  match stamp.time with
  | none => (calendarDate stamp.year stamp.month stamp.day).map .date
  | some time => (stamp.moment time).map .moment

end Timestamp

end DocGuard.Yaml

import DocGuard.Number.Binary64

set_option autoImplicit false

namespace DocGuard.Binary64

structure Decimal where
  digits : Nat
  power : Int
  deriving Repr, DecidableEq

-- The positive numbers that round to one number, as numerators over one denominator: the ends, the
-- number itself, and whether the ends belong to it.
structure Interval where
  low : Nat
  value : Nat
  high : Nat
  den : Nat
  closed : Bool

-- Below a power of two the neighbour is twice as near.
def interval (mantissa : Nat) (exponent : Int) : Interval :=
  let narrow := mantissa == twoTo 52 && minExponent < exponent
  let (value, den) := scaled (4 * mantissa) 4 (-exponent)
  let (unit, _) := scaled 1 4 (-exponent)
  { low := value - (if narrow then unit else 2 * unit)
    value := value
    high := value + 2 * unit
    den := den
    closed := mantissa % 2 == 0 }

namespace Interval

def contains (i : Interval) (d : Decimal) : Bool :=
  let (num, den) :=
    if 0 ≤ d.power then (d.digits * tenTo d.power.toNat * i.den, 1)
    else (d.digits * i.den, tenTo (-d.power).toNat)
  if i.closed then i.low * den ≤ num && num ≤ i.high * den
  else i.low * den < num && num < i.high * den

def onGrid (i : Interval) (power : Int) : Nat × Nat × Nat :=
  let (num, den) :=
    if 0 ≤ power then (i.value, i.den * tenTo power.toNat)
    else (i.value * tenTo (-power).toNat, i.den)
  (num / den, num % den, den)

def neighbour? (i : Interval) (power : Int) : Option Decimal :=
  let (low, rest, step) := i.onGrid power
  let below : Decimal := ⟨low, power⟩
  let above : Decimal := ⟨low + 1, power⟩
  let (first, second) :=
    if 2 * rest < step || (2 * rest == step && low % 2 == 0) then (below, above) else (above, below)
  if i.contains first then some first
  else if i.contains second then some second
  else none

end Interval

def pointPlace (num den : Nat) : Int :=
  let whole := num / den
  if 0 < whole then (Nat.toDigits 10 whole).length
  else
    let inverse := (den + num - 1) / num
    let guess : Int := -(((Nat.toDigits 10 inverse).length : Int) - 1)
    if den ≤ num * tenTo (-guess).toNat then guess + 1 else guess

def Decimal.trim : Nat → Decimal → Decimal
  | 0, d => d
  | n + 1, d =>
    if d.digits != 0 && d.digits % 10 == 0 then Decimal.trim n ⟨d.digits / 10, d.power + 1⟩ else d

-- Seventeen digits always suffice.
def shortest (mantissa : Nat) (exponent : Int) : Decimal :=
  let i := interval mantissa exponent
  let place := pointPlace i.value i.den
  let candidates := (List.range 17).filterMap fun (n : Nat) => i.neighbour? (place - 1 - n)
  (candidates.head?.getD ⟨i.value / i.den, 0⟩).trim 20

-- Positional digits from `10 ^ -4` up to `10 ^ 16`, at least one of them after the point; outside
-- that range an exponent with a sign and at least two digits.
def Decimal.toText (d : Decimal) : String :=
  let digits := Nat.toDigits 10 d.digits
  let place : Int := digits.length + d.power
  if place ≤ -4 ∨ 16 < place then
    let power := place - 1
    let size := Nat.toDigits 10 power.natAbs
    let mark := if power < 0 then "e-" else "e+"
    let padded := if size.length < 2 then '0' :: size else size
    let tail := if digits.length = 1 then [] else '.' :: digits.drop 1
    String.ofList (digits.take 1 ++ tail) ++ mark ++ String.ofList padded
  else if place ≤ 0 then
    "0." ++ String.ofList (List.replicate (-place).toNat '0' ++ digits)
  else
    let count := place.toNat
    if digits.length ≤ count then
      String.ofList (digits ++ List.replicate (count - digits.length) '0') ++ ".0"
    else
      String.ofList (digits.take count ++ '.' :: digits.drop count)

def toText : Binary64 → String
  | .nan => "nan"
  | .infinite negative => if negative then "-inf" else "inf"
  | .finite negative mantissa exponent =>
    let size := if mantissa == 0 then "0.0" else (shortest mantissa exponent).toText
    if negative then "-" ++ size else size

end DocGuard.Binary64

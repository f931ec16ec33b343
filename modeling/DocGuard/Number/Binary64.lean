import DocGuard.Number.Numeral

set_option autoImplicit false

namespace DocGuard

inductive Binary64
  | nan
  | infinite (negative : Bool)
  | finite (negative : Bool) (mantissa : Nat) (exponent : Int)
  deriving Repr, DecidableEq

namespace Binary64

def minExponent : Int := -1074

def maxExponent : Int := 971

def twoTo (n : Nat) : Nat := Nat.pow 2 n

def tenTo (n : Nat) : Nat := Nat.pow 10 n

def zero (negative : Bool) : Binary64 := .finite negative 0 minExponent

-- Every operation is exact arithmetic followed by this one rounding: to the nearest, ties to even.
def roundQuotient (num den : Nat) : Nat :=
  let low := num / den
  let twice := 2 * (num % den)
  if twice < den then low
  else if den < twice then low + 1
  else if low % 2 == 0 then low else low + 1

def scaled (num den : Nat) (exponent : Int) : Nat × Nat :=
  if 0 ≤ exponent then (num, den * twoTo exponent.toNat)
  else (num * twoTo (-exponent).toNat, den)

def floorLog2 (num den : Nat) : Int :=
  let guess : Int := (num.log2 : Int) - (den.log2 : Int)
  let (n, d) := scaled num den guess
  if d ≤ n then guess else guess - 1

def ofFraction (negative : Bool) (num den : Nat) : Binary64 :=
  if num == 0 then zero negative
  else
    let exponent := max minExponent (floorLog2 num den - 52)
    let (n, d) := scaled num den exponent
    let mantissa := roundQuotient n d
    let (mantissa, exponent) :=
      if mantissa == twoTo 53 then (twoTo 52, exponent + 1) else (mantissa, exponent)
    if maxExponent < exponent then .infinite negative else .finite negative mantissa exponent

-- Far outside the range of finite numbers the power is not formed.
def ofDecimal (negative : Bool) (digits : Nat) (exponent : Int) : Binary64 :=
  let places : Int := (Nat.toDigits 10 digits).length + exponent
  if digits == 0 || places < -330 then zero negative
  else if 310 < places then .infinite negative
  else if 0 ≤ exponent then ofFraction negative (digits * tenTo exponent.toNat) 1
  else ofFraction negative digits (tenTo (-exponent).toNat)

def ofNat (n : Nat) : Binary64 := ofFraction false n 1

def negate : Binary64 → Binary64
  | .nan => .nan
  | .infinite negative => .infinite !negative
  | .finite negative mantissa exponent => .finite (!negative) mantissa exponent

def numerator (negative : Bool) (mantissa : Nat) (exponent : Int) : Int :=
  let size := mantissa * twoTo (exponent - minExponent).toNat
  if negative then -(size : Int) else size

def add : Binary64 → Binary64 → Binary64
  | .nan, _ | _, .nan => .nan
  | .infinite a, .infinite b => if a == b then .infinite a else .nan
  | .infinite a, .finite .. | .finite .., .infinite a => .infinite a
  | .finite a m e, .finite b n f =>
    let sum := numerator a m e + numerator b n f
    if sum == 0 then zero (a && b) else ofFraction (sum < 0) sum.natAbs (twoTo 1074)

def mul : Binary64 → Binary64 → Binary64
  | .nan, _ | _, .nan => .nan
  | .infinite a, .infinite b => .infinite (a != b)
  | .infinite a, .finite b n _ | .finite a n _, .infinite b =>
    if n == 0 then .nan else .infinite (a != b)
  | .finite a m e, .finite b n f =>
    let (num, den) := scaled 1 1 (-(e + f))
    ofFraction (a != b) (m * n * num) den

-- Zeros of both signs are equal, and not-a-number is equal to nothing.
def same : Binary64 → Binary64 → Bool
  | .infinite a, .infinite b => a == b
  | .finite a m e, .finite b n f => numerator a m e == numerator b n f
  | _, _ => false

def truncate? : Binary64 → Option Int
  | .finite negative mantissa exponent =>
    let size := if 0 ≤ exponent then mantissa * twoTo exponent.toNat
      else mantissa / twoTo (-exponent).toNat
    some (if negative then -(size : Int) else size)
  | _ => none

def isInteger (x : Binary64) (n : Int) : Bool :=
  match x with
  | .finite negative mantissa exponent => numerator negative mantissa exponent == n * twoTo 1074
  | _ => false

def isZero : Binary64 → Bool
  | .finite _ mantissa _ => mantissa == 0
  | _ => false

def fraction? (text : List Char) : Option (List Char × Nat) :=
  let isDigit := Numeral.isDigitOf 10
  let whole := text.takeWhile isDigit
  match text.dropWhile isDigit with
  | [] => if whole.isEmpty then none else some (whole, 0)
  | '.' :: rest =>
    if rest.all isDigit && !(whole.isEmpty && rest.isEmpty) then some (whole ++ rest, rest.length)
    else none
  | _ => none

def exponent? (text : List Char) : Option Int :=
  let (negative, digits) := Numeral.splitSign text
  if digits.isEmpty || !digits.all (Numeral.isDigitOf 10) then none
  else
    let size : Int := Numeral.ofDigits 10 digits
    some (if negative then -size else size)

def ofUnsigned? (negative : Bool) (text : List Char) : Option Binary64 :=
  let word := text.map Char.toLower
  if word == "inf".toList || word == "infinity".toList then some (.infinite negative)
  else if word == "nan".toList then some .nan
  else
    let body := text.takeWhile fun c => c != 'e' && c != 'E'
    let mark := text.drop body.length
    let exponent := if mark.isEmpty then some 0 else exponent? mark.tail
    match fraction? body, exponent with
    | some (digits, places), some power =>
      some (ofDecimal negative (Numeral.ofDigits 10 digits) (power - places))
    | _, _ => none

def ofText? (text : List Char) : Option Binary64 :=
  match Numeral.dropSeparators? (Numeral.isDigitOf 10) ' ' (Numeral.plain text) with
  | none => none
  | some body =>
    let (negative, unsigned) := Numeral.splitSign body
    ofUnsigned? negative unsigned

end Binary64

end DocGuard

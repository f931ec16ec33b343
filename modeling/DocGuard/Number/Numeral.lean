import DocGuard.Text.Blank
import DocGuard.Text.Digit

set_option autoImplicit false

namespace DocGuard.Numeral

-- Digits of any script become ASCII digits and blanks become spaces; a character that belongs to no
-- number becomes a question mark.
def plainChar (c : Char) : Char :=
  if c.toNat < 127 then c
  else if Text.isBlank c then ' '
  else match Text.decimalDigit? c with
    | some d => Nat.digitChar d
    | none => '?'

def isPadding (c : Char) : Bool :=
  c == ' ' || (0x09 ≤ c.toNat && c.toNat ≤ 0x0d)

def plain (text : List Char) : List Char :=
  Text.trim isPadding (text.map plainChar)

def splitSign : List Char → Bool × List Char
  | '-' :: rest => (true, rest)
  | '+' :: rest => (false, rest)
  | text => (false, text)

-- Each underscore must stand between two digits; `previous` is the character before the text.
def dropSeparators? (isDigit : Char → Bool) (previous : Char) : List Char → Option (List Char)
  | [] => if previous == '_' then none else some []
  | c :: rest =>
    if c == '_' then
      if isDigit previous then dropSeparators? isDigit c rest else none
    else if previous == '_' && !isDigit c then none
    else (dropSeparators? isDigit c rest).map (c :: ·)

def digitValue? (c : Char) : Option Nat :=
  if '0' ≤ c ∧ c ≤ '9' then some (c.toNat - '0'.toNat)
  else if 'a' ≤ c ∧ c ≤ 'f' then some (c.toNat - 'a'.toNat + 10)
  else if 'A' ≤ c ∧ c ≤ 'F' then some (c.toNat - 'A'.toNat + 10)
  else none

def isDigitOf (base : Nat) (c : Char) : Bool :=
  match digitValue? c with
  | some d => d < base
  | none => false

def ofDigits (base : Nat) (digits : List Char) : Nat :=
  digits.foldl (fun n c => n * base + (digitValue? c).getD 0) 0

end DocGuard.Numeral

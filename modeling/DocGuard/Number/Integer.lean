import DocGuard.Number.Numeral
import DocGuard.Text.Quoted

set_option autoImplicit false

namespace DocGuard.Integer

inductive Fault
  | malformed (base : Nat) (text : String)
  | tooLong (digits : Nat)
  deriving Repr, DecidableEq

-- How much of a text a message shows, with its quotes and escapes.
def shownWidth : Nat := 200

def Fault.message : Fault → String
  | .malformed base text =>
    s!"invalid literal for int() with base {base}: " ++
      String.ofList ((Text.quoted text).toList.take shownWidth)
  | .tooLong digits =>
    s!"Exceeds the limit (4300 digits) for integer string conversion: value has {digits} digits; " ++
      "use sys.set_int_max_str_digits() to increase the limit"

def maxDigits : Nat := 4300

def dropBaseMark (base : Nat) : List Char → List Char
  | '0' :: mark :: rest =>
    let marked := (base == 2 && (mark == 'b' || mark == 'B')) ||
      (base == 8 && (mark == 'o' || mark == 'O')) || (base == 16 && (mark == 'x' || mark == 'X'))
    if marked then
      match rest with
      | '_' :: digits => digits
      | digits => digits
    else '0' :: mark :: rest
  | text => text

-- The length is checked before what follows the digits.
def read (base : Nat) (text : String) : Except Fault Int :=
  let start := (text.toList.map Numeral.plainChar).dropWhile Numeral.isPadding
  let (negative, body) := Numeral.splitSign start
  let (written, rest) := (dropBaseMark base body).span fun c => Numeral.isDigitOf base c || c == '_'
  match Numeral.dropSeparators? (Numeral.isDigitOf base) ' ' written with
  | none => .error (.malformed base text)
  | some digits =>
    if base == 10 && maxDigits < digits.length then .error (.tooLong digits.length)
    else if digits.isEmpty || !rest.all Numeral.isPadding then .error (.malformed base text)
    else
      let size : Int := Numeral.ofDigits base digits
      .ok (if negative then -size else size)

def isWritable (n : Int) : Bool := decide (n.natAbs < Nat.pow 10 maxDigits)

inductive WriteFault
  | tooLong
  deriving DecidableEq, Repr

def WriteFault.message : WriteFault → String
  | .tooLong =>
    "Exceeds the limit (4300 digits) for integer string conversion; " ++
      "use sys.set_int_max_str_digits() to increase the limit"

def write (n : Int) : Except WriteFault String :=
  if isWritable n then .ok (toString n) else .error .tooLong

end DocGuard.Integer

import DocGuard.Calendar
import DocGuard.Number.Integer

set_option autoImplicit false

namespace DocGuard.Yaml

inductive Fault
  | encoding
  | malformed
  | integer (fault : Integer.Fault)
  | fraction (text : String)
  | fractionWidth
  | truth (text : String)
  | noDigits
  | notDate
  | notText
  | yearRange (year : Nat)
  | monthRange
  | dayRange
  | hourRange
  | minuteRange
  | secondRange
  | offsetRange (minutes : Int)
  | characterRange
  | characterWidth
  deriving Repr, DecidableEq

def Fault.message : Fault → String
  | .encoding | .malformed => "<parse error>"
  | .integer fault => fault.message
  | .fraction text => "could not convert string to float: " ++ Text.quoted text
  | .fractionWidth => "int too large to convert to float"
  | .truth text => Text.quoted text
  | .noDigits => "string index out of range"
  | .notDate => "'NoneType' object has no attribute 'groupdict'"
  | .notText => "expected string or bytes-like object, got 'list'"
  | .yearRange year => s!"year {year} is out of range"
  | .monthRange => "month must be in 1..12"
  | .dayRange => "day is out of range for month"
  | .hourRange => "hour must be in 0..23"
  | .minuteRange => "minute must be in 0..59"
  | .secondRange => "second must be in 0..59"
  | .offsetRange minutes =>
    "offset must be a timedelta strictly between -timedelta(hours=24) and timedelta(hours=24), " ++
      "not " ++ Moment.spanText minutes ++ "."
  | .characterRange => "chr() arg not in range(0x110000)"
  | .characterWidth => "Python int too large to convert to C int"

def Fault.isUnreadable (fault : Fault) : Bool := fault == .encoding || fault == .malformed

end DocGuard.Yaml

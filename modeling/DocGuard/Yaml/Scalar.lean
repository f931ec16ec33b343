import DocGuard.Text.Base64
import DocGuard.Text.LowerCase
import DocGuard.Value
import DocGuard.Yaml.Tag

set_option autoImplicit false

namespace DocGuard.Yaml.Scalar

def withoutUnderscores (text : String) : List Char := text.toList.filter (· != '_')

def truthValue (text : String) : Except Fault Value :=
  let word := String.ofList (Text.lower text.toList)
  if ["yes", "true", "on"].contains word then .ok (.bool true)
  else if ["no", "false", "off"].contains word then .ok (.bool false)
  else .error (.truth word)

def readInteger (base : Nat) (digits : List Char) : Except Fault Int :=
  (Integer.read base (String.ofList digits)).mapError .integer

def readSixtieths (parts : List String) : Except Fault Int :=
  parts.foldlM (fun n part => do return n * 60 + (← readInteger 10 part.toList)) 0

def unsignedInteger : List Char → Except Fault Int
  | [] => .error .noDigits
  | ['0'] => .ok 0
  | '0' :: 'b' :: digits => readInteger 2 digits
  | '0' :: 'x' :: digits => readInteger 16 digits
  | '0' :: digits => readInteger 8 ('0' :: digits)
  | digits =>
    if digits.contains ':' then readSixtieths ((String.ofList digits).splitOn ":")
    else readInteger 10 digits

def integerValue (text : String) : Except Fault Value :=
  let (negative, digits) := Numeral.splitSign (withoutUnderscores text)
  (unsignedInteger digits).map fun n => .int (if negative then -n else n)

def readFraction (text : List Char) : Except Fault Binary64 :=
  match Binary64.ofText? text with
  | some x => .ok x
  | none => .error (.fraction (String.ofList text))

-- The weight of the first part is then still within the range of fractions.
def maxSixtieths : Nat := 174

def fractionSixtieths (parts : List String) : Except Fault Binary64 := do
  let digits ← parts.mapM fun part => readFraction part.toList
  if maxSixtieths < parts.length then throw .fractionWidth
  let weighted := digits.reverse.zipIdx.map fun (x, place) => x.mul (Binary64.ofNat (Nat.pow 60 place))
  return weighted.foldl Binary64.add (Binary64.zero false)

def fractionParts (text : String) : Bool × List Char :=
  Numeral.splitSign (Text.lower (withoutUnderscores text))

def unsignedFraction (text : List Char) : Except Fault Binary64 :=
  if text == ".inf".toList then .ok (.infinite false)
  else if text == ".nan".toList then .ok .nan
  else if text.contains ':' then fractionSixtieths ((String.ofList text).splitOn ":")
  else readFraction text

def fractionValue (text : String) : Except Fault Value :=
  if (withoutUnderscores text).isEmpty then .error .noDigits
  else
    let (negative, unsigned) := fractionParts text
    (unsignedFraction unsigned).map fun x => .float (if negative then x.negate else x)

-- All scalars that name not-a-number have one value; any other that comes to it has its own.
def namesNotANumber (text : String) : Bool := (fractionParts text).2 == ".nan".toList

def timestampValue (text : String) : Except Fault Value :=
  match Timestamp.ofText? (Tag.withoutLineEnd text.toList) with
  | some stamp => stamp.value
  | none => .error .notDate

def bytesValue (text : String) : Except Fault Value :=
  match text.toList.all (·.toNat < 128), Text.Base64.decode? text.toList with
  | true, some bytes => .ok (.bytes bytes)
  | _, _ => .error .malformed

def value (tag : Tag) (text : String) : Except Fault Value :=
  match tag with
  | .null => .ok .null
  | .truth => truthValue text
  | .integer => integerValue text
  | .fraction => fractionValue text
  | .timestamp => timestampValue text
  | .text => .ok (.text text)
  | .bytes => bytesValue text
  | .sequence | .mapping | .set | .pairs | .merge | .default | .other => .error .malformed

end DocGuard.Yaml.Scalar

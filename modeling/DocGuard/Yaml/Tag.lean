import DocGuard.Yaml.Timestamp

set_option autoImplicit false

namespace DocGuard.Yaml

inductive Tag
  | null | truth | integer | fraction | timestamp | text | bytes
  | sequence | mapping | set | pairs
  | merge | default | other
  deriving DecidableEq, Repr

namespace Tag

def ofUri (uri : String) : Tag :=
  let named := [("null", null), ("bool", truth), ("int", integer), ("float", fraction),
    ("timestamp", timestamp), ("str", text), ("binary", bytes), ("seq", sequence), ("map", mapping),
    ("set", set), ("omap", pairs), ("pairs", pairs), ("merge", merge), ("value", default)]
  match named.find? fun (name, _) => uri == "tag:yaml.org,2002:" ++ name with
  | some (_, tag) => tag
  | none => other

def isCollection : Tag → Bool
  | sequence | mapping | set | pairs => true
  | _ => false

def truthWords : List String :=
  ["yes", "Yes", "YES", "no", "No", "NO", "true", "True", "TRUE", "false", "False", "FALSE",
    "on", "On", "ON", "off", "Off", "OFF"]

def nullWords : List String := ["", "~", "null", "Null", "NULL"]

def dropSign : List Char → List Char
  | '-' :: rest => rest
  | '+' :: rest => rest
  | unsigned => unsigned

def isDigitOrUnderscore (c : Char) : Bool := isDecimal c || c == '_'

def dropDigits? : List Char → Option (List Char)
  | c :: rest => if isDecimal c then some (rest.dropWhile isDigitOrUnderscore) else none
  | [] => none

def isExponent : List Char → Bool
  | [] => true
  | mark :: sign :: digits =>
    (mark == 'e' || mark == 'E') && (sign == '-' || sign == '+') && !digits.isEmpty &&
      digits.all isDecimal
  | [_] => false

def dropSixtieths : Nat → List Char → List Char
  | 0, rest => rest
  | bound + 1, ':' :: tens :: ones :: rest =>
    if '0' ≤ tens && tens ≤ '5' && isDecimal ones then dropSixtieths bound rest
    else if isDecimal tens then dropSixtieths bound (ones :: rest)
    else ':' :: tens :: ones :: rest
  | _, [':', ones] => if isDecimal ones then [] else [':', ones]
  | _, rest => rest

def sixtieths? (text : List Char) : Option (List Char) :=
  let rest := dropSixtieths text.length text
  if rest.length < text.length then some rest else none

def isPointed (text : List Char) : Bool :=
  match dropDigits? (dropSign text) with
  | some ('.' :: rest) => isExponent (rest.dropWhile isDigitOrUnderscore)
  | some rest =>
    match sixtieths? rest with
    | some ('.' :: places) => places.all isDigitOrUnderscore
    | _ => false
  | none => false

def isBareFraction : List Char → Bool
  | '.' :: rest => (dropDigits? rest).any isExponent
  | _ => false

def isInfinity (text : List Char) : Bool :=
  [".inf", ".Inf", ".INF"].contains (String.ofList (dropSign text))

def isNotANumber (text : List Char) : Bool := [".nan", ".NaN", ".NAN"].contains (String.ofList text)

def isFraction (text : List Char) : Bool :=
  isPointed text || isBareFraction text || isInfinity text || isNotANumber text

def isBaseDigit (digits : String) (c : Char) : Bool := digits.toList.contains c || c == '_'

def isMarkedInteger : List Char → Bool
  | '0' :: 'b' :: digits => !digits.isEmpty && digits.all (isBaseDigit "01")
  | '0' :: 'x' :: digits => !digits.isEmpty && digits.all (isBaseDigit "0123456789abcdefABCDEF")
  | '0' :: digits => digits.all (isBaseDigit "01234567")
  | _ => false

def isCountingNumber : List Char → Bool
  | c :: rest =>
    if '1' ≤ c && c ≤ '9' then
      let tail := rest.dropWhile isDigitOrUnderscore
      tail.isEmpty || sixtieths? tail == some []
    else false
  | [] => false

def isInteger (text : List Char) : Bool :=
  isMarkedInteger (dropSign text) || isCountingNumber (dropSign text)

def withoutLineEnd (text : List Char) : List Char :=
  if text.getLast? == some '\n' && 1 < text.length then text.dropLast else text

-- A line end after the text does not count.
def ofPlain (plain : String) : Tag :=
  let chars := withoutLineEnd plain.toList
  let word := String.ofList chars
  if truthWords.contains word then truth
  else if isFraction chars then fraction
  else if isInteger chars then integer
  else if word == "<<" then merge
  else if nullWords.contains word then null
  else if Timestamp.isPlain chars then timestamp
  else if word == "=" then default
  else if ["!", "&", "*"].contains word then other
  else text

end Tag

end DocGuard.Yaml

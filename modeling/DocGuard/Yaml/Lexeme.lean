import DocGuard.Number.Numeral
import DocGuard.Yaml.Cursor

set_option autoImplicit false

namespace DocGuard.Yaml

inductive Directive
  | version (major : Nat)
  | handle (name : String) (meaning : String)
  | unknown

inductive Lexeme
  | directive (d : Directive)
  | documentStart
  | documentEnd
  | blockSequenceStart
  | blockMappingStart
  | blockEnd
  | flowSequenceStart
  | flowSequenceEnd
  | flowMappingStart
  | flowMappingEnd
  | blockEntry
  | flowEntry
  | key
  | value
  | alias (name : String)
  | anchor (name : String)
  | tag (handle : Option String) (suffix : String)
  | scalar (text : String) (plain : Bool)

namespace Lexeme

def endsAnchor (next : Option Char) : Bool :=
  endsPlain next || next.any fun c => "?:,]\x7d%@`".toList.contains c

def anchorName (c : Cursor) : Except Fault (String × Cursor) :=
  let (name, stop) := c.next.span isNameChar
  if !name.isEmpty && endsAnchor stop.peek then .ok (String.ofList name, stop)
  else .error .malformed

def isUriChar (c : Char) : Bool :=
  isNameChar c || ";/?:@&=+$,.!~*\x27()[]".toList.contains c

def percentBytes : Nat → Cursor → Except Fault (List UInt8 × Cursor)
  | 0, c => .ok ([], c)
  | bound + 1, c =>
    if c.peek == some '%' then
      let digits := c.next.rest.take 2
      if digits.length == 2 && digits.all (Numeral.isDigitOf 16) then
        (percentBytes bound (c.skip 3)).map fun (bytes, stop) =>
          (UInt8.ofNat (Numeral.ofDigits 16 digits) :: bytes, stop)
      else .error .malformed
    else .ok ([], c)

def uriParts : Nat → Cursor → Except Fault (List Char × Cursor)
  | 0, c => .ok ([], c)
  | bound + 1, c =>
    let (run, afterRun) := c.span isUriChar
    if afterRun.peek == some '%' then do
      let (bytes, afterBytes) ← percentBytes afterRun.bound afterRun
      match String.fromUTF8? ⟨bytes.toArray⟩ with
      | some decoded =>
        let (more, stop) ← uriParts bound afterBytes
        return (run ++ decoded.toList ++ more, stop)
      | none => throw .malformed
    else .ok (run, afterRun)

def uri (c : Cursor) : Except Fault (String × Cursor) := do
  let (text, stop) ← uriParts c.bound c
  if stop.index == c.index then throw .malformed
  return (String.ofList text, stop)

def tagHandle (c : Cursor) : Except Fault (String × Cursor) :=
  if c.peek != some '!' then .error .malformed
  else if c.peekAt 1 == some ' ' then .ok ("!", c.next)
  else
    let (name, stop) := c.next.span isNameChar
    if stop.peek == some '!' then .ok (String.ofList ('!' :: name ++ ['!']), stop.next)
    else .error .malformed

def tagParts (c : Cursor) : Except Fault (Option String × String × Cursor) :=
  if c.peekAt 1 == some '<' then do
    let (suffix, stop) ← uri (c.skip 2)
    if stop.peek != some '>' then throw .malformed
    return (none, suffix, stop.next)
  else if endsPlain (c.peekAt 1) then .ok (none, "!", c.next)
  else
    let named := (c.next.rest.takeWhile fun ch => !endsWord (some ch)).contains '!'
    do
      let (handle, afterHandle) ← if named then tagHandle c else .ok ("!", c.next)
      let (suffix, stop) ← uri afterHandle
      return (some handle, suffix, stop)

def ofTag (c : Cursor) : Except Fault (Lexeme × Cursor) := do
  let (handle, suffix, stop) ← tagParts c
  if endsWord stop.peek then return (.tag handle suffix, stop) else throw .malformed

def decimalNumber (c : Cursor) : Except Fault (Nat × Cursor) :=
  let (digits, stop) := c.span isDecimal
  if digits.isEmpty then .error .malformed
  else if Integer.maxDigits < digits.length then .error (.integer (.tooLong digits.length))
  else .ok (Numeral.ofDigits 10 digits, stop)

def versionDirective (c : Cursor) : Except Fault (Directive × Cursor) := do
  let (major, afterMajor) ← decimalNumber (c.skipWhile (· == ' '))
  if afterMajor.peek != some '.' then throw .malformed
  let (_, stop) ← decimalNumber afterMajor.next
  if endsWord stop.peek then return (.version major, stop) else throw .malformed

def handleDirective (c : Cursor) : Except Fault (Directive × Cursor) := do
  let (name, afterName) ← tagHandle (c.skipWhile (· == ' '))
  if afterName.peek != some ' ' then throw .malformed
  let (meaning, stop) ← uri (afterName.skipWhile (· == ' '))
  if endsWord stop.peek then return (.handle name meaning, stop) else throw .malformed

def ofDirective (c : Cursor) : Except Fault (Lexeme × Cursor) := do
  let (name, afterName) := c.next.span isNameChar
  if name.isEmpty || !endsWord afterName.peek then throw .malformed
  let (meaning, stop) ←
    if name == "YAML".toList then versionDirective afterName
    else if name == "TAG".toList then handleDirective afterName
    else pure (Directive.unknown, afterName.skipWhile fun ch => !isBreak ch)
  return (.directive meaning, ← stop.restOfLine)

end Lexeme

end DocGuard.Yaml

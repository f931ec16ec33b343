import DocGuard.Number.Numeral
import DocGuard.Yaml.PlainScalar

set_option autoImplicit false

namespace DocGuard.Yaml.QuotedScalar

def letterEscape? : Char → Option Char
  | '0' => some '\x00'
  | 'a' => some '\x07'
  | 'b' => some '\x08'
  | 't' => some '\t'
  | '\t' => some '\t'
  | 'n' => some '\n'
  | 'v' => some '\x0b'
  | 'f' => some '\x0c'
  | 'r' => some '\r'
  | 'e' => some '\x1b'
  | ' ' => some ' '
  | '\x22' => some '\x22'
  | '\\' => some '\\'
  | '/' => some '/'
  | 'N' => some '\u0085'
  | '_' => some '\u00a0'
  | 'L' => some '\u2028'
  | 'P' => some '\u2029'
  | _ => none

def codeWidth? : Char → Option Nat
  | 'x' => some 2
  | 'u' => some 4
  | 'U' => some 8
  | _ => none

def isHighHalf (code : Nat) : Bool := 0xd800 ≤ code && code < 0xdc00

def isLowHalf (code : Nat) : Bool := 0xdc00 ≤ code && code < 0xe000

-- Half of a surrogate pair is shown as a replacement.
def charOfCode (code : Nat) : Except Fault Char :=
  if 0x7fffffff < code then .error .characterWidth
  else if 0x10ffff < code then .error .characterRange
  else if isHighHalf code || isLowHalf code then .ok '\ufffd'
  else .ok (Char.ofNat code)

def code? (width : Nat) (c : Cursor) : Option Nat :=
  let digits := c.rest.take width
  if digits.length == width && digits.all (Numeral.isDigitOf 16) then
    some (Numeral.ofDigits 16 digits)
  else none

def lowHalf? (c : Cursor) : Option (Nat × Cursor) := do
  guard (c.peek == some '\\')
  let width ← (c.peekAt 1).bind codeWidth?
  let code ← code? width (c.skip 2)
  if isLowHalf code then some (code, c.skip (2 + width)) else none

def codeEscape (width : Nat) (c : Cursor) : Except Fault (Char × Cursor) :=
  match code? width c with
  | none => .error .malformed
  | some code =>
    let after := c.skip width
    match isHighHalf code, lowHalf? after with
    | true, some (low, afterPair) =>
      .ok (Char.ofNat (0x10000 + (code - 0xd800) * 0x400 + (low - 0xdc00)), afterPair)
    | _, _ => (charOfCode code).map fun ch => (ch, after)

def emptyLines : Nat → List Char → Cursor → Except Fault (List Char × Cursor)
  | 0, breaks, c => .ok (breaks.reverse, c)
  | bound + 1, breaks, c =>
    if c.atDocumentMark then .error .malformed
    else
      let c := c.skipWhile isSpaceOrTab
      match c.lineBreak? with
      | some (ch, after) => emptyLines bound (ch :: breaks) after
      | none => .ok (breaks.reverse, c)

def unclosed (c : Cursor) : Fault := c.fault.getD .malformed

def escape (c : Cursor) : Except Fault (List Char × Cursor) :=
  match c.peek with
  | none => .error (unclosed c)
  | some ch =>
    match letterEscape? ch, codeWidth? ch, c.lineBreak? with
    | some meant, _, _ => .ok ([meant], c.next)
    | _, some width, _ => (codeEscape width c.next).map fun (meant, after) => ([meant], after)
    | _, _, some (_, after) => emptyLines c.bound [] after
    | none, none, none => .error .malformed

def solid (double : Bool) : Nat → List Char → Cursor → Except Fault (List Char × Cursor)
  | 0, text, c => .ok (text, c)
  | bound + 1, text, c =>
    match c.peek with
    | none => .ok (text, c)
    | some ch =>
      if endsPlain (some ch) || (double && ch == '\x22') then .ok (text, c)
      else if double && ch == '\\' then
        match escape c.next with
        | .ok (meant, after) => solid double bound (meant.reverseAux text) after
        | .error fault => .error fault
      else if !double && ch == '\x27' then
        if c.peekAt 1 == some '\x27' then solid double bound ('\x27' :: text) (c.skip 2)
        else .ok (text, c)
      else solid double bound (ch :: text) c.next

def blank (c : Cursor) : Except Fault (List Char × Cursor) :=
  let (spaces, afterSpaces) := c.span isSpaceOrTab
  match afterSpaces.peek, afterSpaces.lineBreak? with
  | none, _ => .error (unclosed c)
  | some _, none => .ok (spaces, afterSpaces)
  | some _, some (first, afterBreak) =>
    (emptyLines c.bound [] afterBreak).map fun (breaks, stop) =>
      (PlainScalar.folded first breaks, stop)

def readParts (double : Bool) : Nat → List Char → Cursor → Except Fault (List Char × Cursor)
  | 0, _, c => .error (unclosed c)
  | bound + 1, text, c =>
    match solid double c.bound text c with
    | .error fault => .error fault
    | .ok (text, stop) =>
      if stop.peek == some (if double then '\x22' else '\x27') then .ok (text.reverse, stop.next)
      else
        match blank stop with
        | .error fault => .error fault
        | .ok (spaces, after) => readParts double bound (spaces.reverseAux text) after

def read (double : Bool) (c : Cursor) : Except Fault (List Char × Cursor) :=
  readParts double c.bound [] c.next

end DocGuard.Yaml.QuotedScalar

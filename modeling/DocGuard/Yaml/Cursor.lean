import DocGuard.Yaml.Fault

set_option autoImplicit false

namespace DocGuard.Yaml

def isBreak (c : Char) : Bool := c == '\n' || c == '\u0085' || c == '\u2028' || c == '\u2029'

def isSpaceOrTab (c : Char) : Bool := c == ' ' || c == '\t'

def isDecimal (c : Char) : Bool := '0' ≤ c && c ≤ '9'

def isNameChar (c : Char) : Bool :=
  isDecimal c || ('A' ≤ c && c ≤ 'Z') || ('a' ≤ c && c ≤ 'z') || c == '-' || c == '_'

def endsLine : Option Char → Bool
  | none => true
  | some c => isBreak c

def endsWord : Option Char → Bool
  | none => true
  | some c => isBreak c || c == ' '

def endsPlain : Option Char → Bool
  | none => true
  | some c => isBreak c || isSpaceOrTab c

-- `bound` is more than the characters of the whole text, and `fault` tells why a text ends too
-- early.
structure Cursor where
  rest : List Char
  bound : Nat
  fault : Option Fault := none
  index : Nat := 0
  line : Nat := 0
  column : Nat := 0

namespace Cursor

def peek (c : Cursor) : Option Char := c.rest.head?

def peekAt (c : Cursor) (n : Nat) : Option Char := c.rest[n]?

def next (c : Cursor) : Cursor :=
  match c.rest with
  | [] => c
  | ch :: rest =>
    if isBreak ch then { c with rest, index := c.index + 1, line := c.line + 1, column := 0 }
    else
      let column := if ch == '\ufeff' then c.column else c.column + 1
      { c with rest, index := c.index + 1, column }

def brokenOff? (c : Cursor) : Option Fault := if c.rest.isEmpty then c.fault else none

def skip : Nat → Cursor → Cursor
  | 0, c => c
  | n + 1, c => skip n c.next

def span (inClass : Char → Bool) (c : Cursor) : List Char × Cursor :=
  let taken := c.rest.takeWhile inClass
  (taken, c.skip taken.length)

def skipWhile (inClass : Char → Bool) (c : Cursor) : Cursor := (c.span inClass).2

def lineBreak? (c : Cursor) : Option (Char × Cursor) :=
  match c.peek with
  | some ch =>
    if isBreak ch then some (if ch == '\u0085' then '\n' else ch, c.next) else none
  | none => none

def lineBreak (c : Cursor) : List Char × Cursor :=
  match c.lineBreak? with
  | some (ch, after) => ([ch], after)
  | none => ([], c)

def atMark (mark : Char) (c : Cursor) : Bool :=
  c.rest.take 3 == [mark, mark, mark] && endsPlain (c.peekAt 3)

def atDocumentMark (c : Cursor) : Bool := c.atMark '-' || c.atMark '.'

def restOfLine (c : Cursor) : Except Fault Cursor :=
  let c := c.skipWhile (· == ' ')
  let c := if c.peek == some '#' then c.skipWhile fun ch => !isBreak ch else c
  if endsLine c.peek then .ok c.lineBreak.2 else .error .malformed

def passLines : Nat → Bool → Cursor → Bool × Cursor
  | 0, ended, c => (ended, c)
  | bound + 1, ended, c =>
    let c := c.skipWhile (· == ' ')
    let c := if c.peek == some '#' then c.skipWhile fun ch => !isBreak ch else c
    match c.lineBreak? with
    | some (_, after) => passLines bound true after
    | none => (ended, c)

def toLexeme (c : Cursor) : Bool × Cursor := passLines c.bound false c

end Cursor

end DocGuard.Yaml

import DocGuard.Yaml.Cursor

set_option autoImplicit false

namespace DocGuard.Yaml.BlockScalar

inductive Chomping
  | strip | clip | keep
  deriving DecidableEq

structure Header where
  chomping : Chomping
  increment : Option Nat

def chomping? : Option Char → Option Chomping
  | some '+' => some .keep
  | some '-' => some .strip
  | _ => none

def increment? (c : Cursor) : Except Fault (Option Nat × Cursor) :=
  match c.peek with
  | some ch =>
    if ch == '0' then .error .malformed
    else if isDecimal ch then .ok (some (ch.toNat - '0'.toNat), c.next)
    else .ok (none, c)
  | none => .ok (none, c)

def header (c : Cursor) : Except Fault (Header × Cursor) := do
  let (chosen, increment, stop) ← match chomping? c.peek with
    | some chomping => do
      let (increment, stop) ← increment? c.next
      pure (chomping, increment, stop)
    | none => do
      let (increment, after) ← increment? c
      match increment, chomping? after.peek with
      | some n, some chomping => pure (chomping, some n, after.next)
      | increment, _ => pure (Chomping.clip, increment, after)
  if endsWord stop.peek then return (⟨chosen, increment⟩, stop) else throw .malformed

def toColumn (indent : Nat) (c : Cursor) : Cursor :=
  c.skip (min (indent - c.column) (c.rest.takeWhile (· == ' ')).length)

def emptyLines (indent : Nat) : Nat → List Char → Cursor → List Char × Cursor
  | 0, breaks, c => (breaks.reverse, toColumn indent c)
  | bound + 1, breaks, c =>
    let c := toColumn indent c
    match c.lineBreak? with
    | some (ch, after) => emptyLines indent bound (ch :: breaks) after
    | none => (breaks.reverse, c)

-- The widest of the empty lines before the first full one gives the indentation.
def findIndent : Nat → List Char → Nat → Cursor → List Char × Nat × Cursor
  | 0, breaks, widest, c => (breaks.reverse, widest, c)
  | bound + 1, breaks, widest, c =>
    if c.peek == some ' ' then findIndent bound breaks (max widest c.next.column) c.next
    else
      match c.lineBreak? with
      | some (ch, after) => findIndent bound (ch :: breaks) widest after
      | none => (breaks.reverse, widest, c)

structure Reading where
  text : List Char
  lastBreak : List Char
  trailing : List Char
  after : Cursor

def atLine (indent : Nat) (c : Cursor) : Bool := c.column == indent && c.peek.isSome

def readLines (fold : Bool) (indent : Nat) : Nat → List Char → List Char → Cursor → Reading
  | 0, text, breaks, c => ⟨text.reverse, [], breaks, c⟩
  | bound + 1, text, breaks, c =>
    if atLine indent c then
      let flush := !(c.peek.any isSpaceOrTab)
      let (line, afterLine) := c.span fun ch => !isBreak ch
      let text := line.reverseAux (breaks.reverseAux text)
      let (lineEnd, afterBreak) := afterLine.lineBreak
      let (empty, start) := emptyLines indent c.bound [] afterBreak
      if atLine indent start then
        let joins := fold && lineEnd == ['\n'] && flush && !(start.peek.any isSpaceOrTab)
        let glue := if joins then (if empty.isEmpty then [' '] else []) else lineEnd
        readLines fold indent bound (glue.reverseAux text) empty start
      else ⟨text.reverse, lineEnd, empty, start⟩
    else ⟨text.reverse, [], breaks, c⟩

def read (fold : Bool) (parent : Int) (c : Cursor) : Except Fault (List Char × Cursor) := do
  let (marks, afterMarks) ← header c.next
  let body ← afterMarks.restOfLine
  let least := max 1 (parent + 1).toNat
  let (breaks, indent, start) := match marks.increment with
    | some n =>
      let indent := least + n - 1
      let (breaks, start) := emptyLines indent c.bound [] body
      (breaks, indent, start)
    | none =>
      let (breaks, widest, start) := findIndent c.bound [] 0 body
      (breaks, max least widest, start)
  let block := readLines fold indent c.bound [] breaks start
  let ending := match marks.chomping with
    | .strip => []
    | .clip => block.lastBreak
    | .keep => block.lastBreak ++ block.trailing
  return (block.text ++ ending, block.after)

end DocGuard.Yaml.BlockScalar

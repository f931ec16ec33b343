import DocGuard.Yaml.Cursor

set_option autoImplicit false

namespace DocGuard.Yaml.PlainScalar

def isFlowMark (c : Char) : Bool :=
  c == ',' || c == '[' || c == ']' || c == '\x7b' || c == '\x7d'

def endsKey (inFlow : Bool) (next : Option Char) : Bool :=
  endsPlain next || (inFlow && next.any isFlowMark)

def endsWordAt (inFlow : Bool) (c : Char) (next : Option Char) : Bool :=
  endsPlain (some c) || (c == ':' && endsKey inFlow next) || (inFlow && (isFlowMark c || c == '?'))

def wordFrom (inFlow : Bool) (taken : List Char) : List Char → List Char
  | [] => taken.reverse
  | c :: rest =>
    if endsWordAt inFlow c rest.head? then taken.reverse else wordFrom inFlow (c :: taken) rest

def word (inFlow : Bool) (text : List Char) : List Char := wordFrom inFlow [] text

def emptyLines : Nat → List Char → Cursor → Option (List Char) × Cursor
  | 0, breaks, c => (some breaks.reverse, c)
  | bound + 1, breaks, c =>
    if c.atDocumentMark then (none, c)
    else
      let c := c.skipWhile (· == ' ')
      match c.lineBreak? with
      | some (ch, after) => emptyLines bound (ch :: breaks) after
      | none => (some breaks.reverse, c)

structure Gap where
  text : List Char
  lineEnded : Bool
  after : Cursor

-- The first line end is a space unless more follow.
def folded (first : Char) (breaks : List Char) : List Char :=
  if first != '\n' then first :: breaks
  else if breaks.isEmpty then [' '] else breaks

def gap (c : Cursor) : Gap :=
  let (spaces, afterSpaces) := c.span (· == ' ')
  match afterSpaces.lineBreak? with
  | none => ⟨spaces, false, afterSpaces⟩
  | some (first, afterBreak) =>
    match emptyLines c.bound [] afterBreak with
    | (none, stop) => ⟨[], true, stop⟩
    | (some breaks, stop) => ⟨folded first breaks, true, stop⟩

structure Reading where
  text : List Char
  lineEnded : Bool
  after : Cursor

def readWords (inFlow : Bool) (indent : Int) : Nat → List Char → List Char → Bool → Cursor → Reading
  | 0, text, _, lineEnded, c => ⟨text.reverse, lineEnded, c⟩
  | bound + 1, text, spaces, lineEnded, c =>
    let first := if c.peek == some '#' then [] else word inFlow c.rest
    if first.isEmpty then ⟨text.reverse, lineEnded, c⟩
    else
      let text := first.reverseAux (spaces.reverseAux text)
      let g := gap (c.skip first.length)
      if g.text.isEmpty || g.after.peek == some '#' ||
          (!inFlow && decide ((g.after.column : Int) < indent))
      then ⟨text.reverse, g.lineEnded, g.after⟩
      else readWords inFlow indent bound text g.text g.lineEnded g.after

def read (inFlow : Bool) (indent : Int) (c : Cursor) : Reading :=
  readWords inFlow indent c.bound [] [] false c

end DocGuard.Yaml.PlainScalar

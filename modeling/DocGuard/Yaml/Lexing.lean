import DocGuard.Yaml.BlockScalar
import DocGuard.Yaml.Lexeme
import DocGuard.Yaml.QuotedScalar

set_option autoImplicit false

namespace DocGuard.Yaml

structure PossibleKey where
  lexemeIndex : Nat
  required : Bool
  index : Nat
  line : Nat
  column : Nat

structure Lexing where
  cursor : Cursor
  lexemes : List Lexeme := []
  count : Nat := 0
  indent : Int := -1
  outerIndents : List Int := []
  brackets : Nat := 0
  keyAllowed : Bool := true
  possibleKeys : List (Nat × PossibleKey) := []

namespace Lexing

def inFlow (s : Lexing) : Bool := s.brackets != 0

def emit (s : Lexing) (lexeme : Lexeme) : Lexing :=
  { s with lexemes := lexeme :: s.lexemes, count := s.count + 1 }

def take (s : Lexing) (lexeme : Lexeme) (width : Nat) : Lexing :=
  { s.emit lexeme with cursor := s.cursor.skip width }

def insertAt (s : Lexing) (place : Nat) (lexeme : Lexeme) : Lexing :=
  let (later, earlier) := s.lexemes.splitAt (s.count - place)
  { s with lexemes := later ++ lexeme :: earlier, count := s.count + 1 }

-- A possible key ends with its line and after 1024 characters.
def isStale (s : Lexing) (key : PossibleKey) : Bool :=
  key.line != s.cursor.line || 1024 < s.cursor.index - key.index

def dropStaleKeys (s : Lexing) : Except Fault Lexing :=
  if s.possibleKeys.any fun (_, key) => s.isStale key && key.required then .error .malformed
  else .ok { s with possibleKeys := s.possibleKeys.filter fun (_, key) => !s.isStale key }

def possibleKey? (s : Lexing) : Option PossibleKey :=
  (s.possibleKeys.find? fun (level, _) => level == s.brackets).map (·.2)

def forgetKey (s : Lexing) : Lexing :=
  { s with possibleKeys := s.possibleKeys.filter fun (level, _) => level != s.brackets }

def dropKey (s : Lexing) : Except Fault Lexing :=
  if s.possibleKey?.any (·.required) then .error .malformed else .ok s.forgetKey

def noteKey (s : Lexing) : Except Fault Lexing :=
  if s.keyAllowed then do
    let s ← s.dropKey
    let key : PossibleKey :=
      { lexemeIndex := s.count
        required := !s.inFlow && s.indent == s.cursor.column
        index := s.cursor.index
        line := s.cursor.line
        column := s.cursor.column }
    return { s with possibleKeys := (s.brackets, key) :: s.possibleKeys }
  else .ok s

def closeBlocks (column : Int) : Nat → Lexing → Lexing
  | 0, s => s
  | bound + 1, s =>
    if column < s.indent then
      match s.outerIndents with
      | [] => s
      | outer :: rest =>
        closeBlocks column bound { s.emit .blockEnd with indent := outer, outerIndents := rest }
    else s

def unwind (s : Lexing) (column : Int) : Lexing :=
  if s.inFlow then s else closeBlocks column s.outerIndents.length s

def openBlock (s : Lexing) (column : Nat) (place : Nat) (lexeme : Lexeme) : Lexing :=
  if s.indent < column then
    { s.insertAt place lexeme with indent := column, outerIndents := s.indent :: s.outerIndents }
  else s

def documentMark (s : Lexing) (lexeme : Lexeme) : Except Fault Lexing := do
  let s ← (s.unwind (-1)).dropKey
  return { s.take lexeme 3 with keyAllowed := false }

def directiveLine (s : Lexing) : Except Fault Lexing := do
  let s ← (s.unwind (-1)).dropKey
  let (lexeme, after) ← Lexeme.ofDirective s.cursor
  return { s.emit lexeme with cursor := after, keyAllowed := false }

def openBracket (s : Lexing) (lexeme : Lexeme) : Except Fault Lexing := do
  let s ← s.noteKey
  return { s.take lexeme 1 with brackets := s.brackets + 1, keyAllowed := true }

def closeBracket (s : Lexing) (lexeme : Lexeme) : Except Fault Lexing := do
  let s ← s.dropKey
  if s.inFlow then return { s.take lexeme 1 with brackets := s.brackets - 1, keyAllowed := false }
  else throw .malformed

def flowEntry (s : Lexing) : Except Fault Lexing := do
  let s ← s.dropKey
  return { s.take .flowEntry 1 with keyAllowed := true }

def blockMark (s : Lexing) (opener : Lexeme) : Except Fault Lexing :=
  if s.inFlow then .ok s
  else if s.keyAllowed then .ok (s.openBlock s.cursor.column s.count opener)
  else .error .malformed

def blockEntry (s : Lexing) : Except Fault Lexing := do
  let s ← (← s.blockMark .blockSequenceStart).dropKey
  return { s.take .blockEntry 1 with keyAllowed := true }

def explicitKey (s : Lexing) : Except Fault Lexing := do
  let s ← (← s.blockMark .blockMappingStart).dropKey
  return { s.take .key 1 with keyAllowed := !s.inFlow }

def valueMark (s : Lexing) : Except Fault Lexing :=
  match s.possibleKey? with
  | some key =>
    let s := s.forgetKey.insertAt key.lexemeIndex .key
    let s := if s.inFlow then s else s.openBlock key.column key.lexemeIndex .blockMappingStart
    .ok { s.take .value 1 with keyAllowed := false }
  | none => do
    let s ← (← s.blockMark .blockMappingStart).dropKey
    return { s.take .value 1 with keyAllowed := !s.inFlow }

def anchorOrAlias (s : Lexing) (lexeme : String → Lexeme) : Except Fault Lexing := do
  let s ← s.noteKey
  let (name, after) ← Lexeme.anchorName s.cursor
  return { s.emit (lexeme name) with cursor := after, keyAllowed := false }

def tag (s : Lexing) : Except Fault Lexing := do
  let s ← s.noteKey
  let (lexeme, after) ← Lexeme.ofTag s.cursor
  return { s.emit lexeme with cursor := after, keyAllowed := false }

def blockScalar (s : Lexing) (fold : Bool) : Except Fault Lexing := do
  let s ← s.dropKey
  let (text, after) ← BlockScalar.read fold s.indent s.cursor
  return { s.emit (.scalar (String.ofList text) false) with cursor := after, keyAllowed := true }

def quotedScalar (s : Lexing) (double : Bool) : Except Fault Lexing := do
  let s ← s.noteKey
  let (text, after) ← QuotedScalar.read double s.cursor
  return { s.emit (.scalar (String.ofList text) false) with cursor := after, keyAllowed := false }

def plainScalar (s : Lexing) : Except Fault Lexing := do
  let s ← s.noteKey
  let reading := PlainScalar.read s.inFlow (s.indent + 1) s.cursor
  return { s.emit (.scalar (String.ofList reading.text) true) with
    cursor := reading.after, keyAllowed := reading.lineEnded }

def isIndicator (c : Char) : Bool := "-?:,[]\x7b\x7d#&*!|>\x27\x22%@`".toList.contains c

def startsPlain (s : Lexing) (c : Char) : Bool :=
  (!isIndicator c && !endsPlain (some c)) ||
    (!endsPlain (s.cursor.peekAt 1) && (c == '-' || (!s.inFlow && (c == '?' || c == ':'))))

def lexeme (s : Lexing) (c : Char) : Except Fault Lexing :=
  let stands := endsPlain (s.cursor.peekAt 1)
  let atStart := s.cursor.column == 0
  if c == '%' && atStart then s.directiveLine
  else if atStart && s.cursor.atMark '-' then s.documentMark .documentStart
  else if atStart && s.cursor.atMark '.' then s.documentMark .documentEnd
  else if c == '[' then s.openBracket .flowSequenceStart
  else if c == '\x7b' then s.openBracket .flowMappingStart
  else if c == ']' then s.closeBracket .flowSequenceEnd
  else if c == '\x7d' then s.closeBracket .flowMappingEnd
  else if c == ',' then s.flowEntry
  else if c == '-' && stands then s.blockEntry
  else if c == '?' && (s.inFlow || stands) then s.explicitKey
  else if c == ':' && (s.inFlow || stands) then s.valueMark
  else if c == '*' then s.anchorOrAlias .alias
  else if c == '&' then s.anchorOrAlias .anchor
  else if c == '!' then s.tag
  else if c == '|' && !s.inFlow then s.blockScalar false
  else if c == '>' && !s.inFlow then s.blockScalar true
  else if c == '\x27' then s.quotedScalar false
  else if c == '\x22' then s.quotedScalar true
  else if s.startsPlain c then s.plainScalar
  else .error .malformed

def approach (s : Lexing) : Except Fault Lexing := do
  let (ended, cursor) := s.cursor.toLexeme
  if let some fault := cursor.brokenOff? then throw fault
  let s ← { s with cursor, keyAllowed := s.keyAllowed || (ended && !s.inFlow) }.dropStaleKeys
  return s.unwind s.cursor.column

def step (s : Lexing) : Except Fault (Option Lexing) := do
  let s ← s.approach
  match s.cursor.peek with
  | none => return none
  | some c =>
    let s ← s.lexeme c
    if let some fault := s.cursor.brokenOff? then throw fault
    return some s

def finish (s : Lexing) : Except Fault Lexing := do (← s.approach).unwind (-1) |>.dropKey

-- In front of a fault only the lexemes count before which no mark can come to stand any more.
def settled (s : Lexing) : Nat :=
  s.possibleKeys.foldl (fun n (_, key) => if s.isStale key then n else min n key.lexemeIndex) s.count

end Lexing

structure Lexemes where
  ahead : List Lexeme
  fault : Option Fault := none

namespace Lexing

def firstLexemes (s : Lexing) (number : Nat) : List Lexeme :=
  (s.lexemes.drop (s.count - number)).reverse

def run : Nat → Lexing → Lexemes
  | 0, s => ⟨s.firstLexemes s.settled, some .malformed⟩
  | bound + 1, s =>
    match s.step with
    | .error fault => ⟨s.firstLexemes s.settled, some fault⟩
    | .ok (some next) => run bound next
    | .ok none =>
      match s.finish with
      | .error fault => ⟨s.firstLexemes s.settled, some fault⟩
      | .ok last => ⟨last.firstLexemes last.count, none⟩

end Lexing

def Lexemes.ofText (text : List Char) (fault : Option Fault) : Lexemes :=
  let start : Cursor := { rest := text, bound := text.length + 2, fault }
  let cursor := if start.peek == some '\ufeff' then start.next else start
  Lexing.run start.bound { cursor }

end DocGuard.Yaml

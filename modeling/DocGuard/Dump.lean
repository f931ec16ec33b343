import DocGuard.Token
import DocGuard.Value

set_option autoImplicit false

namespace DocGuard.Dump

inductive Fault
  | notList
  | noType (position : Nat)
  | wrongLine (position : Nat)
  | wrongEntry (position : Nat)
  | endlessLine
  | unwritable
  deriving Repr, DecidableEq

def Fault.message : Fault → String
  | .notList => "Token dump must be a list of tokens"
  | .noType position => s!"Token {position} has no type"
  | .wrongLine position => s!"Token {position} has a non-integer line"
  | .wrongEntry position => s!"Token {position} is not a mapping, pair or name"
  | .endlessLine => "cannot convert float infinity to integer"
  | .unwritable => Integer.WriteFault.tooLong.message

-- A number that is beyond all bounds is no fault of the dump.
def Fault.isInvalidDump : Fault → Bool
  | .endlessLine | .unwritable => false
  | _ => true

def kindKeys : List String := ["type", "kind", "code"]

def textKeys : List String := ["content", "text"]

def firstField? (entries : List (Value × Value)) (keys : List String) : Option Value :=
  keys.findSome? (Value.field? entries)

def lineNumber (position : Nat) (line : Value) : Except Fault Int :=
  match line with
  | .bool b => .ok (if b then 1 else 0)
  | .int n => .ok n
  | .float (.infinite _) => .error .endlessLine
  | .float x =>
    match x.truncate? with
    | some n => .ok n
    | none => .error (.wrongLine position)
  | .text s => numeral s
  | .bytes bs =>
    if bs.all (· < 128) then numeral (String.ofList (bs.map fun b => Char.ofNat b.toNat))
    else .error (.wrongLine position)
  | _ => .error (.wrongLine position)
where
  numeral (s : String) : Except Fault Int := (Integer.read 10 s).mapError fun _ => .wrongLine position

def line? (position : Nat) : Option Value → Except Fault (Option Int)
  | none | some .null => .ok none
  | some line => (lineNumber position line).map some

def fieldText : Option Value → Value
  | none | some .null => .text ""
  | some text => text

def kindOf (name : Value) : Kind := Kind.ofSpelling name.display

-- The values that become texts have to be writable.
def ofParts (position : Nat) (name text : Value) (line : Option Int) : Except Fault Token :=
  if name.isWritable && text.isWritable then .ok ⟨kindOf name, position, text.display, line⟩
  else .error .unwritable

def ofFields (position : Nat) (entries : List (Value × Value)) : Except Fault Token :=
  match firstField? entries kindKeys with
  | none | some .null => .error (.noType position)
  | some name =>
    match line? position (Value.field? entries "line") with
    | .error fault => .error fault
    | .ok line => ofParts position name (fieldText (firstField? entries textKeys)) line

def token (position : Nat) : Value → Except Fault Token
  | .map entries => ofFields position entries
  | .list [name] | .tuple [name] => ofParts position name (.text "") none
  | .list [name, text] | .tuple [name, text] => ofParts position name text none
  | .text name => ofParts position (.text name) (.text "") none
  | _ => .error (.wrongEntry position)

def tokensFrom (position : Nat) : List Value → Except Fault (List Token)
  | [] => .ok []
  | entry :: entries =>
    match token position entry with
    | .error fault => .error fault
    | .ok first => (tokensFrom (position + 1) entries).map (first :: ·)

def ofEntries : Value → Except Fault (List Token)
  | .null => .ok []
  | .list entries => tokensFrom 0 entries
  | _ => .error .notList

def tokens : Value → Except Fault (List Token)
  | .map fields => ofEntries ((Value.field? fields "tokens").getD .null)
  | v => ofEntries v

end DocGuard.Dump

import DocGuard.Assoc
import DocGuard.Calendar
import DocGuard.Number.Integer
import DocGuard.Number.Shortest

set_option autoImplicit false

namespace DocGuard

inductive Value
  | null
  | bool (b : Bool)
  | int (n : Int)
  | float (x : Binary64)
  | date (d : Date)
  | moment (m : Moment)
  | text (s : String)
  | bytes (bs : List UInt8)
  | list (items : List Value)
  | tuple (items : List Value)
  | set (items : List Value)
  | map (entries : List (Value × Value))
  deriving Repr, Inhabited

namespace Value

mutual

def literal : Value → String
  | .null => "None"
  | .bool b => if b then "True" else "False"
  | .int n => toString n
  | .float x => x.toText
  | .date d => s!"datetime.date({d.year}, {d.month}, {d.day})"
  | .moment m => m.literal
  | .text s => Text.quoted s
  | .bytes bs => "b" ++ Text.quotedBytes bs
  | .list items => "[" ++ ", ".intercalate (literals items) ++ "]"
  | .tuple [item] => "(" ++ literal item ++ ",)"
  | .tuple items => "(" ++ ", ".intercalate (literals items) ++ ")"
  | .set [] => "set()"
  | .set items => "\x7b" ++ ", ".intercalate (literals items) ++ "\x7d"
  | .map entries => "\x7b" ++ ", ".intercalate (entryLiterals entries) ++ "\x7d"

def literals : List Value → List String
  | [] => []
  | item :: items => literal item :: literals items

def entryLiterals : List (Value × Value) → List String
  | [] => []
  | (key, value) :: entries => (literal key ++ ": " ++ literal value) :: entryLiterals entries

end

def display : Value → String
  | .text s => s
  | .date d => d.toText
  | .moment m => m.toText " "
  | v => v.literal

@[simp]
theorem display_text (s : String) : (text s).display = s := rfl

mutual

def isWritable : Value → Bool
  | .int n => Integer.isWritable n
  | .list items | .tuple items | .set items => areWritable items
  | .map entries => entriesAreWritable entries
  | _ => true

def areWritable : List Value → Bool
  | [] => true
  | item :: items => isWritable item && areWritable items

def entriesAreWritable : List (Value × Value) → Bool
  | [] => true
  | (key, value) :: entries => isWritable key && isWritable value && entriesAreWritable entries

end

def given : Value → Bool
  | .null => false
  | .bool b => b
  | .int n => n != 0
  | .float x => !x.isZero
  | .date _ | .moment _ => true
  | .text s => !s.isEmpty
  | .bytes bs => !bs.isEmpty
  | .list items | .tuple items | .set items => !items.isEmpty
  | .map entries => !entries.isEmpty

def whole? : Value → Option Int
  | .bool b => some (if b then 1 else 0)
  | .int n => some n
  | _ => none

def sameNumber (a b : Value) : Bool :=
  match a, b with
  | .float x, .float y => x.same y
  | .float x, other | other, .float x =>
    match other.whole? with
    | some n => x.isInteger n
    | none => false
  | _, _ =>
    match a.whole?, b.whole? with
    | some m, some n => m == n
    | _, _ => false

mutual

-- Numbers are compared by size, so `1`, `1.0` and true are one key.
def sameKey : Value → Value → Bool
  | .null, .null => true
  | .date a, .date b => a == b
  | .moment a, .moment b => a.same b
  | .text a, .text b => a == b
  | .bytes a, .bytes b => a == b
  | .tuple as, .tuple bs => sameKeys as bs
  | a, b => sameNumber a b

def sameKeys : List Value → List Value → Bool
  | [], [] => true
  | a :: as, b :: bs => sameKey a b && sameKeys as bs
  | _, _ => false

end

def ofPairs (pairs : List (Value × Value)) : Value := .map (Assoc.ofPairs sameKey pairs)

def field? (entries : List (Value × Value)) (name : String) : Option Value :=
  (entries.find? fun entry => entry.1.sameKey (.text name)).map (·.2)

def texts? : List Value → Option (List String)
  | [] => some []
  | .text s :: rest => (texts? rest).map (s :: ·)
  | _ :: _ => none

end Value

end DocGuard

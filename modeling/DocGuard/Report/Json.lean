import DocGuard.Report
import DocGuard.Text.Quoted

set_option autoImplicit false

namespace DocGuard

inductive Json
  | null
  | bool (b : Bool)
  | number (n : Int)
  | text (s : String)
  | list (items : List Json)
  | object (entries : List (String × Json))

namespace Json

def unitEscape (n : Nat) : List Char := '\\' :: 'u' :: Text.hexDigits 4 n

-- A character beyond ASCII is written in UTF-16 units.
def escapedChar (c : Char) : List Char :=
  let n := c.toNat
  if c == '\x22' || c == '\\' then ['\\', c]
  else if c == '\n' then ['\\', 'n']
  else if c == '\r' then ['\\', 'r']
  else if c == '\t' then ['\\', 't']
  else if n == 0x08 then ['\\', 'b']
  else if n == 0x0c then ['\\', 'f']
  else if 0x20 ≤ n && n < 0x7f then [c]
  else if n < 0x10000 then unitEscape n
  else unitEscape (0xd800 + (n - 0x10000) / 0x400) ++ unitEscape (0xdc00 + (n - 0x10000) % 0x400)

def escaped (s : String) : String :=
  String.ofList ('\x22' :: s.toList.flatMap escapedChar ++ ['\x22'])

def newline (level : Nat) : String := "\n" ++ String.ofList (List.replicate (2 * level) ' ')

def enclose (level : Nat) (left right : String) (items : List String) : String :=
  if items.isEmpty then left ++ right
  else
    left ++ newline (level + 1) ++ ("," ++ newline (level + 1)).intercalate items ++
      newline level ++ right

mutual

def render (level : Nat) : Json → Except Integer.WriteFault String
  | .null => .ok "null"
  | .bool b => .ok (if b then "true" else "false")
  | .number n => Integer.write n
  | .text s => .ok (escaped s)
  | .list items => (renderItems (level + 1) items).map (enclose level "[" "]")
  | .object entries => (renderEntries (level + 1) entries).map (enclose level "\x7b" "\x7d")

def renderItems (level : Nat) : List Json → Except Integer.WriteFault (List String)
  | [] => .ok []
  | item :: items => do
    let text ← render level item
    let texts ← renderItems level items
    return text :: texts

def renderEntries (level : Nat) : List (String × Json) → Except Integer.WriteFault (List String)
  | [] => .ok []
  | (key, value) :: entries => do
    let text ← render level value
    let texts ← renderEntries level entries
    return (escaped key ++ ": " ++ text) :: texts

end

end Json

def Finding.toJson (f : Finding) : Json :=
  .object [
    ("path", .text f.path),
    ("position", .number f.position),
    ("line", f.line.elim .null .number),
    ("code", .text f.code),
    ("message", .text f.message),
    ("rule", .text f.rule),
    ("severity", .text f.severity.name)]

namespace Report

def toJson (r : Report) : Json :=
  .object [
    ("summary", .object [("error", .number r.tally.error), ("warning", .number r.tally.warning)]),
    ("files", .list (r.files.map .text)),
    ("findings", .list (r.findings.map Finding.toJson)),
    ("passed", .bool r.passed)]

def jsonText (r : Report) : Except Integer.WriteFault String := r.toJson.render 0

end Report

end DocGuard

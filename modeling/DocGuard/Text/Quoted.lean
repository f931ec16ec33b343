import DocGuard.Text.Printable

set_option autoImplicit false

namespace DocGuard.Text

def hexDigits (width n : Nat) : List Char :=
  (List.range width).reverse.map fun place => Nat.digitChar (n / Nat.pow 16 place % 16)

def hexEscape (c : Char) : List Char :=
  let n := c.toNat
  if n < 0x100 then '\\' :: 'x' :: hexDigits 2 n
  else if n < 0x10000 then '\\' :: 'u' :: hexDigits 4 n
  else '\\' :: 'U' :: hexDigits 8 n

def quotedChar (shown : Char → Bool) (mark c : Char) : List Char :=
  if c == mark || c == '\\' then ['\\', c]
  else if c == '\n' then ['\\', 'n']
  else if c == '\r' then ['\\', 'r']
  else if c == '\t' then ['\\', 't']
  else if shown c then [c]
  else hexEscape c

def quotationMark (text : List Char) : Char :=
  if text.contains '\x27' && !text.contains '\x22' then '\x22' else '\x27'

-- A double quote stands around a text that holds an apostrophe and no double quote.
def quotedBy (shown : Char → Bool) (text : List Char) : String :=
  let mark := quotationMark text
  String.ofList (mark :: text.flatMap (quotedChar shown mark) ++ [mark])

def quoted (text : String) : String := quotedBy isPrintable text.toList

def quotedBytes (bytes : List UInt8) : String :=
  quotedBy (fun c => 0x20 ≤ c.toNat && c.toNat < 0x7f) (bytes.map fun b => Char.ofNat b.toNat)

end DocGuard.Text

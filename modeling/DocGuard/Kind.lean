import DocGuard.Text.Blank

set_option autoImplicit false

namespace DocGuard

-- Declarations, modifiers, structure, and everything else.
inductive Kind
  | classKw | interfaceKw | traitKw | enumKw | functionKw
  | abstractKw | finalKw | readonlyKw | staticKw | publicKw | protectedKw | privateKw
  | whitespace | attrOpen | attrClose | docOpen | docText | docTag | docClose | comment
  | openTag | namespaceKw | useKw | string | quotedString | variableName | number | openParen
  | closeParen | openCurly | closeCurly | comma | semicolon | equal | returnKw | other
  deriving DecidableEq, Repr

namespace Kind

def all : List Kind := [
  .classKw, .interfaceKw, .traitKw, .enumKw, .functionKw, .abstractKw, .finalKw, .readonlyKw,
  .staticKw, .publicKw, .protectedKw, .privateKw, .whitespace, .attrOpen, .attrClose, .docOpen,
  .docText, .docTag, .docClose, .comment, .openTag, .namespaceKw, .useKw, .string,
  .quotedString, .variableName, .number, .openParen, .closeParen, .openCurly, .closeCurly,
  .comma, .semicolon, .equal, .returnKw, .other]

theorem mem_all (k : Kind) : k ∈ all := by
  cases k <;> decide

def word : Kind → String
  | .classKw => "class"
  | .interfaceKw => "interface"
  | .traitKw => "trait"
  | .enumKw => "enum"
  | .functionKw => "function"
  | .abstractKw => "abstract"
  | .finalKw => "final"
  | .readonlyKw => "readonly"
  | .staticKw => "static"
  | .publicKw => "public"
  | .protectedKw => "protected"
  | .privateKw => "private"
  | .whitespace => "whitespace"
  | .attrOpen => "attribute"
  | .attrClose => "attribute_end"
  | .docOpen => "doc_comment_open_tag"
  | .docText => "doc_comment_string"
  | .docTag => "doc_comment_tag"
  | .docClose => "doc_comment_close_tag"
  | .comment => "comment"
  | .openTag => "open_tag"
  | .namespaceKw => "namespace"
  | .useKw => "use"
  | .string => "string"
  | .quotedString => "constant_encapsed_string"
  | .variableName => "variable"
  | .number => "lnumber"
  | .openParen => "open_parenthesis"
  | .closeParen => "close_parenthesis"
  | .openCurly => "open_curly_bracket"
  | .closeCurly => "close_curly_bracket"
  | .comma => "comma"
  | .semicolon => "semicolon"
  | .equal => "equal"
  | .returnKw => "return"
  | .other => "other"

def label (k : Kind) : String := k.word.map Char.toUpper

def ofLabel? (name : String) : Option Kind := all.find? fun k => k.label == name

-- Apart from the ASCII capitals only the Kelvin sign has an ASCII small letter.
def smallLetter (c : Char) : Char := if c == '\u212a' then 'k' else c.toLower

def dropMark : List Char → List Char
  | 't' :: '_' :: rest => rest
  | name => name

def bareName (spelling : List Char) : List Char :=
  dropMark ((Text.strip spelling).map smallLetter)

-- An unknown spelling is `other`, since tokenizers know far more kinds than the rules do.
def ofSpelling (spelling : String) : Kind :=
  (all.find? fun k => k.word.toList == bareName spelling.toList).getD .other

end Kind

end DocGuard

import DocGuard.Text.Quoted

set_option autoImplicit false

namespace DocGuard

inductive Severity
  | error | warning
  deriving DecidableEq, Repr

namespace Severity

def all : List Severity := [.error, .warning]

def name : Severity → String
  | .error => "ERROR"
  | .warning => "WARNING"

def exitPriority : Severity → Nat
  | .error => 2
  | .warning => 1

def rank : Severity → Nat
  | .error => 0
  | .warning => 1

structure Unknown where
  name : String
  deriving Repr, DecidableEq

def Unknown.message (fault : Unknown) : String := Text.quoted fault.name ++ " is not a valid Severity"

def ofName (name : String) : Except Unknown Severity :=
  match all.find? fun level => level.name == name with
  | some level => .ok level
  | none => .error ⟨name⟩

-- Apart from the ASCII letters only the dotless small i has an ASCII capital that a level's name
-- contains.
def capital (c : Char) : Char := if c == '\u0131' then 'I' else c.toUpper

def ofSpelling? (spelling : String) : Option Severity :=
  (ofName (spelling.map capital)).toOption

end Severity

end DocGuard

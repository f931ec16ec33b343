import DocGuard.Dump
import DocGuard.FileTree
import DocGuard.RuleSet
import DocGuard.Yaml.Document

set_option autoImplicit false

-- How a file's content holds a document is left open: a storage says how contents are read and
-- written.

namespace DocGuard

structure Storage (A : Type) where
  read : A → Except Yaml.Fault Value
  write : String → A

namespace Storage

def utf8 : Storage ByteArray := ⟨Yaml.Document.ofBytes, String.toUTF8⟩

variable {A : Type}

inductive Fault
  | path (fault : Path.TooLong)
  | content (fault : Yaml.Fault)
  deriving Repr, DecidableEq

def Fault.message : Fault → String
  | .path fault => fault.message
  | .content fault => fault.message

def Fault.isUnreadable : Fault → Bool
  | .path _ => false
  | .content fault => fault.isUnreadable

def document (s : Storage A) (disk : Disk A) (p : Path) : Except Fault Value :=
  match disk.file? p with
  | .ok (some content) => (s.read content).mapError .content
  | .ok none => .ok .null
  | .error fault => .error (.path fault)

end Storage

namespace DumpFile

inductive Fault
  | unreadable (path : String)
  | storage (fault : Storage.Fault)
  | dump (fault : Dump.Fault)
  deriving Repr

def Fault.message : Fault → String
  | .unreadable path => s!"Failed to parse token dump {path}: " ++ Yaml.Fault.malformed.message
  | .storage fault => fault.message
  | .dump fault => fault.message

def Fault.isInvalidDump : Fault → Bool
  | .unreadable _ => true
  | .storage _ => false
  | .dump fault => fault.isInvalidDump

variable {A : Type}

def load (s : Storage A) (disk : Disk A) (p : Path) : Except Fault (List Token) :=
  match s.document disk p with
  | .ok v => (Dump.tokens v).mapError .dump
  | .error fault =>
    .error (if fault.isUnreadable then .unreadable p.toText else .storage fault)

end DumpFile

namespace RuleSetFile

inductive Fault
  | unreadable (path : String)
  | storage (fault : Storage.Fault)
  | content (fault : RuleSet.Fault)
  deriving Repr

def Fault.message : Fault → String
  | .unreadable path => s!"Failed to parse rule set {path}: " ++ Yaml.Fault.malformed.message
  | .storage fault => fault.message
  | .content fault => fault.message

variable {A : Type}

def ofDocument : Value → Except Fault RuleSet
  | .null => .ok .default
  | v => (RuleSet.ofValue v).mapError .content

def load (s : Storage A) (disk : Disk A) (p : Path) : Except Fault RuleSet :=
  match s.document disk p with
  | .ok v => ofDocument v
  | .error fault =>
    .error (if fault.isUnreadable then .unreadable p.toText else .storage fault)

def notes (s : Storage A) (disk : Disk A) (p : Path) : List String :=
  match s.document disk p with
  | .ok .null => [s!"No rule set at {p.toText}, running all rules"]
  | _ => []

end RuleSetFile

end DocGuard

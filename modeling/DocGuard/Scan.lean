import DocGuard.Discovery
import DocGuard.Dispatcher
import DocGuard.Report
import DocGuard.Storage

set_option autoImplicit false

namespace DocGuard.Scan

inductive Fault
  | rule (fault : Rule.Unknown)
  | file (fault : DumpFile.Fault)
  | path (fault : Path.TooLong)
  deriving Repr

def Fault.message : Fault → String
  | .rule fault => fault.message
  | .file fault => fault.message
  | .path fault => fault.message

def Fault.isInvalidDump : Fault → Bool
  | .file fault => fault.isInvalidDump
  | .rule _ | .path _ => false

variable {A : Type}

structure Loaded where
  path : Path
  tokens : List Token
  deriving Repr, DecidableEq

def loadAll (s : Storage A) (disk : Disk A) : List Path → Except DumpFile.Fault (List Loaded)
  | [] => .ok []
  | p :: paths =>
    match DumpFile.load s disk p with
    | .error fault => .error fault
    | .ok tokens => (loadAll s disk paths).map (⟨p, tokens⟩ :: ·)

def ruleNames (rules : List Rule) : List (String × String) :=
  Assoc.ofPairs (· == ·) (rules.map fun rule => (rule.code, rule.name))

def sink (set : RuleSet) (rules : List Rule) (dump : Loaded) : Sink where
  path := dump.path.toText
  tokens := dump.tokens
  ruleNames := ruleNames rules
  severities := set.severity
  excluded := set.exclude

def scanDump (set : RuleSet) (rules : List Rule) (r : Report) (dump : Loaded) : Report :=
  let violations := (Dispatcher.ofRules rules).run (dump.tokens.map (·.kind))
  violations.foldl
    (fun r v => r.record (sink set rules dump) v.position v.message v.code)
    (r.enter dump.path.toText)

def scanDumps (set : RuleSet) (rules : List Rule) (dumps : List Loaded) : Report :=
  dumps.foldl (scanDump set rules) {}

def run (s : Storage A) (disk : Disk A) (sources : List String) (set : RuleSet) :
    Except Fault Report :=
  match Rule.ofNames set.rules with
  | .error fault => .error (.rule fault)
  | .ok rules =>
    let found := Discovery.search disk Discovery.usualExtensions sources
    match loadAll s disk found.dumps, found.fault with
    | .error fault, _ => .error (.file fault)
    | .ok _, some fault => .error (.path fault)
    | .ok dumps, none => .ok (scanDumps set rules dumps)

def ruleNotes (set : RuleSet) : List String :=
  match Rule.ofNames set.rules with
  | .ok rules => rules.map Dispatcher.registrationNote
  | .error _ => []

def dumpNotes (s : Storage A) (disk : Disk A) : List Path → List String
  | [] => []
  | p :: paths =>
    match DumpFile.load s disk p with
    | .error _ => []
    | .ok tokens =>
      s!"Scanning {p.toText} ({tokens.length} tokens)" :: dumpNotes s disk paths

end DocGuard.Scan

import DocGuard.Assoc
import DocGuard.Number.Integer
import DocGuard.Severity
import DocGuard.Token

set_option autoImplicit false

namespace DocGuard

structure Finding where
  path : String
  position : Int
  line : Option Int
  code : String
  message : String
  rule : String
  severity : Severity
  deriving Repr, DecidableEq

namespace Finding

def location (f : Finding) : Except Integer.WriteFault String :=
  match f.line with
  | some line => (Integer.write line).map fun number => s!"{f.path}:{number}"
  | none => (Integer.write f.position).map fun number => s!"{f.path}@{number}"

def listedBefore (a b : Finding) : Bool :=
  if a.severity.rank != b.severity.rank then a.severity.rank < b.severity.rank
  else if a.path != b.path then a.path < b.path
  else a.position ≤ b.position

end Finding

structure Tally where
  error : Int := 0
  warning : Int := 0
  deriving Repr, DecidableEq

namespace Tally

def count (t : Tally) : Severity → Int
  | .error => t.error
  | .warning => t.warning

def increment (t : Tally) : Severity → Tally
  | .error => { t with error := t.error + 1 }
  | .warning => { t with warning := t.warning + 1 }

@[simp]
theorem count_increment (t : Tally) (a b : Severity) :
    (t.increment a).count b = t.count b + if a = b then 1 else 0 := by
  cases a <;> cases b <;> simp [increment, count]

def rows (t : Tally) : List (Severity × Int) := Severity.all.map fun level => (level, t.count level)

def total (t : Tally) : Int := t.error + t.warning

end Tally

structure Report where
  tally : Tally := {}
  findings : List Finding := []
  files : List String := []
  deriving Repr, DecidableEq

structure Sink where
  path : String
  tokens : List Token
  ruleNames : List (String × String)
  severities : List (String × Severity)
  excluded : List String

namespace Sink

def lineAt (s : Sink) (position : Int) : Option Int :=
  if 0 ≤ position then (s.tokens[position.toNat]?).bind (·.line) else none

def finding? (s : Sink) (position : Int) (message code : String) : Option Finding :=
  if s.excluded.contains code then none
  else some
    { path := s.path
      position := position
      line := s.lineAt position
      code := code
      message := message
      rule := (Assoc.get? s.ruleNames code).getD ""
      severity := (Assoc.get? s.severities code).getD .error }

end Sink

namespace Report

def passed (r : Report) : Bool := r.tally.error == 0

def add (r : Report) (f : Finding) : Report :=
  { r with tally := r.tally.increment f.severity, findings := r.findings ++ [f] }

def enter (r : Report) (path : String) : Report := { r with files := r.files ++ [path] }

def record (r : Report) (s : Sink) (position : Int) (message code : String) : Report :=
  match s.finding? position message code with
  | some f => r.add f
  | none => r

def exitCode (r : Report) : Nat := (r.findings.map (·.severity.exitPriority)).foldl max 0

def ordered (r : Report) : List Finding := r.findings.mergeSort Finding.listedBefore

-- A negative length drops that many from the end.
def cut {A : Type} (limit : Option Int) (items : List A) : List A :=
  match limit with
  | none => items
  | some n => if 0 ≤ n then items.take n.toNat else items.take (items.length - (-n).toNat)

def top (r : Report) (limit : Option Int) : List Finding := cut limit r.ordered

end Report

end DocGuard

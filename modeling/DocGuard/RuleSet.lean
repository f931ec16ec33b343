import DocGuard.Rule
import DocGuard.Severity
import DocGuard.Value

set_option autoImplicit false

namespace DocGuard

structure RuleSet where
  rules : List String
  severity : List (String × Severity)
  exclude : List String
  deriving Repr, DecidableEq

namespace RuleSet

def default : RuleSet := ⟨Rule.stock.map (·.name), [], []⟩

inductive Fault
  | notMapping
  | rulesShape
  | unknownRules (names : List String)
  | severityShape
  | wrongLevel (code level : Value)
  | excludeShape
  | unwritable
  deriving Repr

def Fault.message : Fault → String
  | .notMapping => "Rule set must be a mapping"
  | .rulesShape => "'rules' must be a list of rule names"
  | .unknownRules names => "Unknown rule(s): " ++ ", ".intercalate names
  | .severityShape => "'severity' must map violation codes to levels"
  | .wrongLevel code level => "Invalid severity " ++ level.literal ++ " for " ++ code.display
  | .excludeShape => "'exclude' must be a list of violation codes"
  | .unwritable => Integer.WriteFault.tooLong.message

def texts? : Value → Option (List String)
  | .text s => some [s]
  | .list items | .tuple items => Value.texts? items
  | _ => none

def ruleNames (field : Option Value) : Except Fault (List String) :=
  match field with
  | none | some .null => .ok default.rules
  | some v =>
    match texts? v with
    | none => .error .rulesShape
    | some names =>
      let unknown := names.filter fun name => (Rule.ofName? name).isNone
      if unknown.isEmpty then .ok names else .error (.unknownRules unknown)

-- Codes with one text are one code: the last level counts, in the place of the first.
def grade (graded : List (String × Severity)) :
    List (Value × Value) → Except Fault (List (String × Severity))
  | [] => .ok graded
  | (code, level) :: rest =>
    if code.isWritable && level.isWritable then
      match Severity.ofSpelling? level.display with
      | none => .error (.wrongLevel code level)
      | some severity => grade (Assoc.put (· == ·) graded code.display severity) rest
    else .error .unwritable

def levels (field : Option Value) : Except Fault (List (String × Severity)) :=
  let v := field.getD .null
  if !v.given then .ok []
  else
    match v with
    | .map entries => grade [] entries
    | _ => .error .severityShape

def excluded (field : Option Value) : Except Fault (List String) :=
  let v := field.getD .null
  if !v.given then .ok []
  else
    match texts? v with
    | some codes => .ok codes
    | none => .error .excludeShape

def ofValue : Value → Except Fault RuleSet
  | .map fields => do
    let rules ← ruleNames (Value.field? fields "rules")
    let severity ← levels (Value.field? fields "severity")
    let exclude ← excluded (Value.field? fields "exclude")
    return { rules, severity, exclude }
  | _ => .error .notMapping

end RuleSet

end DocGuard

import DocGuard.Yaml.Filling
import DocGuard.Yaml.Intake

set_option autoImplicit false

namespace DocGuard.Yaml.Document

def ofIntake (intake : Intake) : Except Fault Value := do
  (← Graph.ofLexemes (.ofText intake.text intake.fault)).value

def ofBytes (bytes : ByteArray) : Except Fault Value := ofIntake (.ofBytes bytes)

end DocGuard.Yaml.Document

import DocGuard.Lookback
import DocGuard.Text.Quoted

set_option autoImplicit false

namespace DocGuard

structure Violation where
  position : Int
  message : String
  code : String
  deriving Repr, DecidableEq

structure Rule where
  variety : String
  name : String
  targets : KindSet
  skip : SkipSet
  code : String
  message : String

namespace Rule

-- Visibility keywords do not belong before a type, so they are not skipped.
def classComment : Rule where
  variety := "ClassCommentRule"
  name := "Commenting.ClassComment"
  targets := .ofList [.classKw, .interfaceKw, .traitKw, .enumKw]
  skip := .ofList [.readonlyKw, .abstractKw, .finalKw]
  code := "MissingClassComment"
  message := "Missing class doc comment."

def functionComment : Rule where
  variety := "FunctionCommentRule"
  name := "Commenting.FunctionComment"
  targets := .ofList [.functionKw]
  skip := .ofList [.publicKw, .protectedKw, .privateKw, .staticKw, .abstractKw, .finalKw]
  code := "MissingFunctionComment"
  message := "Missing function doc comment."

def stock : List Rule := [classComment, functionComment]

def ofName? (name : String) : Option Rule := stock.find? fun rule => rule.name == name

def toText (rule : Rule) : String := rule.variety ++ "()"

def documented (rule : Rule) (kinds : List Kind) (place : Int) : Bool :=
  match Lookback.significant? kinds place rule.skip with
  | some found => kinds[found]? == some .docClose
  | none => false

def check (rule : Rule) (kinds : List Kind) (place : Int) : Option Violation :=
  if rule.documented kinds place then none else some ⟨place, rule.message, rule.code⟩

structure Unknown where
  name : String
  deriving Repr, DecidableEq

def Unknown.message (fault : Unknown) : String := Text.quoted fault.name

def ofNames : List String → Except Unknown (List Rule)
  | [] => .ok []
  | name :: names =>
    match ofName? name with
    | none => .error ⟨name⟩
    | some rule => (ofNames names).map (rule :: ·)

end Rule

end DocGuard

import DocGuard.Text.Digit
import DocGuard.Text.Quoted

set_option autoImplicit false

namespace DocGuard.CommandLine

def usualRuleset : String := ".docsniff.yaml"

inductive Flag
  | help | ruleset | source | format | out | verbose
  deriving DecidableEq, Repr

inductive Format
  | text | json
  deriving DecidableEq, Repr

-- The value `--` is no text, so that a path can be absent although its option is given.
structure Options where
  ruleset : Option String := some usualRuleset
  sources : List (Option String) := []
  format : Format := .text
  out : Option String := none
  verbose : Bool := false
  deriving DecidableEq, Repr

inductive ArgumentFault
  | ambiguous (argument : String) (candidates : List String)
  | noValue (flag : Flag)
  | notTaken (flag : Flag) (value : String)
  | wrongFormat (value : String)
  | unrecognized (arguments : List String)
  deriving DecidableEq, Repr

namespace Flag

def spellings : List (String × Flag) := [
  ("-h", .help), ("--help", .help), ("--ruleset", .ruleset), ("--source", .source),
  ("-s", .source), ("--format", .format), ("--out", .out), ("--output", .out),
  ("--verbose", .verbose), ("-v", .verbose)]

def ofSpelling? (spelling : String) : Option Flag :=
  (spellings.find? fun entry => entry.1 == spelling).map (·.2)

def takesValue : Flag → Bool
  | .help | .verbose => false
  | .ruleset | .source | .format | .out => true

def title (flag : Flag) : String :=
  "/".intercalate ((spellings.filter fun entry => entry.2 == flag).map (·.1))

end Flag

def ArgumentFault.message : ArgumentFault → String
  | .ambiguous argument candidates =>
    s!"ambiguous option: {argument} could match " ++ ", ".intercalate candidates
  | .noValue flag => s!"argument {flag.title}: expected one argument"
  | .notTaken flag value =>
    s!"argument {flag.title}: ignored explicit argument {Text.quoted value}"
  | .wrongFormat value =>
    s!"argument {Flag.format.title}: invalid choice: {Text.quoted value} " ++
      "(choose from 'text', 'json')"
  | .unrecognized arguments => "unrecognized arguments: " ++ " ".intercalate arguments

inductive Argument
  | word (text : String)
  | dashes
  | unknownOption (text : String)
  | option (flag : Flag) (short : Bool) (joined : Option String)

def isShort (spelling : String) : Bool := !spelling.startsWith "--"

-- A minus and a number make a word. One line end may follow it.
def isNegativeNumber (text : List Char) : Bool :=
  let isDigit := fun c => (Text.decimalDigit? c).isSome
  let line := if text.getLast? == some '\n' then text.dropLast else text
  match line with
  | '-' :: body =>
    match body.dropWhile isDigit with
    | [] => !body.isEmpty
    | '.' :: places => !places.isEmpty && places.all isDigit
    | _ => false
  | _ => false

def splitEquals (text : String) : String × Option String :=
  let head := text.toList.takeWhile (· != '=')
  match text.toList.drop head.length with
  | _ :: tail => (String.ofList head, some (String.ofList tail))
  | [] => (text, none)

def candidates (text : String) : List (String × Argument) :=
  if text.startsWith "--" then
    let (head, value) := splitEquals text
    (Flag.spellings.filter fun (spelling, _) => spelling.startsWith head).map
      fun (spelling, flag) =>
        (spelling, .option flag false value)
  else
    Flag.spellings.filterMap fun (spelling, flag) =>
      if spelling == String.ofList (text.toList.take 2) then
        some (spelling, .option flag true (some (String.ofList (text.toList.drop 2))))
      else if spelling.startsWith text then
        some (spelling, .option flag (isShort spelling) none)
      else none

def classify (text : String) : Except ArgumentFault Argument :=
  if !text.startsWith "-" then .ok (.word text)
  else
    match Flag.ofSpelling? text with
    | some flag => .ok (.option flag (isShort text) none)
    | none =>
      if text == "-" then .ok (.word text)
      else
        match splitEquals text with
        | (head, some value) =>
          match Flag.ofSpelling? head with
          | some flag => .ok (.option flag (isShort head) (some value))
          | none => byCandidates text
        | (_, none) => byCandidates text
where
  byCandidates (text : String) : Except ArgumentFault Argument :=
    match candidates text with
    | [(_, argument)] => .ok argument
    | [] =>
      if isNegativeNumber text.toList || text.toList.contains ' ' then .ok (.word text)
      else .ok (.unknownOption text)
    | several => .error (.ambiguous text (several.map (·.1)))

def classifyAll : List String → Except ArgumentFault (List Argument)
  | [] => .ok []
  | text :: rest =>
    if text == "--" then .ok (.dashes :: rest.map .word)
    else do
      let first ← classify text
      return first :: (← classifyAll rest)

structure Setting where
  flag : Flag
  value : Option String := none

def valueOf (text : String) : Option String := if text == "--" then none else some text

structure Unfolded where
  settings : List Setting
  waiting : Option Flag := none

def alone (flag : Flag) : Unfolded :=
  if flag.takesValue then { settings := [], waiting := some flag } else { settings := [⟨flag, none⟩] }

-- To a short option without a value the letters of more of them may be joined; the last of these
-- can take what is left as its value.
def unfold (flag : Flag) (short : Bool) (joined : List Char) : Except ArgumentFault Unfolded :=
  if flag.takesValue then .ok { settings := [⟨flag, valueOf (String.ofList joined)⟩] }
  else
    match joined with
    | [] => .error (.notTaken flag "")
    | c :: rest =>
      match short, Flag.ofSpelling? (String.ofList ['-', c]) with
      | true, some next => do
        let more ← if rest.isEmpty then .ok (alone next) else unfold next true rest
        return { more with settings := ⟨flag, none⟩ :: more.settings }
      | _, _ => .error (.notTaken flag (String.ofList joined))

inductive Request
  | help
  | options (chosen : Options) (leftover : List String)

def formatOf : Option String → Except ArgumentFault Format
  | none | some "text" => .ok .text
  | some "json" => .ok .json
  | some name => .error (.wrongFormat name)

def apply (chosen : Options) : List Setting → Except ArgumentFault (Option Options)
  | [] => .ok (some chosen)
  | ⟨flag, value⟩ :: rest =>
    match flag with
    | .help => .ok none
    | .ruleset => apply { chosen with ruleset := value } rest
    | .source => apply { chosen with sources := chosen.sources ++ [value] } rest
    | .format => do apply { chosen with format := ← formatOf value } rest
    | .out => apply { chosen with out := value } rest
    | .verbose => apply { chosen with verbose := true } rest

def gather (chosen : Options) (leftover : List String) :
    List Argument → Except ArgumentFault Request
  | [] => .ok (.options chosen leftover)
  | .word text :: rest => gather chosen (leftover ++ [text]) rest
  | .dashes :: rest => gather chosen (leftover ++ ["--"]) rest
  | .unknownOption text :: rest => gather chosen (leftover ++ [text]) rest
  | .option flag short joined :: rest => do
    let unfolded ← match joined with
      | none => .ok (alone flag)
      | some text => unfold flag short text.toList
    match unfolded.waiting, rest with
    | none, rest =>
      match ← apply chosen unfolded.settings with
      | some next => gather next leftover rest
      | none => return .help
    | some last, .word value :: rest =>
      match ← apply chosen (unfolded.settings ++ [⟨last, valueOf value⟩]) with
      | some next => gather next leftover rest
      | none => return .help
    | some last, _ => throw (.noValue last)

def Options.ofArguments (arguments : List String) : Except ArgumentFault (Option Options) := do
  match ← gather {} [] (← classifyAll arguments) with
  | .help => return none
  | .options chosen leftover =>
    if leftover.isEmpty then return some chosen else throw (.unrecognized leftover)

end DocGuard.CommandLine

import DocGuard.CommandLine.Options
import DocGuard.Report.Json
import DocGuard.Report.Table
import DocGuard.Scan

set_option autoImplicit false

namespace DocGuard.CommandLine

def version : String := "0.1.0"

def usualSources : List String := ["tokens"]

def usage : String :=
  "usage: docsniff [-h] [--ruleset RULESET] [--source SOURCE_PATHS]\n" ++
  "                [--format \x7btext,json\x7d] [--out OUTPUT_PATH] [--verbose]\n"

def help : String :=
  usage ++
  "\n" ++
  "Report declarations that lack a preceding doc comment\n" ++
  "\n" ++
  "options:\n" ++
  "  -h, --help            show this help message and exit\n" ++
  "  --ruleset RULESET     YAML rule set selecting rules, severities and excluded\n" ++
  "                        codes.\n" ++
  "  --source SOURCE_PATHS, -s SOURCE_PATHS\n" ++
  "                        Token dump file or directory of dumps to check\n" ++
  "                        (repeatable).\n" ++
  "  --format \x7btext,json\x7d  Report format for file output (defaults to text).\n" ++
  "  --out OUTPUT_PATH, --output OUTPUT_PATH\n" ++
  "                        Path to write the report (e.g.,\n" ++
  "                        artifacts/docsniff.json).\n" ++
  "  --verbose, -v         Log rule registration and every scanned file.\n"

inductive Fault
  | noPath
  | storage (fault : Storage.Fault)
  | scan (fault : Scan.Fault)
  | write (fault : FileTree.WriteFault)
  | unwritable
  deriving Repr

def Fault.message : Fault → String
  | .noPath => "expected str, bytes or os.PathLike object, not list"
  | .storage fault => fault.message
  | .scan fault => fault.message
  | .write fault => fault.message
  | .unwritable => Integer.WriteFault.tooLong.message

inductive Ending
  | exit (code : Nat)
  | message (text : String)
  | fault (fault : Fault)
  deriving Repr

structure Outcome (A : Type) where
  stdout : String := ""
  stderr : String := ""
  ending : Ending
  tree : FileTree A

variable {A : Type}

def logged (chosen : Options) (part : String) (notes : List String) : String :=
  if chosen.verbose then
    String.join (notes.map fun note => s!"DEBUG docsniff.{part}: {note}\n")
  else ""

def payload (chosen : Options) (r : Report) (table : String) : Except Integer.WriteFault String :=
  match chosen.format with
  | .text => .ok table
  | .json => r.jsonText

-- Hands a report over that is already printed as a table.
def deliver (s : Storage A) (disk : Disk A) (chosen : Options) (content : String) (code : Nat) :
    Outcome A :=
  match chosen.out.filter fun out => out != "" with
  | some out =>
    let attempt := disk.save (Path.ofText out) (s.write content)
    match attempt.fault with
    | none =>
      { stdout := s!"\nReport written to {out}\n", ending := .exit code, tree := attempt.tree }
    | some fault => { ending := .fault (.write fault), tree := attempt.tree }
  | none =>
    let printed := match chosen.format with
      | .json => "\nJSON Report\n" ++ content ++ "\n"
      | .text => ""
    { stdout := printed, ending := .exit code, tree := disk.tree }

def present (s : Storage A) (disk : Disk A) (chosen : Options) (log : String) (r : Report) :
    Outcome A :=
  match r.table Report.usualLimit with
  | .error _ => { stderr := log, ending := .fault .unwritable, tree := disk.tree }
  | .ok table =>
    match payload chosen r table with
    | .error _ =>
      { stdout := table ++ "\n", stderr := log, ending := .fault .unwritable, tree := disk.tree }
    | .ok content =>
      let delivered := deliver s disk chosen content r.exitCode
      { delivered with stdout := table ++ "\n" ++ delivered.stdout, stderr := log }

def ruleSetEnding (place : String) : RuleSetFile.Fault → Ending
  | .storage fault => .fault (.storage fault)
  | .content .unwritable => .fault .unwritable
  | fault => .message s!"Invalid rule set {place}: {fault.message}"

def scanEnding (fault : Scan.Fault) : Ending :=
  if fault.isInvalidDump then .message s!"Invalid token dump: {fault.message}"
  else .fault (.scan fault)

def chosenSources (chosen : Options) : List (Option String) :=
  if chosen.sources.isEmpty then usualSources.map some else chosen.sources

def namedSources : List (Option String) → List String
  | some source :: sources => source :: namedSources sources
  | _ => []

def scanLog (s : Storage A) (disk : Disk A) (chosen : Options) (set : RuleSet) : String :=
  let sources := namedSources (chosenSources chosen)
  let found := Discovery.search disk Discovery.usualExtensions sources
  logged chosen "dispatcher" (Scan.ruleNotes set) ++
    logged chosen "cli" (Scan.dumpNotes s disk found.dumps)

-- A source that is no path ends the scan when its turn comes.
def scanUnder (s : Storage A) (disk : Disk A) (chosen : Options) (ruleset : String) :
    Outcome A :=
  let place := Path.ofText ruleset
  match RuleSetFile.load s disk place with
  | .error fault => { ending := ruleSetEnding ruleset fault, tree := disk.tree }
  | .ok set =>
    let log := logged chosen "config" (RuleSetFile.notes s disk place) ++ scanLog s disk chosen set
    let sources := chosenSources chosen
    match Scan.run s disk (namedSources sources) set with
    | .error fault => { stderr := log, ending := scanEnding fault, tree := disk.tree }
    | .ok r =>
      if sources.all Option.isSome then present s disk chosen log r
      else { stderr := log, ending := .fault .noPath, tree := disk.tree }

def scan (s : Storage A) (disk : Disk A) (chosen : Options) : Outcome A :=
  match chosen.ruleset with
  | some ruleset => scanUnder s disk chosen ruleset
  | none => { ending := .fault .noPath, tree := disk.tree }

def run (s : Storage A) (disk : Disk A) (arguments : List String) : Outcome A :=
  match Options.ofArguments arguments with
  | .error fault =>
    { stderr := usage ++ s!"docsniff: error: {fault.message}\n", ending := .exit 2, tree := disk.tree }
  | .ok none => { stdout := help, ending := .exit 0, tree := disk.tree }
  | .ok (some chosen) => scan s disk chosen

end DocGuard.CommandLine

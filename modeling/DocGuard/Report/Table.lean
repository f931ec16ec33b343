import DocGuard.Report

set_option autoImplicit false

namespace DocGuard.Report

def padRight (width : Nat) (text : String) : String :=
  text ++ String.ofList (List.replicate (width - text.length) ' ')

def padLeft (width : Nat) (text : String) : String :=
  String.ofList (List.replicate (width - text.length) ' ') ++ text

def ruler (width : Nat) (mark : Char) : String := String.ofList (List.replicate width mark)

def row (severity count : String) : String := padRight 10 severity ++ " | " ++ padLeft 5 count

def header : String := row "Severity" "Count"

def status (r : Report) : String := if r.passed then "PASS" else "FAIL"

def usualLimit : Option Int := some 10

def countLine (entry : Severity × Int) : Except Integer.WriteFault String :=
  (Integer.write entry.2).map (row entry.1.name)

def findingLines (f : Finding) : Except Integer.WriteFault (List String) :=
  f.location.map fun location =>
    [s!"[{f.severity.name}] {f.code} {f.message} ({f.rule})", s!"  Location: {location}"]

def findingSection (entries : List (List String)) : List String :=
  if entries.isEmpty then [] else ["", "Top Findings", ruler 40 '-'] ++ entries.flatten

-- There is no table when a number in it is too long to be written.
def table (r : Report) (limit : Option Int) : Except Integer.WriteFault String := do
  let counts ← r.tally.rows.mapM countLine
  let total ← Integer.write r.tally.total
  let entries ← (r.top limit).mapM findingLines
  return "\n".intercalate
    (["Scan Summary", ruler 40 '=', header, ruler header.length '-'] ++ counts ++
      [ruler header.length '-', s!"Status    : {r.status}", s!"Files     : {r.files.length}",
        s!"Findings  : {total}"] ++
      findingSection entries)

end DocGuard.Report

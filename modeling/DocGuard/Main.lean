import DocGuard.CommandLine.Run

set_option autoImplicit false

namespace DocGuard.Main

def written (names : List String) : String := "/" ++ "/".intercalate names

-- Contents are filled in later, and only those that the command reads.
partial def picture (names : List String) : IO (FileTree ByteArray) := do
  let place := (← IO.currentDir) / written names
  if ← place.isDir then
    let mut entries : List (String × FileTree ByteArray) := []
    for entry in ← place.readDir do
      let below ← picture (names ++ [entry.fileName])
      entries := (entry.fileName, below) :: entries
    return .folder entries
  else return .file ByteArray.empty

-- Adds what stands on the way of a path to a tree that lacks it.
def graft (home : List String) (tree : FileTree ByteArray) (p : Path) :
    IO (FileTree ByteArray) := do
  let mut known := tree
  let mut here := p.origin home
  for part in p.parts do
    if part == ".." then here := here.dropLast
    else
      here := here ++ [part]
      let place := (← IO.currentDir) / written here
      if !(← place.pathExists) then return known
      if (known.get? here).isNone then
        let isDir ← place.isDir
        known := FileTree.put (if isDir then .folder [] else .file ByteArray.empty) here known
  return known

def graftBelow (home : List String) (tree : FileTree ByteArray) (p : Path) :
    IO (FileTree ByteArray) := do
  let known ← graft home tree p
  match known.locate home p with
  | .ok names => return FileTree.put (← picture names) names known
  | .error _ => return known

def fill (disk : Disk ByteArray) (paths : List Path) : IO (FileTree ByteArray) := do
  let mut filled := disk.tree
  for p in paths do
    match disk.tree.locate disk.home p, disk.file? p with
    | .ok names, .ok (some _) =>
      let content ← IO.FS.readBinFile (written names)
      filled := FileTree.put (.file content) names filled
    | _, _ => pure ()
  return filled

def diskOf (tree : FileTree ByteArray) (home : List String) : IO (Disk ByteArray) :=
  if stands : (tree.get? home).any FileTree.isFolder = true then return ⟨tree, home, stands⟩
  else throw (IO.userError "the working directory is not a folder")

-- The disk as far as the arguments name it.
def survey (arguments : List String) : IO (Disk ByteArray) := do
  let home := (← IO.currentDir).components.filter fun name => name != ""
  let mut tree := FileTree.put (.folder []) home (.folder [])
  match CommandLine.Options.ofArguments arguments with
  | .ok (some chosen) =>
    let sources := CommandLine.namedSources (CommandLine.chosenSources chosen)
    for source in sources do
      tree ← graftBelow home tree (Path.ofText source)
    for place in chosen.ruleset.toList ++ chosen.out.toList do
      tree ← graft home tree (Path.ofText place)
    let names ← diskOf tree home
    let dumps := (Discovery.search names Discovery.usualExtensions sources).dumps
    tree ← fill names (chosen.ruleset.toList.map Path.ofText ++ dumps)
  | _ => pure ()
  diskOf tree home

def store (before after : FileTree ByteArray) : IO Unit := do
  for names in after.folders do
    if (before.get? names).isNone then IO.FS.createDirAll (written names)
  for (names, content) in before.changes after do
    IO.FS.writeBinFile (written names) content

def run (arguments : List String) : IO UInt32 := do
  let disk ← survey arguments
  let outcome := CommandLine.run .utf8 disk arguments
  IO.print outcome.stdout
  IO.eprint outcome.stderr
  store disk.tree outcome.tree
  match outcome.ending with
  | .exit code => return code.toUInt32
  | .message text => IO.eprintln text; return 1
  | .fault fault => IO.eprintln fault.message; return 1

end DocGuard.Main

def main (arguments : List String) : IO UInt32 := DocGuard.Main.run arguments

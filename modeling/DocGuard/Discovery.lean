import DocGuard.FileTree

set_option autoImplicit false

namespace DocGuard.Discovery

def usualExtensions : List String := [".yaml", ".yml", ".json"]

variable {A : Type}

def isDump (extensions : List String) (names : List String) : Bool :=
  (names.getLast?.map Path.suffix).any extensions.contains

def dumpsBelow (extensions : List String) (entries : List (String × FileTree A)) :
    List (List String) :=
  (((FileTree.filesIn entries).map (·.1)).filter (isDump extensions)).mergeSort Path.precedes

-- The dumps found one after the other, and the fault that ended the search early.
structure Search where
  dumps : List Path
  fault : Option Path.TooLong := none
  deriving DecidableEq, Repr

namespace Search

def ofPaths (paths : List Path) : Search where
  dumps := paths.takeWhile fun p => !p.isTooLong
  fault := (paths.find? Path.isTooLong).map .mk

def andThen (first rest : Search) : Search :=
  match first.fault with
  | none => { rest with dumps := first.dumps ++ rest.dumps }
  | some _ => first

end Search

def dumpsAt (disk : Disk A) (extensions : List String) (source : String) : Search :=
  let p := Path.ofText source
  match disk.at? p with
  | .error fault => { dumps := [], fault := some fault }
  | .ok none => { dumps := [] }
  | .ok (some (.file _)) => { dumps := [p] }
  | .ok (some (.folder entries)) =>
    -- A folder is listed as a whole before the first of its dumps is looked up.
    match ((FileTree.foldersIn entries).map p.append).find? Path.isTooLong with
    | some deep => { dumps := [], fault := some ⟨deep⟩ }
    | none => .ofPaths ((dumpsBelow extensions entries).map p.append)

def search (disk : Disk A) (extensions : List String) : List String → Search
  | [] => { dumps := [] }
  | source :: sources =>
    (dumpsAt disk extensions source).andThen (search disk extensions sources)

end DocGuard.Discovery

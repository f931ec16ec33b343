import DocGuard.Path
import DocGuard.Text.Quoted

set_option autoImplicit false

namespace DocGuard

inductive FileTree (A : Type)
  | file (content : A)
  | folder (entries : List (String × FileTree A))

namespace FileTree

variable {A : Type}

def isFolder : FileTree A → Bool
  | .file _ => false
  | .folder _ => true

def child? (name : String) : List (String × FileTree A) → Option (FileTree A)
  | [] => none
  | (key, tree) :: rest => if key == name then some tree else child? name rest

def setChild (name : String) (tree : FileTree A) :
    List (String × FileTree A) → List (String × FileTree A)
  | [] => [(name, tree)]
  | (key, old) :: rest =>
    if key == name then (key, tree) :: rest else (key, old) :: setChild name tree rest

-- The tree under names that lead downwards only.
def get? (tree : FileTree A) : List String → Option (FileTree A)
  | [] => some tree
  | name :: names =>
    match tree with
    | .folder entries => (child? name entries).bind fun below => below.get? names
    | .file _ => none

-- Folders on the way are made if they are missing; a file on the way stays and nothing is put.
def put (new : FileTree A) : List String → FileTree A → FileTree A
  | [], _ => new
  | name :: names, .folder entries =>
    .folder (setChild name (put new names ((child? name entries).getD (.folder []))) entries)
  | _ :: _, .file content => .file content

inductive Obstacle
  | missing
  | notFolder
  | tooLong
  deriving DecidableEq, Repr

-- Follows names from a folder, whose own names are given nearest first, to where they really lead. A
-- step upwards needs a folder to start from, and above the root stands the root.
def locateFrom (tree : FileTree A) : List String → List String → Except Obstacle (List String)
  | here, [] => .ok here.reverse
  | here, part :: parts =>
    match tree.get? here.reverse with
    | none => .error .missing
    | some (.file _) => .error .notFolder
    | some (.folder entries) =>
      if part == ".." then locateFrom tree here.tail parts
      else if Path.nameIsTooLong part then .error .tooLong
      else
        match child? part entries with
        | none => .error .missing
        | some _ => locateFrom tree (part :: here) parts

def locate (tree : FileTree A) (home : List String) (p : Path) : Except Obstacle (List String) :=
  if p.isTooLong then .error .tooLong else tree.locateFrom (p.origin home).reverse p.parts

mutual

def files : FileTree A → List (List String × A)
  | .file content => [([], content)]
  | .folder entries => filesIn entries

def filesIn : List (String × FileTree A) → List (List String × A)
  | [] => []
  | (name, tree) :: rest =>
    (files tree).map (fun (names, content) => (name :: names, content)) ++ filesIn rest

end

inductive WriteFault
  | exists (path : String)
  | missing (path : String)
  | notFolder (path : String)
  | isFolder (path : String)
  | tooLong (path : Path.TooLong)
  | zero
  deriving DecidableEq, Repr

def WriteFault.message : WriteFault → String
  | .exists path => "[Errno 17] File exists: " ++ Text.quoted path
  | .missing path => "[Errno 2] No such file or directory: " ++ Text.quoted path
  | .notFolder path => "[Errno 20] Not a directory: " ++ Text.quoted path
  | .isFolder path => "[Errno 21] Is a directory: " ++ Text.quoted path
  | .tooLong fault => fault.message
  | .zero => "embedded null byte"

def WriteFault.ofObstacle (p : Path) : Obstacle → WriteFault
  | .missing => .missing p.toText
  | .notFolder => .notFolder p.toText
  | .tooLong => .tooLong ⟨p⟩

-- Where an entry of a folder is to be made.
inductive Slot (A : Type)
  | free (names : List String)
  | taken (names : List String) (tree : FileTree A)
  | folder

-- A path without names, or with a last one that leads upwards, names a folder.
def slot (tree : FileTree A) (home : List String) (p : Path) : Except WriteFault (Slot A) :=
  if p.hasZero then .error .zero
  else if p.isTooLong then .error (.tooLong ⟨p⟩)
  else
    match tree.locate home p.parent with
    | .error obstacle => .error (.ofObstacle p obstacle)
    | .ok names =>
      match tree.get? names, p.parts.getLast? with
      | some (.folder entries), some name =>
        if name == ".." then .ok .folder
        else if Path.nameIsTooLong name then .error (.tooLong ⟨p⟩)
        else
          match child? name entries with
          | some found => .ok (.taken (names ++ [name]) found)
          | none => .ok (.free (names ++ [name]))
      | some (.folder _), none => .ok .folder
      | _, _ => .error (.notFolder p.toText)

def makeFolder (tree : FileTree A) (home : List String) (p : Path) :
    Except WriteFault (FileTree A) :=
  match tree.slot home p with
  | .error fault => .error fault
  | .ok .folder | .ok (.taken _ (.folder _)) => .ok tree
  | .ok (.taken _ (.file _)) => .error (.exists p.toText)
  | .ok (.free names) => .ok (put (.folder []) names tree)

-- What was made before a fault stays.
structure Attempt (A : Type) where
  tree : FileTree A
  fault : Option WriteFault

def Attempt.ofStep (tree : FileTree A) : Except WriteFault (FileTree A) → Attempt A
  | .ok after => ⟨after, none⟩
  | .error fault => ⟨tree, some fault⟩

def Attempt.andThen (first : Attempt A) (step : FileTree A → Except WriteFault (FileTree A)) :
    Attempt A :=
  match first.fault with
  | none => .ofStep first.tree (step first.tree)
  | some _ => first

-- Makes a folder and, at most `bound` levels up, the folders it is missing.
def makeFolders (home : List String) : Nat → Path → FileTree A → Attempt A
  | 0, p, tree => .ofStep tree (tree.makeFolder home p)
  | bound + 1, p, tree =>
    match tree.makeFolder home p with
    | .error (.missing _) =>
      (makeFolders home bound p.parent tree).andThen fun above => above.makeFolder home p
    | result => .ofStep tree result

def writeFile (tree : FileTree A) (home : List String) (p : Path) (content : A) :
    Except WriteFault (FileTree A) :=
  match tree.slot home p with
  | .error fault => .error fault
  | .ok .folder | .ok (.taken _ (.folder _)) => .error (.isFolder p.toText)
  | .ok (.taken names (.file _)) | .ok (.free names) => .ok (put (.file content) names tree)

def save (tree : FileTree A) (home : List String) (p : Path) (content : A) : Attempt A :=
  (makeFolders home p.parts.length p.parent tree).andThen fun ready =>
    ready.writeFile home p content

mutual

def folders : FileTree A → List (List String)
  | .file _ => []
  | .folder entries => [] :: foldersIn entries

def foldersIn : List (String × FileTree A) → List (List String)
  | [] => []
  | (name, tree) :: rest => (folders tree).map (name :: ·) ++ foldersIn rest

end

def changes [BEq A] (before after : FileTree A) : List (List String × A) :=
  after.files.filter fun (names, content) =>
    match before.get? names with
    | some (.file old) => !(old == content)
    | _ => true

end FileTree

-- All files from the root on, and the names that lead to the working directory.
structure Disk (A : Type) where
  tree : FileTree A
  home : List String
  stands : (tree.get? home).any FileTree.isFolder = true

namespace Disk

variable {A : Type}

-- A name with the character zero is as good as missing; a name that is too long is not.
def at? (disk : Disk A) (p : Path) : Except Path.TooLong (Option (FileTree A)) :=
  if p.hasZero then .ok none
  else
    match disk.tree.locate disk.home p with
    | .ok names => .ok (disk.tree.get? names)
    | .error .missing | .error .notFolder => .ok none
    | .error .tooLong => .error ⟨p⟩

def file? (disk : Disk A) (p : Path) : Except Path.TooLong (Option A) :=
  (disk.at? p).map fun found =>
    match found with
    | some (.file content) => some content
    | _ => none

def save (disk : Disk A) (p : Path) (content : A) : FileTree.Attempt A :=
  disk.tree.save disk.home p content

end Disk

end DocGuard

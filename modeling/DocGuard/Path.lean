import DocGuard.Text.Quoted

set_option autoImplicit false

namespace DocGuard

-- A path of two slashes in front may name another root than one slash does, and is written with both;
-- more than two are as good as one.
inductive Path.Start
  | home
  | root
  | doubled
  deriving DecidableEq, Repr

-- The names hold neither `.` nor an empty one. `..` stays, since what it names depends on where the
-- names before it lead.
structure Path where
  start : Path.Start
  parts : List String
  deriving DecidableEq, Repr

namespace Path

def Start.text : Start → String
  | .home => ""
  | .root => "/"
  | .doubled => "//"

def Start.ofText (text : List Char) : Start :=
  match text with
  | '/' :: '/' :: '/' :: _ => .root
  | '/' :: '/' :: _ => .doubled
  | '/' :: _ => .root
  | _ => .home

def ofText (text : String) : Path where
  start := .ofText text.toList
  parts := ((text.toList.splitOn '/').map String.ofList).filter fun part => part != "" && part != "."

def toText (p : Path) : String :=
  if p.start = .home ∧ p.parts = [] then "." else p.start.text ++ "/".intercalate p.parts

def parent (p : Path) : Path := { p with parts := p.parts.dropLast }

def append (p : Path) (names : List String) : Path := { p with parts := p.parts ++ names }

-- Where the names of a path start, if `home` leads to the working directory.
def origin (p : Path) (home : List String) : List String :=
  match p.start with
  | .home => home
  | .root | .doubled => []

def isTooLong (p : Path) : Bool := 4096 ≤ p.toText.utf8ByteSize

def nameIsTooLong (name : String) : Bool := 255 < name.utf8ByteSize

def hasZero (p : Path) : Bool := p.parts.any fun name => name.toList.contains '\x00'

structure TooLong where
  path : Path
  deriving DecidableEq, Repr

def TooLong.message (fault : TooLong) : String :=
  "[Errno 36] File name too long: " ++ Text.quoted fault.path.toText

-- The end of a name from its last dot on, unless that dot is its first or last character.
def suffix (name : String) : String :=
  let tail := name.toList.reverse.takeWhile (· != '.')
  let stem := name.length - tail.length - 1
  if tail.length < name.length && 0 < tail.length && 0 < stem then
    String.ofList ('.' :: tail.reverse)
  else ""

def precedes (a b : List String) : Bool :=
  match a, b with
  | [], _ => true
  | _ :: _, [] => false
  | x :: as, y :: bs => if x == y then precedes as bs else x < y

end Path

end DocGuard

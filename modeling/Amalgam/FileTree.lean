import Amalgam.Reader

/-!
# File trees

A snapshot of files and directories by absolute place. Paths are resolved as a
system does it, one component after the other: what a path passes through must
be a directory that is there, even if the path climbs out of it again.
-/

namespace Amalgam

inductive FileEntry where
  | file (bytes : ByteArray)
  | directory

/-- Components from the root of the tree. -/
abbrev Place := List String

structure FileTree where
  entries : List (Place × FileEntry)
  /-- Where relative paths start. -/
  cwd : Place

namespace FileTree

/-- The longest component and the first length of a path that are refused. -/
def maxComponentBytes : Nat := 255

def maxPathBytes : Nat := 4096

/-- What is at a place. The working directory and those on the way to it or to an
entry are there too. -/
def at? (t : FileTree) (place : Place) : Option FileEntry :=
  if place.isPrefixOf t.cwd then some .directory
  else
    match t.entries.lookup place with
    | some entry => some entry
    | none => if t.entries.any (place.isPrefixOf ·.1) then some .directory else none

def enter (t : FileTree) (place : Place) (component : String) : Except ReadError Place :=
  match t.at? place with
  | some .directory =>
    if component = "" ∨ component = "." then .ok place
    else if component = ".." then .ok place.dropLast
    else if maxComponentBytes < component.utf8ByteSize then .error .nameTooLong
    else
      match t.at? (place ++ [component]) with
      | some _ => .ok (place ++ [component])
      | none => .error .notFound
  | some (.file _) => .error .notADirectory
  | none => .error .notFound

def resolve (t : FileTree) (p : Path) : Except ReadError Place :=
  if p.toList.contains '\x00' then .error .nulInName
  else if maxPathBytes ≤ p.utf8ByteSize then .error .nameTooLong
  else if p = "" then .error .notFound
  else (Text.split '/' p).foldlM t.enter (if p.isRooted then [] else t.cwd)

def isPresent (t : FileTree) (p : Path) : Bool :=
  match t.resolve p with
  | .ok _ => true
  | .error _ => false

def read (t : FileTree) (p : Path) : Except ReadError String :=
  match t.resolve p with
  | .error e => .error e
  | .ok place =>
    match t.at? place with
    | some (.file bytes) =>
      match String.fromUTF8? bytes with
      | some content => .ok content
      | none => .error .invalidText
    | some .directory => .error .isADirectory
    | none => .error .notFound

/-- The path that climbs some levels out of the working directory and then goes
down to a place, if the place lies below the level that is reached. -/
def climbing? (t : FileTree) (place : Place) (levels : Nat) : Option Path :=
  let base := t.cwd.take (t.cwd.length - levels)
  if base.isPrefixOf place then
    some (Text.join '/' (List.replicate levels ".." ++ place.drop base.length))
  else none

/-- The cleaned paths that name a place, from the root and from the working
directory. One that climbs more often is too long. -/
def pathsTo (t : FileTree) (place : Place) : List Path :=
  ("/" ++ Text.join '/' place) ::
    (List.range (maxPathBytes / 3)).filterMap (t.climbing? place)

def filePaths (t : FileTree) : List Path :=
  t.entries.flatMap fun entry =>
    match entry.2 with
    | .file _ => t.pathsTo entry.1
    | .directory => []

def reader (t : FileTree) : Reader :=
  Reader.within t.filePaths t.read

end FileTree

end Amalgam

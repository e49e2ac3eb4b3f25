import Dialogue.Files.Disk
import Dialogue.Sorted
import Dialogue.Text.Pieces

/-!
# Snapshots of files

A snapshot of the files below one directory, with the rules by which paths lead to them.
-/

namespace Dialogue

inductive Entry where
  | file (bytes : ByteArray)
  | directory

/-- Files and directories by their path from the working directory, which has no entry itself. A
path with something below it is that of a directory, whether or not it has an entry. -/
structure Snapshot where
  /-- The path of the working directory. It may be the root, below which all files are. -/
  home : String
  entries : Table Entry := {}

/-- A place on a disk: what is reached by names from the working directory or from the root. The
working directory counts as standing directly below the root. -/
inductive Place where
  | home (names : List String)
  | root (names : List String)
  deriving DecidableEq

namespace Place

def names : Place → List String
  | home names | root names => names

def child (name : String) : Place → Place
  | home names => home (names ++ [name])
  | root names => root (names ++ [name])

/-- The directory that a place is in. The root is in itself. -/
def parent : Place → Place
  | home [] => root []
  | home names => home names.dropLast
  | root names => root names.dropLast

end Place

namespace Snapshot

/-- What is found below the root of every disk: a place for what need not last, and the device that
holds nothing and takes everything. -/
def outside : Table Entry := Sorted.ofList [("tmp", .directory), ("dev/null", .file .empty)]

/-- A path below the working directory, from names. -/
def pathOf (names : List String) : String := "/".intercalate names

/-- The parts of a path between slashes. -/
def parts (path : String) : List String := (Text.pieces '/' path.toList).map String.ofList

/-- Whether one text begins with another, and what follows. -/
def dropStart? (start s : String) : Option String :=
  if start.toList.isPrefixOf s.toList then some (String.ofList (s.toList.drop start.length))
  else none

/-- What those paths from the root begin with that lead below the working directory. -/
def homeStem (files : Snapshot) : String :=
  if files.home.toList.getLast? == some '/' then files.home else files.home ++ "/"

/-- Where a path begins, and what it says from there. The path of no name leads nowhere. -/
def start? (files : Snapshot) (path : String) : Option (Place × String) :=
  if path = files.home then some (.home [], ".")
  else
    match dropStart? files.homeStem path, dropStart? "/" path with
    | some rest, _ => some (.home [], rest)
    | none, some rest => some (.root [], rest)
    | none, none => if path.isEmpty then none else some (.home [], path)

/-- The entries that a place is looked up in. -/
def entriesAt (files : Snapshot) : Place → Table Entry
  | .home _ => files.entries
  | .root _ => outside

/-- What is found at a place. -/
def entry? (files : Snapshot) (place : Place) : Option Entry :=
  let entries := files.entriesAt place
  if place.names.isEmpty then some .directory
  else
    match entries.get? (pathOf place.names) with
    | some e => some e
    | none =>
      if entries.keys.any fun k => (dropStart? (pathOf place.names ++ "/") k).isSome then
        some .directory
      else none

/-- The place that the parts of a path lead to from another one. -/
def walk (files : Snapshot) : Place → List String → Except Reason Place
  | place, [] => .ok place
  | place, part :: rest =>
    match files.entry? place with
    | none => .error .notFound
    | some (.file _) => .error .notDirectory
    | some .directory =>
      if part = "" ∨ part = "." then files.walk place rest
      else if part = ".." then files.walk place.parent rest
      else files.walk (place.child part) rest

/-- What a path leads to. -/
def locate (files : Snapshot) (path : String) : Except Reason (Place × Entry) :=
  match files.start? path with
  | none => .error .notFound
  | some (place, path) => do
    let place ← files.walk place (parts path)
    match files.entry? place with
    | some e => return (place, e)
    | none => throw .notFound

/-- The names in a directory, with what they are those of. -/
def children (files : Snapshot) (place : Place) : List (String × Entry) :=
  let start := if place.names.isEmpty then "" else pathOf place.names ++ "/"
  let below := (files.entriesAt place).keys.filterMap (dropStart? start)
  let next : NameSet := Sorted.ofList (below.map fun path => (parts path).headD "")
  next.toList.filterMap fun name => (files.entry? (place.child name)).map (name, ·)

def Entry.isFile : Entry → Bool
  | .file _ => true
  | .directory => false

def list (files : Snapshot) (path : String) : Except Reason (List (String × Bool)) := do
  match ← files.locate path with
  | (place, .directory) => return (files.children place).map fun (name, e) => (name, Entry.isFile e)
  | (_, .file _) => throw .notDirectory

def read (files : Snapshot) (path : String) : Except Reason ByteArray := do
  match ← files.locate path with
  | (_, .file bytes) => return bytes
  | (_, .directory) => throw .isDirectory

/-- The answers that the snapshot gives. -/
def disk (files : Snapshot) : Disk := ⟨files.list, files.read⟩

/-- Writes a file. It may be new, but not so the directory it is in. What is written outside the
working directory is not kept. -/
def write (files : Snapshot) (path text : String) : Except Reason Snapshot :=
  match files.start? path with
  | none => .error .notFound
  | some (place, path) => do
    let ps := parts path
    -- slashes at the end say that the last name is that of a directory
    let named := (ps.reverse.dropWhile (· = "")).reverse
    let directory ← files.walk place named.dropLast
    match files.entry? directory, named.getLastD "" with
    | none, _ => throw .notFound
    | some (.file _), _ => throw .notDirectory
    | some .directory, name =>
      if name = "" ∨ name = "." ∨ name = ".." ∨ named.length < ps.length then throw .isDirectory
      match files.entry? (directory.child name), directory.child name with
      | some .directory, _ => throw .isDirectory
      | _, .root _ => return files
      | _, .home names =>
        return { files with entries := files.entries.set (pathOf names) (.file text.toUTF8) }

end Snapshot

end Dialogue

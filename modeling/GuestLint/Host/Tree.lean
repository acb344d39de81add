import GuestLint.Path.Lexical
import GuestLint.Bytes.Utf8
import GuestLint.Host.Failure
/-!
# Host file trees

A file tree as a finite list of entries, each at the list of names that leads to it from the root.
`locate` follows a path text through the tree the way an operating system does: it starts at the
current directory or at the root, expands symbolic links in place, and gives up after forty of
them.

* `read`, `stat`, `lstat`: the operations a guest's file access ends in.
* `Access`: the same three operations as plain functions, which is all that the lookups above this
  module use of a host.
* `Asking`: the three operations with an effect. A lookup is written for any effect, and a host
  that is asked without one is the case of the plain operations.
-/
namespace GuestLint.Host

/-- The class of a file system entry. -/
inductive FileKind where
  | file
  | directory
  | symlink
  | blockDevice
  | charDevice
  | fifo
  | socket
  | other
  deriving Repr, DecidableEq

def FileKind.name : FileKind → String
  | file => "File"
  | directory => "Directory"
  | symlink => "Symlink"
  | blockDevice => "BlockDevice"
  | charDevice => "CharDevice"
  | fifo => "Fifo"
  | socket => "Socket"
  | other => "Other"

/-- A point in time, in nanoseconds since the start of 1970. -/
abbrev Time := Int

/-- What an inspection tells about an entry. -/
structure FileStat where
  kind : FileKind
  size : Nat
  /-- When the entry was changed, where that is known. -/
  changed : Option Time
  deriving Repr, DecidableEq

/-- Whether a time of change is known. -/
def FileStat.modified (stat : FileStat) : Bool :=
  stat.changed.isSome

inductive Entry where
  | file (content : Bytes)
  | directory
  | link (target : String)
  | fifo
  | socket
  /-- A device that is empty to every reader. -/
  | nullDevice
  deriving Repr, DecidableEq

def Entry.isLink : Entry → Bool
  | .link _ => true
  | _ => false

/-- The names that lead from the root to an entry. -/
abbrev Location := List String

/-- The names that an absolute path without links and `..` goes through. -/
def Location.ofPath (path : String) : Location :=
  (Path.segments path).filter (· ≠ "")

structure Tree where
  entries : List (Location × Entry) := []
  /-- The current directory, unless it has been removed. -/
  current : Option Location := some []
  /-- When entries were changed. -/
  times : List (Location × Time) := []
  /-- When the tree was set up, which is taken for the time of change of any other entry. -/
  built : Time := 1000000
  deriving Repr

namespace Tree

/-- The entry at a location. The root is always a directory. -/
def entry? (t : Tree) (at_ : Location) : Option Entry :=
  if at_ = [] then some .directory else t.entries.lookup at_

/-- The names directly below a directory. -/
def children (t : Tree) (dir : Location) : List String :=
  t.entries.filterMap fun (location, _) =>
    match location.reverse with
    | name :: parent => if parent.reverse = dir then some name else none
    | [] => none

/-- Puts an entry at a location and replaces what was there. -/
def put (t : Tree) (at_ : Location) (entry : Entry) : Tree :=
  if (t.entries.lookup at_).isSome then
    { t with entries := t.entries.map fun (l, e) => if l = at_ then (l, entry) else (l, e) }
  else { t with entries := t.entries ++ [(at_, entry)] }

/-- Notes when what stands at a location was changed. -/
def touch (t : Tree) (at_ : Location) (time : Time) : Tree :=
  { t with times := (at_, time) :: t.times }

/-- Makes a location a directory, and every location above it, unless something is there. -/
def makeDirectories (t : Tree) (at_ : Location) : Tree :=
  (List.range' 1 at_.length).foldl
    (fun t n =>
      let dir := at_.take n
      if (t.entry? dir).isSome then t else t.put dir .directory)
    t

/-- The longest name, in bytes, that a directory holds. -/
def maxName : Nat := 255

/-- The longest path text, in bytes. -/
def maxPath : Nat := 4095

/-- How many links one path may lead through. -/
def maxLinks : Nat := 40

/-- The location of a walk's start for a path text: the root, or the current directory. -/
def start (t : Tree) (path : String) : Option Location :=
  if Path.isAbsolute path then some [] else t.current

/-- Walks the segments `todo` from the directory `dir`. An empty segment at the end stands for a
separator there, which demands a directory. -/
def walk (t : Tree) (followLast : Bool) (links : Nat) (dir : Location) (todo : List String) :
    Except Failure (Location × Entry) :=
  match todo with
  | [] => .ok (dir, .directory)
  | name :: rest =>
    if name = "" ∨ name = "." then walk t followLast links dir rest
    else if name = ".." then walk t followLast links dir.dropLast rest
    else if maxName < name.utf8ByteSize then .error .nameTooLong
    else
      match t.entry? (dir ++ [name]) with
      | none => .error .missing
      | some .directory => walk t followLast links (dir ++ [name]) rest
      | some (.link target) =>
        if rest = [] ∧ followLast = false then .ok (dir ++ [name], .link target)
        else
          match links with
          | 0 => .error .tooManyLinks
          | links + 1 =>
            if target = "" then .error .missing
            else
              walk t followLast links (if Path.isAbsolute target then [] else dir)
                (Path.segments target ++ rest)
      | some entry => if rest = [] then .ok (dir ++ [name], entry) else .error .notDirectory
termination_by (links, todo.length)

/-- The entry that a path text leads to. -/
def locate (t : Tree) (followLast : Bool) (path : String) : Except Failure (Location × Entry) :=
  if path.toList.contains (Char.ofNat 0) then .error .nulInName
  else if path = "" then .error .missing
  else if maxPath < path.utf8ByteSize then .error .nameTooLong
  else
    match t.start path with
    | none => .error .missing
    | some dir => t.walk followLast maxLinks dir (Path.segments path)

/-- The size that a directory reports. -/
def directorySize : Nat := 4096

/-- When what stands at a location was changed. -/
def changedAt (t : Tree) (at_ : Location) : Time :=
  (t.times.lookup at_).getD t.built

/-- What an inspection tells about an entry that was changed at some time. -/
def describe (changed : Time) : Entry → FileStat
  | .file content => ⟨.file, content.length, some changed⟩
  | .directory => ⟨.directory, directorySize, some changed⟩
  | .link target => ⟨.symlink, target.utf8ByteSize, some changed⟩
  | .fifo => ⟨.fifo, 0, some changed⟩
  | .socket => ⟨.socket, 0, some changed⟩
  | .nullDevice => ⟨.charDevice, 0, some changed⟩

/-- What an inspection tells about the entry at a location. -/
def inspect (t : Tree) (found : Location × Entry) : FileStat :=
  describe (t.changedAt found.1) found.2

/-- The whole content behind a path. -/
def read (t : Tree) (path : String) : Except Failure Bytes := do
  match (← t.locate true path).2 with
  | .file content => pure content
  | .directory => throw .isDirectory
  | .socket => throw .noDevice
  | _ => pure []

/-- Inspects what a path leads to. -/
def stat (t : Tree) (path : String) : Except Failure FileStat := do
  pure (t.inspect (← t.locate true path))

/-- Inspects what a path names, without following a link at its end. -/
def lstat (t : Tree) (path : String) : Except Failure FileStat := do
  pure (t.inspect (← t.locate false path))

/-- The path text of a location. -/
def pathOf (at_ : Location) : String :=
  "/" ++ Path.unsegment at_

/-- The path text of the current directory. -/
def currentPath (t : Tree) : Except Failure String :=
  match t.current with
  | some dir => .ok (pathOf dir)
  | none => .error .missing

end Tree

/-- The file operations of a host. -/
structure Access where
  read : String → Except Failure Bytes
  stat : String → Except Failure FileStat
  lstat : String → Except Failure FileStat

/-- The operations of a tree. -/
def Tree.access (t : Tree) : Access :=
  ⟨t.read, t.stat, t.lstat⟩

/-- The file operations of a host, with an effect for each time it is asked. -/
structure Asking (m : Type → Type) where
  read : String → m (Except Failure Bytes)
  stat : String → m (Except Failure FileStat)
  lstat : String → m (Except Failure FileStat)

/-- Asking a host without an effect. -/
def Access.asking (host : Access) : Asking Id :=
  ⟨host.read, host.stat, host.lstat⟩

/-- Puts a name behind a path text. -/
def extend (path name : String) : String :=
  if path = "" then name
  else if path.toList.getLast? = some '/' then path ++ name
  else path ++ "/" ++ name

end GuestLint.Host

import GuestLint.Path.Lexical
import GuestLint.Bytes.Utf8
import GuestLint.Host.Failure
/-!
# Files in memory

A read only file system of named contents. Paths are relative to its root, slash separated and in
their shortest spelling; `.` names the root. A directory exists as soon as a file lies below it.

* `insert`: stores a content under the shortest spelling of a path and replaces what was there.
* `read`, `metadata`: look a path up as it is spelled.
-/
namespace GuestLint.Virtual

open Host (Failure)

/-- What a virtual file system tells about an entry. -/
structure Metadata where
  isDirectory : Bool
  size : Nat
  deriving Repr, DecidableEq

/-- Whether a text addresses an entry: it is `.`, or a list of names without `.` and `..`. -/
def isValid (path : String) : Bool :=
  path == "." ||
    (path != "" && !Path.isAbsolute path &&
      (Path.segments path).all fun part => part != "" && part != "." && part != "..")

/-- Why a path has no place in a virtual file system. -/
structure InvalidPath where
  path : String
  deriving Repr, DecidableEq

def InvalidPath.failure (e : InvalidPath) : Failure :=
  .invalidVirtual e.path

/-- Contents by path, each path once, in the order of their bytes. -/
structure Memory where
  files : List (String × Bytes) := []
  deriving Repr, DecidableEq

namespace Memory

/-- The order of paths: by their bytes, which is the order by characters. -/
def before (a b : String) : Bool :=
  a < b

/-- Puts a content into a list sorted by path. -/
def insertSorted (path : String) (content : Bytes) : List (String × Bytes) → List (String × Bytes)
  | [] => [(path, content)]
  | (key, old) :: rest =>
    if path = key then (path, content) :: rest
    else if before path key then (path, content) :: (key, old) :: rest
    else (key, old) :: insertSorted path content rest

/-- Stores a content under the shortest spelling of a path. -/
def insert (m : Memory) (path : String) (content : Bytes) : Except InvalidPath Memory :=
  let path := Path.clean path
  if isValid path then .ok ⟨insertSorted path content m.files⟩ else .error ⟨path⟩

def size (m : Memory) : Nat :=
  m.files.length

def isEmpty (m : Memory) : Bool :=
  m.files.isEmpty

/-- Whether a text starts with another. -/
def startsWith (start text : String) : Bool :=
  (Text.strip? start.toList text.toList).isSome

/-- Whether a path is the root or has a file below it: the first path that does not come before
`path/` decides. -/
def isDirectory (m : Memory) (path : String) : Bool :=
  path == "." ||
    match m.files.find? (fun file => !before file.1 (path ++ "/")) with
    | some (key, _) => startsWith (path ++ "/") key
    | none => false

/-- The content stored under a path. -/
def read (m : Memory) (path : String) : Except Failure Bytes :=
  if isValid path then
    match m.files.lookup path with
    | some content => .ok content
    | none => .error (.missingVirtual path)
  else .error (.invalidVirtual path)

def metadata (m : Memory) (path : String) : Except Failure Metadata :=
  if isValid path then
    match m.files.lookup path with
    | some content => .ok ⟨false, content.length⟩
    | none =>
      if m.isDirectory path then .ok ⟨true, 0⟩ else .error (.missingVirtual path)
  else .error (.invalidVirtual path)

end Memory
end GuestLint.Virtual

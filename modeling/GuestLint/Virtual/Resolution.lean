import GuestLint.Virtual.Store
/-!
# Routing of file access

Where a guest's paths are looked up. With a virtual file system present, a path is first made
relative to the working directory and looked up there; whenever that fails the host is asked with
the path as it was given, and a note says why.

A lookup is written for any way of asking the host, so that what it asks can be told; the plain one
asks without an effect.
-/
namespace GuestLint.Virtual

open Host (Access Asking Failure FileStat)

/-- Why a lookup left the virtual file system. -/
inductive Note where
  | unrelated (path : String) (cause : Path.NotRelative)
  | unopened (path : String) (cause : Failure)
  deriving Repr, DecidableEq

def Note.message : Note → String
  | unrelated path cause =>
    "failed to resolve '" ++ path ++ "' in virtual filesystem: " ++ cause.message
  | unopened path cause =>
    "failed to open '" ++ path ++ "' from virtual filesystem: " ++ cause.message

structure Resolution where
  workingDirectory : String
  store : Option Store := none
  deriving Repr, DecidableEq

/-- The answer of a lookup, and the notes made on the way to it. -/
structure Answer (α : Type) where
  result : Except Failure α
  notes : List Note := []

/-- The inspection of a virtual entry: a file or a directory, without a time of change. -/
def Metadata.stat (entry : Metadata) : FileStat :=
  ⟨if entry.isDirectory then .directory else .file, entry.size, none⟩

namespace Resolution

section
variable {m : Type → Type} [Monad m]

/-- The answer after a store was asked at a key: what it has found, or else what the host has. -/
def orHost {α : Type} (onHost : m (Except Failure α)) (key : String) :
    Except Failure α → m (Answer α)
  | .ok value => pure ⟨.ok value, []⟩
  | .error e => do return ⟨← onHost, [.unopened key e]⟩

/-- Asks the virtual file system first and the host when that has no answer. -/
def lookup {α : Type} (r : Resolution) (inStore : Store → String → m (Except Failure α))
    (onHost : String → m (Except Failure α)) (path : String) : m (Answer α) :=
  match r.store with
  | none => do return ⟨← onHost path, []⟩
  | some store =>
    match Path.relative r.workingDirectory path with
    | .error e => do return ⟨← onHost path, [.unrelated path e]⟩
    | .ok rel => inStore store rel >>= orHost (onHost path) rel

/-- Inspects a virtual entry. -/
def virtualStat (asking : Asking m) (store : Store) (path : String) :
    m (Except Failure FileStat) := do
  return (← store.metadataBy asking path).map Metadata.stat

/-- Reads a path. A virtual file system asks the host with `view`, and the lookup itself with
`given`, when it falls back to the path as it was given. -/
def readBy (r : Resolution) (view given : Asking m) (path : String) : m (Answer Bytes) :=
  r.lookup (·.readBy view ·) given.read path

/-- Inspects a path and follows links. -/
def statBy (r : Resolution) (view given : Asking m) (path : String) : m (Answer FileStat) :=
  r.lookup (virtualStat view) given.stat path

/-- Inspects a path without following a link at its end. -/
def lstatBy (r : Resolution) (view given : Asking m) (path : String) : m (Answer FileStat) :=
  r.lookup (virtualStat view) given.lstat path

end

def read (r : Resolution) (host : Access) (path : String) : Answer Bytes :=
  (r.readBy host.asking host.asking path).run

def stat (r : Resolution) (host : Access) (path : String) : Answer FileStat :=
  (r.statBy host.asking host.asking path).run

def lstat (r : Resolution) (host : Access) (path : String) : Answer FileStat :=
  (r.lstatBy host.asking host.asking path).run

end Resolution
end GuestLint.Virtual

import GuestLint.Host.Tree
import GuestLint.Virtual.Memory
/-!
# Virtual file systems

A virtual file system is either a set of files in memory or a view of one host directory. A view
reaches the host only at paths that extend its root by names, so that nothing outside the root can
be addressed by spelling.

The lookups are written for any way of asking the host; the plain ones ask it without an effect.
-/
namespace GuestLint.Virtual

open Host (Access Asking Failure)

/-- A view of a host directory. -/
structure Directory where
  root : String
  deriving Repr, DecidableEq

namespace Directory

/-- The names below the root that a virtual path spells; `.` spells none. -/
def names (path : String) : List String :=
  (Path.segments path).filter (· ≠ ".")

/-- The host path behind a virtual path. -/
def hostPath (d : Directory) (path : String) : Except Failure String :=
  if isValid path then .ok ((names path).foldl Host.extend d.root)
  else .error (.invalidVirtual path)

section
variable {m : Type → Type} [Monad m]

def readBy (d : Directory) (asking : Asking m) (path : String) : m (Except Failure Bytes) :=
  match d.hostPath path with
  | .ok place => asking.read place
  | .error e => pure (.error e)

def metadataBy (d : Directory) (asking : Asking m) (path : String) :
    m (Except Failure Metadata) :=
  match d.hostPath path with
  | .ok place => do
    return (← asking.stat place).map fun stat => ⟨stat.kind = .directory, stat.size⟩
  | .error e => pure (.error e)

end

def read (d : Directory) (host : Access) (path : String) : Except Failure Bytes :=
  (d.readBy host.asking path).run

def metadata (d : Directory) (host : Access) (path : String) : Except Failure Metadata :=
  (d.metadataBy host.asking path).run

end Directory

inductive Store where
  | memory (files : Memory)
  | directory (view : Directory)
  deriving Repr, DecidableEq

namespace Store

section
variable {m : Type → Type} [Monad m]

/-- The whole file at a virtual path. -/
def readBy (s : Store) (asking : Asking m) (path : String) : m (Except Failure Bytes) :=
  match s with
  | memory files => pure (files.read path)
  | directory view => view.readBy asking path

def metadataBy (s : Store) (asking : Asking m) (path : String) : m (Except Failure Metadata) :=
  match s with
  | memory files => pure (files.metadata path)
  | directory view => view.metadataBy asking path

end

def read (s : Store) (host : Access) (path : String) : Except Failure Bytes :=
  (s.readBy host.asking path).run

def metadata (s : Store) (host : Access) (path : String) : Except Failure Metadata :=
  (s.metadataBy host.asking path).run

end Store
end GuestLint.Virtual

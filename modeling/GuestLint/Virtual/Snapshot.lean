import GuestLint.Host.Tree
import GuestLint.Virtual.Memory
/-!
# Snapshots of host directories

`Memory.ofDirectory` copies every regular file below a host directory into memory, each under its
path relative to that directory. Links are followed, and a link back to a directory that is being
walked ends the copy with a failure. What is listed as a directory is walked without such a look
back, so a way may come through one directory twice before a link on it leads back.
-/
namespace GuestLint.Virtual

open Host (Tree Entry Failure Location)

/-- Why a copy fails. -/
inductive SnapshotError where
  | invalidPath (e : InvalidPath)
  | io (cause : Failure)
  deriving Repr, DecidableEq

/-- A directory on the way from the root of a walk: its text and its place in the tree. -/
structure Ancestor where
  path : String
  location : Location

/-- The path of a file below the root of a walk, for the names that lead to it. -/
def keyOf (names : List String) : String :=
  Path.unsegment names

/-- The directory on the way to which a link leads back. What is listed as a directory is not looked
for, and there is none above the root. -/
def wayBack (listed : Option Entry) (above : List Ancestor) (location : Location) :
    Option Ancestor :=
  if listed.all Entry.isLink then above.find? fun a => decide (a.location = location) else none

/-- What comes of a path that leads nowhere. A file fails when it is read and a link or a directory
when it is followed or opened; what is listed as anything else is left out unseen. -/
def unlocated (m : Memory) (path : String) (listed : Option Entry) (e : Failure) :
    Except SnapshotError Memory :=
  match listed with
  | some (.file _) => .error (.io e)
  | some .fifo | some .socket | some .nullDevice => .ok m
  | some .directory | some (.link _) | none => .error (.io (.walking path e))

/-- Copies what lies at a path text. `names` leads to it from the root of the walk; `listed` is what
its directory has at the last of them, and the root has no such directory; `above` lists the
directories on the way, innermost first. A link is followed, and must not lead back to one of those.
`depth` bounds the nesting. -/
def copy (t : Tree) (m : Memory) : (depth : Nat) → (path : String) → (names : List String) →
    (listed : Option Entry) → (above : List Ancestor) → Except SnapshotError Memory
  | 0, path, _, _, _ => .error (.io (.walking path .tooManyLinks))
  | depth + 1, path, names, listed, above =>
    match t.locate true path with
    | .error e => unlocated m path listed e
    | .ok (_, .file content) =>
      match m.insert (keyOf names) content with
      | .ok m => .ok m
      | .error e => .error (.invalidPath e)
    | .ok (location, .directory) =>
      match wayBack listed above location with
      | some a => .error (.io (.cycle path a.path))
      | none =>
        (t.children location).foldlM
          (fun m name =>
            copy t m depth (Host.extend path name) (names ++ [name])
              (t.entry? (location ++ [name])) (⟨path, location⟩ :: above))
          m
    | .ok _ => .ok m

/-- The nesting that a copy can come to. Links lead to no more directories than there are, and
between two links a way goes through no more directories than there are entries. -/
def maxDepth (t : Tree) : Nat :=
  (t.entries.length + 1) * (t.entries.length + 1) + 1

/-- Copies every regular file below a host directory. -/
def Memory.ofDirectory (t : Tree) (root : String) : Except SnapshotError Memory :=
  copy t {} (maxDepth t) root [] none []

end GuestLint.Virtual

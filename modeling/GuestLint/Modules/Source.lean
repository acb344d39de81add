import GuestLint.Host.Tree
/-!
# Module sources

Where the text of a module comes from that no native loader provides.
-/
namespace GuestLint.Modules

open Host (Access Failure)

/-- The bytes of a module, by its name. -/
abbrev SourceLoader := String → Except Failure Bytes

/-- The ending that a module's file may have in addition to its name. -/
def sourceEnding : String := ".js"

def endsInSource (name : String) : Bool :=
  (Text.stripEnd? sourceEnding.toList name.toList).isSome

/-- Reads modules from the host, with the usual ending added to a name that names no file. -/
def loadFromDisk (host : Access) : SourceLoader := fun name =>
  match host.read name with
  | .ok bytes => .ok bytes
  | .error e =>
    if e.kind = .notFound ∧ endsInSource name = false then host.read (name ++ sourceEnding)
    else .error e

/-- Knows no module. -/
def loadNothing : SourceLoader := fun name => .error (.missingSource name)

end GuestLint.Modules

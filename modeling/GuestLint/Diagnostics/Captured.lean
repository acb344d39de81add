import GuestLint.Diagnostics.Stack
/-!
# Captured exceptions

What is kept of a guest exception once the guest is gone: its text, its stack and one detail that
helps the reader. The detail is the module that could not be found, when the innermost frame is
the module loader; or the source line of the innermost frame, when its source is known.
-/
namespace GuestLint.Diagnostics

/-- The source texts that have been evaluated, by name. -/
structure Sources where
  texts : List (String × String) := []
  deriving Repr

namespace Sources

/-- Records a text and replaces one of the same name. -/
def record (s : Sources) (name text : String) : Sources :=
  ⟨(name, text) :: s.texts.filter (·.1 ≠ name)⟩

def text? (s : Sources) (name : String) : Option String :=
  s.texts.lookup name

/-- A line of a recorded text, counted from one. -/
def line? (s : Sources) (name : String) (line : Nat) : Option String := do
  let text ← s.text? name
  if line = 0 then none
  else ((Text.lines text.toList)[line - 1]?).map String.ofList

end Sources

inductive Detail where
  /-- A failure of the host, with its message. -/
  | host (message : String)
  /-- The module that could not be found. -/
  | failedImport (module : String)
  /-- The source line that raised the exception. -/
  | excerpt (line : String)
  | plain
  deriving Repr, DecidableEq

structure Captured where
  /-- The exception as text; empty for failures of the host. -/
  exception : String
  stack : String
  detail : Detail
  deriving Repr, DecidableEq

namespace Captured

/-- The detail for a stack, a recorded module name and the known sources. -/
def detailOf (sources : Sources) (stack : String) (missing : Option String) : Detail :=
  match readStack stack with
  | [] => .plain
  | frame :: _ =>
    if frame.isModuleLoader then
      match missing with
      | some module => .failedImport module
      | none => .plain
    else
      match frame.file, frame.line with
      | some file, some line =>
        match sources.line? file line with
        | some text => .excerpt text
        | none => .plain
      | _, _ => .plain

/-- Captures an exception whose text is `none` when it cannot be converted. `missing` is the module
name that the exception carries. -/
def ofThrown (sources : Sources) (text stack missing : Option String) : Captured :=
  let stack := stack.getD ""
  ⟨text.getD "<unprintable exception>",
    String.ofList (Text.trimEnd stack.toList),
    detailOf sources stack missing⟩

/-- The module that could not be found. -/
def missingModule (c : Captured) : Option String :=
  match c.detail with
  | .failedImport module => some module
  | _ => none

def sourceLine (c : Captured) : Option String :=
  match c.detail with
  | .excerpt line => some line
  | _ => none

/-- The diagnostic as it is shown. -/
def message (c : Captured) : String :=
  match c.detail with
  | .host message => message
  | .failedImport module =>
    c.exception ++ "\nfailed to import '" ++ module ++ "'\n\n" ++ c.stack
  | .excerpt line => c.exception ++ "\n...\n" ++ line ++ "\n...\n\n" ++ c.stack
  | .plain => c.exception ++ "\n" ++ c.stack

/-- The diagnostic without its stack. -/
def summary (c : Captured) : String :=
  match c.detail with
  | .host message => message
  | .failedImport module => c.exception ++ "\nfailed to import '" ++ module ++ "'"
  | .excerpt line => c.exception ++ "\n...\n" ++ line ++ "\n..."
  | .plain => c.exception

end Captured
end GuestLint.Diagnostics

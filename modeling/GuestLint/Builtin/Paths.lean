import GuestLint.Guest.Convert
import GuestLint.Path.Lexical
/-!
# Path functions for guests

The builtin module `path`: path texts in, path texts out, with the two conventions of its own that
a trailing separator survives `normalize` and that `relative` always has an answer.
-/
namespace GuestLint.Builtin

open Guest

/-- The shortest spelling of a path, with the separator at its end if it had one. -/
def normalize (path : String) : String :=
  let cleaned := Path.clean path
  if 1 < path.length ∧ path.toList.getLast? = some '/' ∧ cleaned ≠ "/" then cleaned ++ "/"
  else cleaned

/-- The way from one path to another: empty when there is none to go, and the target itself when
there is no way. -/
def relative (start target : String) : String :=
  let target := Path.resolve [target]
  match Path.relative (Path.resolve [start]) target with
  | .ok way => if way = "." then "" else way
  | .error _ => target

def runPath (f : PathFunction) (args : List Value) : Machine Value := do
  match f with
  | .resolve => return .text (Path.resolve (← args.mapM textArg))
  | .join => return .text (Path.join (← args.mapM textArg))
  | .relative =>
    requireArgs 2 args
    let start ← textArg (argAt args 0)
    let target ← textArg (argAt args 1)
    pure (.text (relative start target))
  | _ =>
    requireArgs 1 args
    let path ← textArg (argAt args 0)
    match f with
    | .dirname => pure (.text (Path.dirname path))
    | .basename =>
      let ending ← args[1]?.mapM textArg
      pure (.text (Path.basename path ending))
    | .extname => pure (.text (Path.extname path))
    | .normalize => pure (.text (normalize path))
    | _ => pure (.boolean (Path.isAbsolute path))

end GuestLint.Builtin

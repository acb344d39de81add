import GuestLint.Guest.Stringify
import GuestLint.Guest.Promise
import GuestLint.Text.Template
/-!
# Showing values

The builtin module `util`: values as text for people, message templates, and two ways to adapt
functions.

* `inspect`: a value as a log shows it.
* `format`: fills a template in, or shows values with blanks between them.
-/
namespace GuestLint.Builtin

open Guest

variable (call : Call)

/-- The JSON text of a value, or its plain text when it has none. -/
def jsonOrText (v : Value) : Machine String := do
  match ← attempt (stringify call v) with
  | .ok (some json) => pure json
  | .ok none => pure "undefined"
  | .error _ => toText call v

/-- The text that a property holds. -/
def textProperty? (v : Value) (name : String) : Machine (Option String) := do
  match ← getProperty v name with
  | .text s => pure (some s)
  | _ => pure none

/-- A value as a log shows it: functions by their names, errors with their stacks, other objects
as JSON. -/
def inspect (v : Value) : Machine String := do
  match v with
  | .object _ =>
    if (← heap).isFunction v then
      match ← textProperty? v "name" with
      | some name =>
        pure (if name = "" then "[Function (anonymous)]" else "[Function: " ++ name ++ "]")
      | none => pure "[Function (anonymous)]"
    else
      match ← textProperty? v "stack", ← textProperty? v "message" with
      | some stack, some _ =>
        pure ((← toText call v) ++ "\n" ++ String.ofList (Text.trimEnd stack.toList))
      | _, _ => jsonOrText call v
  | _ => toText call v

/-- What a directive of a template does with its argument. -/
def render (directive : Text.Directive) (v : Value) : Machine String := do
  match directive with
  | .number => pure (Number.placeholderText (← toNumber call v))
  | .integer => pure (Number.placeholderText (← toNumber call v).trunc)
  | .json => jsonOrText call v
  | .styling => pure ""
  | .shown => inspect call v

/-- The message that arguments make. The first one is a template when it is a text. -/
def format (args : List Value) : Machine String := do
  match args with
  | [] => pure ""
  | .text template :: rest =>
    Text.fill (render call) (inspect call) (Text.pieces template.toList) rest
  | first :: rest =>
    let shown ← inspect call first
    pure (shown ++ (← Text.trailing (inspect call) rest))

/-- Makes the instances of one constructor inherit from those of another. -/
def inherits (constructor parent : Ref) : Machine Unit := do
  let instances ← objectArg (← getProperty (.object constructor) "prototype")
  let inherited ← objectArg (← getProperty (.object parent) "prototype")
  modifyObject instances fun o => { o with parent := some inherited }
  assign constructor "super_" (.object parent)

/-- Calls a function in callback style, and answers a promise of what the callback is given. -/
def callPromised (wrapped this : Value) (args : List Value) : Machine Value := do
  let promise ← makePromise
  let callback ← makeFunction "" (.promisedResult promise)
  match ← attempt (do
      let method ← getProperty wrapped "call"
      if method = .undefined ∧ (← heap).isFunction wrapped = false then
        raise "TypeError" "not a function"
      call wrapped this (args ++ [.object callback])) with
  | .ok _ => pure ()
  | .error e => reject promise e
  pure (.object promise)

def runUtil (f : UtilFunction) (args : List Value) : Machine Value := do
  match f with
  | .format => .text <$> format call args
  | .inspect =>
    requireArgs 1 args
    .text <$> inspect call (argAt args 0)
  | .inherits =>
    requireArgs 2 args
    let constructor ← objectArg (argAt args 0)
    let parent ← objectArg (argAt args 1)
    inherits constructor parent
    pure .undefined
  | .deprecate =>
    requireArgs 1 args
    functionArg (argAt args 0)
  | .promisify =>
    .object <$> makeFunction "" (.promisified (argAt args 0))

end GuestLint.Builtin

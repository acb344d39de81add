import GuestLint.Guest.Convert
import GuestLint.Url.FilePath
/-!
# URL functions for guests

The builtin module `url`: URLs as objects with one property for each part, and the way between
`file` URLs and paths.
-/
namespace GuestLint.Builtin

open Guest

variable (call : Call)

/-- The parts of a URL as the properties of its object. -/
def urlFields (u : Url) : List (String × Value) :=
  [("href", .ofChars u.href), ("protocol", .ofChars (u.scheme ++ [':'])),
    ("username", .ofChars u.username), ("password", .ofChars u.password),
    ("host", .ofChars u.host), ("hostname", .ofChars u.hostname), ("port", .ofChars u.port),
    ("pathname", .ofChars u.path), ("search", .ofChars (Url.marked '?' u.query)),
    ("hash", .ofChars (Url.marked '#' u.fragment)), ("origin", .ofChars u.origin)]

/-- Reads a URL, relative to a base when there is one. -/
def readUrl (input : String) (base : Option String) : Option Url :=
  match base with
  | none => Url.parse none input
  | some text => do Url.parse (some (← Url.parse none text)) input

/-- Gives an object the parts of the URL that a text spells. -/
def fillUrl (target : Ref) (input : String) (base : Option String) : Machine Unit := do
  match readUrl input base with
  | none => raise "TypeError" ("Invalid URL: " ++ input)
  | some u =>
    for (name, value) in urlFields u do
      assign target name value

/-- The object of the URL that a text spells. -/
def makeUrl (input : String) : Machine Value := do
  let r ← allocate ⟨.plain, some Place.urlParent, []⟩
  fillUrl r input none
  pure (.object r)

/-- The receiver of a call, which is the global object when there is none. -/
def receiver (this : Value) : Value :=
  if this.isAbsent then .object Place.global else this

def runUrl (f : UrlFunction) (this : Value) (args : List Value) : Machine Value := do
  match f with
  | .construct =>
    requireArgs 1 args
    let target ← objectArg (receiver this)
    let input ← toText call (argAt args 0)
    let base ← args[1]?.mapM (toText call)
    fillUrl target input base
    pure .undefined
  | .href =>
    let r ← objectArg this
    .text <$> (textArg =<< getProperty (.object r) "href")
  | .fileURLToPath =>
    requireArgs 1 args
    match Url.toPath (← toText call (argAt args 0)) with
    | .ok path => pure (.text path)
    | .error e => raise "TypeError" e.message
  | .pathToFileURL =>
    let path ← shownText call (argAt args 0)
    match Url.hrefOfPath (← get).surroundings.currentPath path with
    | .ok href => makeUrl href
    | .error e => raise "TypeError" e.message

end GuestLint.Builtin

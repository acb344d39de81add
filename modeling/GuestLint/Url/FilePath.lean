import GuestLint.Url.Parser
import GuestLint.Path.Lexical
/-!
# File paths as URLs

The `file` URL of a path, and the path that a `file` URL names.
-/
namespace GuestLint.Url

/-- Why a URL names no path. -/
inductive FilePathError where
  | invalidUrl (input : String)
  | notFile
  | foreignHost (input : String)
  deriving Repr, DecidableEq

def FilePathError.message : FilePathError → String
  | invalidUrl input => "Invalid URL: " ++ input
  | notFile => "The URL must be of scheme file"
  | foreignHost input => "File URL host must be \"localhost\" or empty: " ++ input

/-- A path that ends in a drive letter gets a separator. -/
def closeDrive (path : Bytes) : Bytes :=
  match path.reverse with
  | last :: letter :: _ :: _ =>
    if (last == 0x3A || last == 0x7C) && (Char.ofNat letter.toNat).isAlpha then path ++ [0x2F]
    else path
  | _ => path

/-- The path that a `file` URL names. -/
def toPath (input : String) : Except FilePathError String :=
  match parse none input with
  | none => .error (.invalidUrl input)
  | some u =>
    if u.isFile = false then .error .notFile
    else if u.hostname.isEmpty then
      .ok (Utf8.decodeLossy (closeDrive (percentDecode u.path)))
    else .error (.foreignHost input)

/-- The `file` URL of a rooted path in its shortest spelling. -/
def ofCleanPath (path : String) : Url :=
  let names := Path.components path
  let encoded := names.flatMap fun name => '/' :: percentEncode segmentSet name.toList
  { scheme := fileScheme
    authority := some {}
    path := if encoded.isEmpty then ['/'] else encoded }

/-- The text of the `file` URL of a path; a relative path is resolved against `current`. -/
def hrefOfPath {ε : Type} (current : Except ε String) (path : String) : Except ε String := do
  let absolute ← if Path.isAbsolute path then pure (Path.clean path)
    else return String.ofList (ofCleanPath (Path.resolve [← current, path])).href
  pure (String.ofList (ofCleanPath absolute).href)

end GuestLint.Url

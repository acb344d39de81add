import GuestLint.Json.Document
import GuestLint.Json.Parser
import GuestLint.Text.Duration
import GuestLint.Host.Tree
/-!
# Configuration files

The settings that a file may hold for the command line: documents, a ruleset, a working directory,
an alternative bundle and a time limit in milliseconds. Paths in the file are relative to the
directory that holds it.
-/
namespace GuestLint.Lint

open Json (Parser Document)

structure FileConfig where
  documents : List String := []
  ruleset : Option String := none
  workingDirectory : Option String := none
  /-- An alternative bundle. -/
  dist : Option String := none
  timeoutMillis : Option Nat := none
  /-- The directory of the file. -/
  baseDirectory : Option String := none
  deriving Repr, DecidableEq

inductive FileConfigError where
  | unreadable (cause : Host.Failure)
  | invalid (cause : Json.Error)
  | zeroTimeout
  deriving Repr, DecidableEq

def FileConfigError.message : FileConfigError → String
  | .unreadable cause => "Failed to read config: " ++ cause.message
  | .invalid cause => "Invalid config: " ++ cause.message
  | .zeroTimeout => "timeoutMs must be greater than zero"

namespace FileConfig

/-- The name under which a file is looked up. -/
def fileName : String := ".rspectral.json"

def fieldNames : List String :=
  ["documents", "ruleset", "workingDirectory", "dist", "timeoutMs"]

/-- An unsigned integer of 64 bits. -/
def word64 : Parser Nat := fun rest => do
  let (n, rest) ← Json.integerOf "u64" 0 0xFFFFFFFFFFFFFFFF rest
  pure (n.toNat, rest)

def documentsOf : Nat → Parser (List String) :=
  Json.listOf fun _ => Json.stringOf

/-- The fields that have been read. -/
structure Fields where
  documents : Option (List String) := none
  ruleset : Option (Option String) := none
  workingDirectory : Option (Option String) := none
  dist : Option (Option String) := none
  timeoutMillis : Option (Option Nat) := none

def Fields.config (s : Fields) : FileConfig :=
  { documents := s.documents.getD []
    ruleset := s.ruleset.join
    workingDirectory := s.workingDirectory.join
    dist := s.dist.join
    timeoutMillis := s.timeoutMillis.join }

def Fields.step (depth : Nat) (s : Fields) (key : String) : Parser Fields := fun rest =>
  match key with
  | "documents" => do
    let (documents, rest) ← Json.member "documents" s.documents (documentsOf depth) rest
    pure ({ s with documents }, rest)
  | "ruleset" => do
    let (ruleset, rest) ← Json.member "ruleset" s.ruleset (Json.nullable Json.stringOf) rest
    pure ({ s with ruleset }, rest)
  | "workingDirectory" => do
    let (workingDirectory, rest) ←
      Json.member "workingDirectory" s.workingDirectory (Json.nullable Json.stringOf) rest
    pure ({ s with workingDirectory }, rest)
  | "dist" => do
    let (dist, rest) ← Json.member "dist" s.dist (Json.nullable Json.stringOf) rest
    pure ({ s with dist }, rest)
  | "timeoutMs" => do
    let (timeoutMillis, rest) ← Json.member "timeoutMs" s.timeoutMillis (Json.nullable word64) rest
    pure ({ s with timeoutMillis }, rest)
  | key => .error (.loose (.unknownField key fieldNames) rest)

/-- The fields of a file that lists them without names. -/
def listedFields (depth : Nat) : Parser Fields := fun rest => do
  let (documents, rest) ← Json.element true (documentsOf depth) rest
  let (ruleset, rest) ← Json.element false (Json.nullable Json.stringOf) rest
  let (workingDirectory, rest) ← Json.element false (Json.nullable Json.stringOf) rest
  let (dist, rest) ← Json.element false (Json.nullable Json.stringOf) rest
  let (timeoutMillis, rest) ← Json.element false (Json.nullable word64) rest
  pure ({ documents, ruleset, workingDirectory, dist, timeoutMillis }, rest)

def fieldsOf : Nat → Parser Fields :=
  Json.recordOf "FileConfig" listedFields fun depth rest =>
    Json.members (Fields.step depth) (rest.length + 1) true {} rest

/-- Reads the text of a file. -/
def ofText (text : String) : Except FileConfigError FileConfig :=
  match Json.decode fieldsOf text with
  | .error e => .error (.invalid e)
  | .ok fields =>
    if fields.config.timeoutMillis = some 0 then .error .zeroTimeout else .ok fields.config

/-- Drops the separators and the `.` elements at the end of a list of segments. -/
def dropIdle (segments : List String) : List String :=
  (segments.reverse.dropWhile fun part => part = "" ∨ part = ".").reverse

/-- The directory of a host path as it is spelled; the root and the empty path have none. -/
def parent? (path : String) : Option String :=
  match Path.segments path with
  | [] => none
  | first :: rest =>
    match dropIdle rest, first with
    | [], "" => none
    | [], _ => some ""
    | names, "" => some ("/" ++ Path.unsegment (dropIdle names.dropLast))
    | names, first => some (Path.unsegment (first :: dropIdle names.dropLast))

/-- Reads a file from the host. -/
def ofFile (host : Host.Access) (path : String) : Except FileConfigError FileConfig :=
  match host.read path with
  | .error e => .error (.unreadable e)
  | .ok bytes =>
    match Utf8.decode? bytes with
    | none => .error (.unreadable .notText)
    | some text => do
      let config ← ofText text
      pure { config with baseDirectory := parent? path }

/-- Puts a host path behind a directory; a rooted path replaces it. -/
def behind (directory path : String) : String :=
  if Path.isAbsolute path then path
  else if directory = "" then path
  else if directory.toList.getLast? = some '/' then directory ++ path
  else directory ++ "/" ++ path

/-- The file of a directory, when there is one. -/
def discover (host : Host.Access) (directory : String) : Option String :=
  let candidate := behind directory fileName
  match host.stat candidate with
  | .ok stat => if stat.kind = .file then some candidate else none
  | .error _ => none

def timeout (c : FileConfig) : Option Duration :=
  c.timeoutMillis.map Duration.ofMillis

/-- A path of the file, resolved against its directory. -/
def resolvePath (c : FileConfig) (path : String) : String :=
  match c.baseDirectory with
  | some base => behind base path
  | none => path

/-- The written form; fields without a value are left out. -/
def document (c : FileConfig) : Document :=
  let optional (key : String) (value : Option String) : List (String × Document) :=
    match value with
    | some text => [(key, .string text)]
    | none => []
  .object ([("documents", .array (c.documents.map .string))] ++ optional "ruleset" c.ruleset ++
    optional "workingDirectory" c.workingDirectory ++ optional "dist" c.dist ++
    (match c.timeoutMillis with
      | some n => [("timeoutMs", .integer (Int.ofNat n))]
      | none => []))

end FileConfig
end GuestLint.Lint

import GuestLint.Cli.Command
/-!
# The program

The command line. Commands are carried out on a snapshot of the host's files, which is taken before
they start: the working directory with everything below it, and the places that the words of the
command line name.

The exit code is 0 when nothing was found, 1 when a lint found errors, 2 when a command failed or
was refused, and 101 when it ended halfway.
-/
namespace GuestLint

open Guest (LogEntry LogLevel)
open Host (Location Time Tree)

/-! ## The snapshot -/

/-- The time that the host tells for a change. -/
def timeOf (metadata : IO.FS.Metadata) : Time :=
  metadata.modified.sec * 1000000000 + metadata.modified.nsec.toNat

/-- Adds what stands in a directory, and all that is below it. What cannot be read is left out. -/
partial def addEntries (t : Tree) (entries : Array IO.FS.DirEntry) : IO Tree :=
  entries.foldlM
    (fun t entry => do
      let path := entry.path
      let location := Location.ofPath path.toString
      try
        let metadata ← path.symlinkMetadata
        let t := t.touch location (timeOf metadata)
        match metadata.type with
        | .dir => addEntries (t.put location .directory) (← path.readDir)
        | .symlink => pure (t.put location (.link (← IO.FS.realPath path).toString))
        | .file => pure (t.put location (.file (← IO.FS.readBinFile path).toList))
        | .other => pure t
      catch _ => pure t)
    t

/-- Notes when a place and the directories above it were changed. -/
def touchAbove (t : Tree) (location : Location) : IO Tree :=
  (List.range (location.length + 1)).foldlM
    (fun t n => do
      let place ← IO.FS.realPath (Tree.pathOf (location.take n))
      return t.touch (location.take n) (timeOf (← place.metadata)))
    t

/-- Adds the place that a path leads to, with everything below it, if there is one. -/
def addPlace (t : Tree) (path : String) : IO Tree := do
  try
    let place ← IO.FS.realPath path
    let location := Location.ofPath place.toString
    let t ← touchAbove t location
    if ← place.isDir then addEntries (t.makeDirectories location) (← place.readDir)
    else
      let content ← IO.FS.readBinFile place
      pure ((t.makeDirectories location.dropLast).put location (.file content.toList))
  catch _ => pure t

/-- The words of a command line that may name places outside the working directory. -/
def outsideWords (args : List String) : List String :=
  args.filter fun word => Path.isAbsolute word || (Text.strip? "..".toList word.toList).isSome

/-- The files that a command can reach. -/
def snapshot (args : List String) : IO Tree := do
  let directory := (← IO.currentDir).toString
  let start : Tree := { current := some (Location.ofPath directory) }
  (directory :: outsideWords args).foldlM addPlace start

/-- The variables of the environment that guests are shown. -/
def environment : IO (List (String × String)) := do
  let values ← ["HOME", "TMPDIR"].mapM fun name => do
    return (← IO.getEnv name).map fun value => (name, value)
  return values.filterMap id

/-! ## What is printed -/

/-- Whether a log entry is printed; the details are for those who ask for them. -/
def isPrinted (verbose : Bool) (entry : LogEntry) : Bool :=
  match entry.level with
  | .trace => false
  | .debug => verbose
  | .info | .warn | .error => true

def printLog (verbose : Bool) (entry : LogEntry) : IO Unit :=
  if isPrinted verbose entry then IO.eprintln (entry.level.name ++ " " ++ entry.text)
  else pure ()

end GuestLint

open GuestLint in
/-- Carries out a command line. -/
def main (args : List String) : IO UInt32 := do
  match Cli.Invocation.ofArgs args with
  | .error e =>
    IO.eprintln e.name
    return UInt32.ofNat e.code
  | .ok invocation =>
    let files ← snapshot args
    let outcome := invocation.run
      { host := files.access
        currentPath := files.currentPath
        environment := ← environment }
    outcome.logs.forM (printLog invocation.verbose)
    match outcome.result with
    | .ok success =>
      IO.print success.output
      return if success.hasErrors then 1 else 0
    | .error e =>
      IO.print e.printed
      IO.eprintln e.message
      return UInt32.ofNat e.code

import GuestLint.Guest.Promise
import GuestLint.Builtin.Buffers
import GuestLint.Builtin.Files
import GuestLint.Builtin.Paths
import GuestLint.Builtin.Processes
import GuestLint.Builtin.Streams
import GuestLint.Builtin.Urls
/-!
# What the builtin modules export

The exports of each builtin module, in the order in which guests list them.
-/
namespace GuestLint.Builtin

open Guest

/-- Adds a function to an object. -/
def offer (target : Ref) (name : String) (f : Function) : Machine Unit := do
  assign target name (.object (← makeFunction name f))

def offerAll (target : Ref) (functions : List (String × Function)) : Machine Unit := do
  for (name, f) in functions do
    offer target name f

def pathFunctions : List (String × PathFunction) :=
  [("dirname", .dirname), ("basename", .basename), ("extname", .extname), ("resolve", .resolve),
    ("join", .join), ("normalize", .normalize), ("relative", .relative),
    ("isAbsolute", .isAbsolute)]

def exportPath (exports : Ref) : Machine Unit := do
  offerAll exports (pathFunctions.map fun p => (p.1, .path p.2))
  assign exports "sep" (.text "/")
  assign exports "delimiter" (.text ":")
  assign exports "posix" (.object exports)

def utilFunctions : List (String × UtilFunction) :=
  [("format", .format), ("inspect", .inspect), ("inherits", .inherits),
    ("deprecate", .deprecate), ("promisify", .promisify)]

def exportUtil (exports : Ref) : Machine Unit :=
  offerAll exports (utilFunctions.map fun p => (p.1, .util p.2))

def exportStream (exports : Ref) : Machine Unit := do
  let passThrough ← makeConstructor "PassThrough" (.stream .passThrough 0) (← makeParent)
  assign exports "PassThrough" (.object passThrough)
  let readable ← makeConstructor "Readable" (.stream .readable 0) (← makeParent)
  assign exports "Readable" (.object readable)

def exportUrl (exports : Ref) : Machine Unit := do
  let constructor ← makeConstructor "URL" (.url .construct) Place.urlParent
  offerAll Place.urlParent [("toString", .url .href), ("toJSON", .url .href)]
  assign exports "URL" (.object constructor)
  offerAll exports
    [("fileURLToPath", .url .fileURLToPath), ("pathToFileURL", .url .pathToFileURL)]

def fileFunctions : List (String × FileFunction) :=
  [("stat", .stat), ("statSync", .statSync), ("lstat", .lstat), ("lstatSync", .lstatSync),
    ("readFile", .readFile), ("readFileSync", .readFileSync), ("existsSync", .existsSync)]

def exportFiles (exports : Ref) (files : Virtual.Resolution) : Machine Unit := do
  offerAll exports (fileFunctions.map fun p => (p.1, .file p.2 files))
  let promises ← makeRecord []
  offer promises "readFile" (.file .readFilePromise files)
  assign exports "promises" (.object promises)
  let realpath ← makeFunction "realpath" (.file .realpath files)
  offer realpath "native" (.file .realpathNative files)
  assign exports "realpath" (.object realpath)

def consoleMethods : List (String × LogLevel) :=
  [("log", .info), ("info", .info), ("debug", .debug), ("trace", .trace), ("warn", .warn),
    ("error", .error)]

def exportConsole (exports : Ref) : Machine Unit :=
  offerAll exports (consoleMethods.map fun p => (p.1, .console p.2))

/-- Puts an entry among entries that are sorted by their names. -/
def insertByName (entry : String × String) : List (String × String) → List (String × String)
  | [] => [entry]
  | e :: rest =>
    if entry.1 = e.1 then entry :: rest
    else if entry.1 < e.1 then entry :: e :: rest
    else e :: insertByName entry rest

def outputStream (name workingDirectory : String) : Machine Value := do
  let r ← makeRecord [("isTTY", .boolean false)]
  offer r "write" (.process (.write name) workingDirectory)
  pure (.object r)

def exportProcess (exports : Ref) (workingDirectory : String) : Machine Unit := do
  let environment := (← get).surroundings.environment.foldl (fun all e => insertByName e all) []
  let env ← makeRecord (environment.map fun e => (e.1, .text e.2))
  assign exports "env" (.object env)
  offer exports "on" (.process .on workingDirectory)
  offer exports "cwd" (.process .cwd workingDirectory)
  let versions ← makeRecord [("node", .text platformVersion)]
  assign exports "versions" (.object versions)
  assign exports "version" (.text ("v" ++ platformVersion))
  assign exports "platform" (.text platformName)
  assign exports "arch" (.text architectureName)
  assign exports "pid" (.ofNat 1)
  assign exports "argv" (← makeList [.text programName])
  assign exports "stdout" (← outputStream "stdout" workingDirectory)
  assign exports "stderr" (← outputStream "stderr" workingDirectory)
  offer exports "nextTick" (.process .nextTick workingDirectory)
  offer exports "emitWarning" (.process .emitWarning workingDirectory)

def systemFunctions : List (String × SystemFunction) :=
  [("platform", .platform), ("arch", .arch), ("type", .type), ("cpus", .cpus),
    ("tmpdir", .tmpdir), ("homedir", .homedir)]

def exportSystem (exports : Ref) : Machine Unit := do
  offerAll exports (systemFunctions.map fun p => (p.1, .system p.2))
  assign exports "EOL" (.text "\n")

def bufferStatics : List (String × BufferFunction) :=
  [("from", .from), ("alloc", .alloc), ("allocUnsafe", .allocUnsafe), ("isBuffer", .isBuffer),
    ("isEncoding", .isEncoding), ("byteLength", .byteLength), ("concat", .concat)]

def bufferMethods : List (String × BufferFunction) :=
  [("toString", .toString), ("toJSON", .toJSON), ("equals", .equals), ("write", .write)]

def exportBuffer (exports : Ref) : Machine Unit := do
  let constructor ← makeConstructor "Buffer" (.buffer .construct) Place.bufferParent
  for (name, f) in bufferStatics do
    assignHidden constructor name (.object (← makeFunction name (.buffer f)))
  for (name, f) in bufferMethods do
    assignHidden Place.bufferParent name (.object (← makeFunction name (.buffer f)))
  assign exports "Buffer" (.object constructor)
  assign exports "kMaxLength" (.ofNat maxBufferLength)
  assign exports "constants" (.object (← makeRecord [("MAX_LENGTH", .ofNat maxBufferLength)]))

/-- The methods that do nothing and answer the emitter. -/
def chainingMethods : List String :=
  ["on", "addListener", "prependListener", "once", "off", "removeListener", "removeAllListeners",
    "setMaxListeners"]

/-- The events module is its own constructor. -/
def exportEvents (module : Ref) : Machine Unit := do
  let parent ← makeParent
  let constructor ← makeConstructor "EventEmitter" (.emitter .construct) parent
  offerAll parent (chainingMethods.map fun name => (name, .emitter .chain))
  offerAll parent [("emit", .emitter .emit), ("listenerCount", .emitter .listenerCount)]
  assign constructor "EventEmitter" (.object constructor)
  assign constructor "defaultMaxListeners" (.ofNat 10)
  assign module "exports" (.object constructor)

/-- Fills the entry of a builtin module. -/
def load (b : Builtin) (module : Ref) : Machine Unit := do
  let exports ← objectArg (← getProperty (.object module) "exports")
  match b with
  | .util => exportUtil exports
  | .stream => exportStream exports
  | .url => exportUrl exports
  | .global => assign exports "global" (.object Place.global)
  | .file files => exportFiles exports files
  | .console => exportConsole exports
  | .process workingDirectory => exportProcess exports workingDirectory
  | .module => offer exports "createRequire" .createRequire
  | .path => exportPath exports
  | .os => exportSystem exports
  | .buffer => exportBuffer exports
  | .tty => offer exports "isatty" (.system .isatty)
  | .events => exportEvents module
  | .empty => pure ()

/-- What is bound as a global when a builtin module is installed: a name, and the property of the
exports that it is bound to, or the exports themselves. -/
def globalBinding : Builtin → Option (String × Option String)
  | .util => some ("util", none)
  | .stream => some ("Stream", none)
  | .url => some ("URL", some "URL")
  | .global => some ("global", some "global")
  | .file _ => some ("fs", none)
  | .console => some ("console", none)
  | .process _ => some ("process", none)
  | .module => some ("module", none)
  | .path => some ("path", none)
  | .os => some ("os", none)
  | .buffer => some ("Buffer", some "Buffer")
  | .tty => some ("tty", none)
  | .events => some ("events", none)
  | .empty => none

end GuestLint.Builtin

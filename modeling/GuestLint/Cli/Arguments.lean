import GuestLint.Text.Basic
import GuestLint.Lint.Listing
/-!
# The arguments of the command line

A command line is read from left to right. Options may stand anywhere, a value may be attached to
its option or follow it, and short options may share one word. A value that follows its option is
looked at when the next option or document is met, so a later mistake can be told first.

* `Invocation.ofArgs`: what a command line asks for, or why it is refused.
-/
namespace GuestLint.Cli

/-- Why a command line is not carried out. -/
inductive UsageError where
  | displayHelp
  | displayVersion
  | displayHelpOnMissingArgumentOrSubcommand
  | missingSubcommand
  | invalidSubcommand
  | unknownArgument
  | invalidValue
  | valueValidation
  | tooManyValues
  | argumentConflict
  deriving Repr, DecidableEq

namespace UsageError

def name : UsageError → String
  | displayHelp => "DisplayHelp"
  | displayVersion => "DisplayVersion"
  | displayHelpOnMissingArgumentOrSubcommand => "DisplayHelpOnMissingArgumentOrSubcommand"
  | missingSubcommand => "MissingSubcommand"
  | invalidSubcommand => "InvalidSubcommand"
  | unknownArgument => "UnknownArgument"
  | invalidValue => "InvalidValue"
  | valueValidation => "ValueValidation"
  | tooManyValues => "TooManyValues"
  | argumentConflict => "ArgumentConflict"

/-- The exit code: help and version are no failures. -/
def code : UsageError → Nat
  | displayHelp | displayVersion => 0
  | _ => 2

end UsageError

/-! ## Options -/

inductive OptionName where
  | config | verbose | help | version | ruleset | cwd | dist | script | format | timeout
  deriving Repr, DecidableEq

/-- What an option takes. -/
inductive OptionKind where
  /-- No value. -/
  | flag
  | text
  /-- A path, which is not empty. -/
  | path
  /-- A whole number of 64 bits. -/
  | number
  /-- A form of output. -/
  | format
  | help
  | version
  deriving Repr, DecidableEq

structure OptionSpec where
  name : OptionName
  long : String
  short : Option Char
  kind : OptionKind
  deriving Repr, DecidableEq

/-- The options of all commands. -/
def sharedOptions : List OptionSpec :=
  [⟨.config, "config", some 'c', .path⟩, ⟨.verbose, "verbose", some 'v', .flag⟩,
    ⟨.help, "help", some 'h', .help⟩]

/-- The options in front of a command. -/
def topOptions : List OptionSpec :=
  ⟨.version, "version", some 'V', .version⟩ :: sharedOptions

def lintOptions : List OptionSpec :=
  [⟨.ruleset, "ruleset", some 'r', .text⟩, ⟨.cwd, "cwd", none, .text⟩,
    ⟨.dist, "dist", none, .path⟩, ⟨.script, "script", none, .path⟩,
    ⟨.format, "format", some 'f', .format⟩, ⟨.timeout, "timeout", none, .number⟩] ++ sharedOptions

/-- The form of output of a name. -/
def formatOf? (name : String) : Option Lint.OutputFormat :=
  if name = "text" then some .text else if name = "json" then some .json else none

/-- Reads a whole number of 64 bits, with or without a plus sign. -/
def word64? (text : String) : Option Nat :=
  let digits := match text.toList with
    | '+' :: rest => rest
    | cs => cs
  if Text.isNumeral digits then
    let n := Text.numeralValue digits
    if n < Nat.pow 2 64 then some n else none
  else none

/-- Checks the value of an option. -/
def OptionKind.check (kind : OptionKind) (value : String) : Except UsageError Unit :=
  match kind with
  | .path => if value = "" then .error .invalidValue else .ok ()
  | .number => if (word64? value).isSome then .ok () else .error .valueValidation
  | .format => if (formatOf? value).isSome then .ok () else .error .invalidValue
  | _ => .ok ()

/-! ## Reading words -/

/-- What has been read of one command's words. -/
structure Reading where
  values : List (OptionName × String) := []
  documents : List String := []
  /-- An option that waits for its value, or whose value has not been looked at. -/
  pending : Option (OptionSpec × Option String) := none
  deriving Repr

namespace Reading

/-- Takes an option with its value, if it has one. -/
def take (r : Reading) (spec : OptionSpec) (value : Option String) : Except UsageError Reading := do
  let repeated := (r.values.lookup spec.name).isSome
  match spec.kind, value with
  | .help, _ => throw .displayHelp
  | .version, _ => throw .displayVersion
  | .flag, _ =>
    if repeated then throw .argumentConflict
    pure { r with values := (spec.name, "") :: r.values }
  | _, none => throw .invalidValue
  | kind, some v =>
    if repeated then throw .argumentConflict
    kind.check v
    pure { r with values := (spec.name, v) :: r.values }

/-- Takes the option that is pending. -/
def resolve (r : Reading) : Except UsageError Reading :=
  match r.pending with
  | none => .ok r
  | some (spec, value) => { r with pending := none }.take spec value

/-- Takes an option after what was pending. -/
def accept (r : Reading) (spec : OptionSpec) (value : Option String) :
    Except UsageError Reading := do
  (← r.resolve).take spec value

/-- Lets an option wait for its value. -/
def await (r : Reading) (spec : OptionSpec) : Except UsageError Reading := do
  pure { (← r.resolve) with pending := some (spec, none) }

def addDocument (r : Reading) (document : String) : Except UsageError Reading := do
  let r ← r.resolve
  pure { r with documents := r.documents ++ [document] }

end Reading

/-- Whether an option takes a value. -/
def OptionKind.takesValue : OptionKind → Bool
  | .flag | .help | .version => false
  | _ => true

/-- Reads a word of two dashes and a name, with or without an attached value. -/
def readLong (options : List OptionSpec) (r : Reading) (word : List Char) :
    Except UsageError Reading := do
  let (name, value) := match Text.cutFirst '=' word with
    | some (name, value) => (name, some (String.ofList value))
    | none => (word, none)
  match options.find? (·.long = String.ofList name) with
  | none => throw .unknownArgument
  | some spec =>
    if spec.kind.takesValue then
      match value with
      | some v => r.accept spec (some v)
      | none => r.await spec
    else
      match value with
      | some _ => throw .tooManyValues
      | none => r.accept spec none

/-- Reads the letters of a word of one dash. What follows the letter of an option that takes a
value is that value. -/
def readShort (options : List OptionSpec) (r : Reading) : List Char → Except UsageError Reading
  | [] => pure r
  | c :: rest => do
    match options.find? (·.short = some c) with
    | none => throw .unknownArgument
    | some spec =>
      if spec.kind.takesValue then
        match rest with
        | [] => r.await spec
        | '=' :: value => r.accept spec (some (String.ofList value))
        | value => r.accept spec (some (String.ofList value))
      else readShort options (← r.accept spec none) rest

/-- A word as the reader sees it. -/
inductive Word where
  /-- Two dashes alone: all that follows is no option. -/
  | escape
  | long (name : List Char)
  | short (letters : List Char)
  | plain (text : String)
  deriving Repr, DecidableEq

def Word.of (text : String) : Word :=
  match text.toList with
  | ['-', '-'] => .escape
  | '-' :: '-' :: name => .long name
  | ['-'] => .plain text
  | '-' :: letters => .short letters
  | _ => .plain text

/-- Whether an option waits for the next word as its value. -/
def Reading.waits (r : Reading) : Option OptionSpec :=
  match r.pending with
  | some (spec, none) => some spec
  | _ => none

/-- Reads the words of a command that has no commands of its own. -/
def readWords (options : List OptionSpec) (takesDocuments : Bool) (onlyPlain : Bool) (r : Reading) :
    List String → Except UsageError Reading
  | [] => r.resolve
  | text :: rest => do
    let plain (r : Reading) : Except UsageError Reading :=
      if takesDocuments then r.addDocument text else .error .unknownArgument
    if onlyPlain then readWords options takesDocuments true (← plain r) rest
    else
      match Word.of text with
      | .escape => readWords options takesDocuments true r rest
      | .long name => readWords options takesDocuments false (← readLong options r name) rest
      | .short letters =>
        readWords options takesDocuments false (← readShort options r letters) rest
      | .plain _ =>
        match r.waits with
        | some spec =>
          let r := { r with pending := some (spec, some text) }
          readWords options takesDocuments false r rest
        | none => readWords options takesDocuments false (← plain r) rest

/-! ## Commands -/

structure LintArgs where
  documents : List String := []
  ruleset : Option String := none
  cwd : Option String := none
  dist : Option String := none
  script : Option String := none
  format : Lint.OutputFormat := .text
  /-- In seconds. -/
  timeout : Option Nat := none
  deriving Repr, DecidableEq

inductive Command where
  | lint (args : LintArgs)
  | modules
  deriving Repr, DecidableEq

/-- What a command line asks for. -/
structure Invocation where
  command : Command
  /-- A configuration file. -/
  config : Option String := none
  verbose : Bool := false
  deriving Repr, DecidableEq

inductive CommandName where
  | lint
  | modules
  | help
  deriving Repr, DecidableEq

def CommandName.ofName? (name : String) : Option CommandName :=
  if name = "lint" then some .lint
  else if name = "modules" then some .modules
  else if name = "help" then some .help
  else none

/-- The help for a command: at most one command may be named. -/
def helpError : List String → UsageError
  | [] => .displayHelp
  | [name] => if (CommandName.ofName? name).isSome then .displayHelp else .invalidSubcommand
  | _ => .invalidSubcommand

def Reading.lintArgs (r : Reading) : LintArgs :=
  { documents := r.documents
    ruleset := r.values.lookup .ruleset
    cwd := r.values.lookup .cwd
    dist := r.values.lookup .dist
    script := r.values.lookup .script
    format := ((r.values.lookup .format).bind formatOf?).getD .text
    timeout := (r.values.lookup .timeout).bind word64? }

/-- Puts together what stood in front of a command and what followed it. An option of the command
counts more than the same one in front of it. -/
def Reading.invocation (top inner : Reading) (command : Command) : Invocation :=
  { command := command
    config := (inner.values.lookup .config).or (top.values.lookup .config)
    verbose := ((inner.values.lookup .verbose).or (top.values.lookup .verbose)).isSome }

/-- Reads a command and its words. -/
def readCommand (top : Reading) (name : CommandName) (words : List String) :
    Except UsageError Invocation :=
  match name with
  | .help => .error (helpError words)
  | .lint => do
    let inner ← readWords lintOptions true false {} words
    pure ((← top.resolve).invocation inner (.lint inner.lintArgs))
  | .modules => do
    let inner ← readWords sharedOptions false false {} words
    pure ((← top.resolve).invocation inner .modules)

/-- Says what is missing from a command line without a command. -/
def missingCommand (r : Reading) : UsageError :=
  if r.values.isEmpty then .displayHelpOnMissingArgumentOrSubcommand else .missingSubcommand

/-- Reads the words in front of a command. -/
def readTop (onlyPlain : Bool) (r : Reading) : List String → Except UsageError Invocation
  | [] => do throw (missingCommand (← r.resolve))
  | text :: rest => do
    if onlyPlain then
      throw (if (CommandName.ofName? text).isSome then .unknownArgument else .invalidSubcommand)
    else
      match Word.of text with
      | .escape => readTop true r rest
      | .long name => readTop false (← readLong topOptions r name) rest
      | .short letters => readTop false (← readShort topOptions r letters) rest
      | .plain _ =>
        match r.waits, CommandName.ofName? text with
        | some spec, _ => readTop false { r with pending := some (spec, some text) } rest
        | none, some name => readCommand r name rest
        | none, none => throw .invalidSubcommand

/-- What a command line asks for. -/
def Invocation.ofArgs (args : List String) : Except UsageError Invocation :=
  readTop false {} args

end GuestLint.Cli

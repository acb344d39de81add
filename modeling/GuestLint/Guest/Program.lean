import GuestLint.Number.Double
/-!
# Guest programs

A guest's code as short lists of steps. There is no interpreter for a scripting language here: the
bodies of modules, the listeners of streams and the functions that a program passes around are
built from the few forms below.

* `Literal`: a value as a program writes it.
* `Step`: one line of a module's body.
* `StreamStep`: one use of a stream.
-/
namespace GuestLint.Guest

inductive Literal where
  | undefined
  | null
  | boolean (b : Bool)
  | number (x : Double)
  | big (n : Int)
  | text (s : String)
  | symbol (description : String)
  | list (items : List Literal)
  /-- A plain object with its properties in order. -/
  | record (fields : List (String × Literal))
  /-- An error with a message, a name unless it is the usual one, a stack, and properties. -/
  | error (message : String) (name : Option String) (stack : Literal)
      (properties : List (String × Literal))
  /-- A function that does nothing and can be used as a constructor. -/
  | function (name : String)
  /-- A function that logs its calls, and then may throw. -/
  | probe (label : String) (failure : Option String)
  /-- A function that calls its last argument with an error and a value. -/
  | callbackStyle (error value : Literal) (times : Nat)
  /-- A value that was stored under a name. -/
  | stored (name : String)
  | bytes (content : List UInt8)
  | byteStore (content : List UInt8)
  | buffer (content : List UInt8)
  /-- An object that holds itself. -/
  | circular
  /-- An object whose conversion to text throws. -/
  | unprintable (message : String)
  /-- An empty object without a parent. -/
  | bare
  | global
  deriving Inhabited

/-- How a promise comes to an end, and after how many turns of the job queue beside the first. -/
inductive Settling where
  | resolve (value : Literal) (after : Nat)
  | reject (reason : Literal) (after : Nat)
  | never
  /-- Never settles and always has another job queued. -/
  | spin

/-- What a bundle's formatter returns. -/
inductive Formatter where
  /-- The results as JSON. -/
  | results
  /-- The other arguments, as JSON of one violation. -/
  | arguments
  | throws (message : String)
  | constant (value : Literal)

/-- What a driver script completes with. -/
inductive Completion where
  | value (value : Literal)
  /-- The names that were bound for the run, as JSON of one violation. -/
  | bindings
  /-- The names of what the bundle exports, as JSON of one violation. -/
  | exports
  | promise (settling : Settling)
  /-- The bundle's results, formatted once they are there. -/
  | formattedResults

/-- One line of a module or of a driver script. -/
inductive Step where
  | idle
  | set (key : String) (value : Literal)
  | replace (value : Literal)
  | require (name : String) (key : Option String)
  /-- Requires a module and notes the exception when there is one. -/
  | tryRequire (name : String)
  | note (value : Literal)
  /-- Notes what the module knows of itself. -/
  | describe
  | throw (value : Literal)
  | throwError (name message : String)
  /-- Throws in the first runs that are counted under a key. -/
  | failFirst (key : String) (times : Nat) (message : String)
  | loop
  | lint (settling : Settling)
  | format (formatter : Formatter)
  /-- Exports the linter of two checks. -/
  | sampleLinter
  | complete (completion : Completion)

/-- The body of a module. -/
abbrev Script := List Step

/-- One use of a stream, or a step of a stream's consumer. -/
inductive StreamStep where
  | create (stream : String) (type : String)
  | push (stream : String) (chunk : Literal)
  | write (stream : String) (chunk : Literal)
  | finish (stream : String)
  /-- Registers a value as a listener. -/
  | listen (stream method : String) (event listener : Literal)
  /-- Registers a listener that logs its calls. In its first `times` runs it then runs steps and
  may throw. -/
  | follow (stream method : String) (event : Literal) (label : String) (times : Nat)
      (steps : List StreamStep) (failure : Option String)
  /-- Sets what consumes the writes of a stream. -/
  | consume (stream : String) (consumer : Literal)
  | consumeBy (stream : String) (steps : List StreamStep)
  /-- Calls a callback that was kept. -/
  | callKept (name : String) (args : List Literal)
  /-- In a consumer: pushes the chunk that is being written. -/
  | forward
  /-- In a consumer: calls the callback of the write. -/
  | callback (args : List Literal)
  /-- In a consumer: keeps the callback of the write under a name. -/
  | defer (name : String)
  | throw (message : String)
  deriving Inhabited

end GuestLint.Guest

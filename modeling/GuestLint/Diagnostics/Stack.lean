import GuestLint.Text.Basic
/-!
# Stack frames

A guest exception carries a stack as text, one call a line: `at f (file:line:column)`, with the
column, the line and the function name optional and `native` in place of a file for calls without
source. A file name may hold colons and a function name may hold parentheses, so a line is cut
from its right end.
-/
namespace GuestLint.Diagnostics

/-- The name under which the guest's `require` is evaluated. -/
def requireFile : String := "node:internal/require"

/-- The native function that loads a module for `require`. -/
def loaderFunction : String := "load"

structure StackFrame where
  function : String
  /-- Absent for calls without source. -/
  file : Option String
  line : Option Nat
  column : Option Nat
  deriving Repr, DecidableEq

namespace StackFrame

def isNative (f : StackFrame) : Bool :=
  f.file.isNone

/-- Whether the frame belongs to `require` or to the function that loads for it. -/
def isModuleLoader (f : StackFrame) : Bool :=
  match f.file with
  | some file => file == requireFile
  | none => f.function == loaderFunction

end StackFrame

/-- A position in a source: a numeral that fits 64 bits. -/
def position? (text : List Char) : Option Nat :=
  let n := Text.numeralValue text
  if n < Nat.pow 2 64 then some n else none

/-- Cuts at the last blank that an opening parenthesis follows. -/
def cutLastOpen : List Char → Option (List Char × List Char)
  | [] => none
  | c :: rest =>
    match cutLastOpen rest with
    | some (before, after) => some (c :: before, after)
    | none =>
      match c, rest with
      | ' ', '(' :: after => some ([], after)
      | _, _ => none

/-- The file, the line and the column of a location. -/
def readLocation (location : List Char) : String × Option Nat × Option Nat :=
  match Text.cutLast ':' location with
  | none => (String.ofList location, none, none)
  | some (rest, last) =>
    if Text.isNumeral last then
      match Text.cutLast ':' rest with
      | some (file, middle) =>
        if Text.isNumeral middle then (String.ofList file, position? middle, position? last)
        else (String.ofList rest, position? last, none)
      | none => (String.ofList rest, position? last, none)
    else (String.ofList location, none, none)

/-- The function and the location of a line behind its `at `. -/
def splitCall (call : List Char) : List Char × List Char :=
  match cutLastOpen call, Text.stripEnd? [')'] call with
  | some (function, location), some _ => (function, location.dropLast)
  | _, _ => ("<anonymous>".toList, call)

/-- The frame that a line of a stack shows, if it shows one. -/
def readFrame (line : List Char) : Option StackFrame :=
  match Text.strip? "at ".toList (Text.trim line) with
  | none => none
  | some call =>
    let (function, location) := splitCall call
    if location = "native".toList then some ⟨String.ofList function, none, none, none⟩
    else
      let (file, line, column) := readLocation location
      some ⟨String.ofList function, some file, line, column⟩

/-- The frames of a stack, in order. Lines that show none are skipped. -/
def readStack (stack : String) : List StackFrame :=
  (Text.lines stack.toList).filterMap readFrame

end GuestLint.Diagnostics

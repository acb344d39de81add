import GuestLint.Json.Document
import GuestLint.Json.Parser
/-!
# Lint reports

A report is the list of violations that a run found. It is read from and written as JSON.

* `Report.decode`: reads a report. A violation may leave out its source, its path may hold numbers
  besides names, and members that no field takes are skipped.
* `Report.compact`, `Report.pretty`: the written forms.
-/
namespace GuestLint.Lint

/-- How bad a violation is. A code without a name of its own is kept. -/
inductive Severity where
  | error
  | warning
  | information
  | hint
  | other (code : Int)
  deriving Repr, DecidableEq

namespace Severity

def ofCode (code : Int) : Severity :=
  if code = 0 then error
  else if code = 1 then warning
  else if code = 2 then information
  else if code = 3 then hint
  else other code

def code : Severity → Int
  | error => 0
  | warning => 1
  | information => 2
  | hint => 3
  | other code => code

/-- The word shown for a severity. -/
def word : Severity → String
  | error => "error"
  | warning => "warning"
  | information => "info"
  | hint => "hint"
  | other _ => "unknown"

def isError (s : Severity) : Bool :=
  s == error

end Severity

/-- A place in a document, counted from zero. -/
structure Position where
  line : UInt32
  character : UInt32
  deriving Repr, DecidableEq

structure Range where
  start : Position
  «end» : Position
  deriving Repr, DecidableEq

structure Violation where
  /-- The document; empty for problems of the ruleset. -/
  source : String
  code : String
  /-- The way to the offending node, with array indices as decimal texts. -/
  path : List String
  message : String
  severity : Severity
  range : Range
  deriving Repr, DecidableEq

abbrev Report := List Violation

/-- Whether a report holds an error. -/
def Report.hasErrors (report : Report) : Bool :=
  report.any fun v => v.severity.isError

/-! ## Reading -/

open Json (Parser Refusal)

/-- An unsigned integer of 32 bits. -/
def word32 : Parser UInt32 := fun rest => do
  let (n, rest) ← Json.integerOf "u32" 0 0xFFFFFFFF rest
  pure (UInt32.ofNat n.toNat, rest)

/-- A signed integer of 32 bits, as a severity. -/
def severityOf : Parser Severity := fun rest => do
  let (n, rest) ← Json.integerOf "i32" (-0x80000000) 0x7FFFFFFF rest
  pure (Severity.ofCode n, rest)

/-- The element of a record that is written as a list. -/
def listed {α : Type} (index : Nat) (expected : String) (item : Parser α) :
    Parser α := fun rest => do
  let (a, rest) ← Json.element (decide (index = 0)) item rest
  match a with
  | some a => pure (a, rest)
  | none => .error (.loose (.invalidLength index expected) rest)

/-- The fields of a position that have been read. -/
structure PositionFields where
  line : Option UInt32 := none
  character : Option UInt32 := none

def PositionFields.step (s : PositionFields) (key : String) : Parser PositionFields := fun rest =>
  match key with
  | "line" => do
    let (line, rest) ← Json.member "line" s.line word32 rest
    pure ({ s with line }, rest)
  | "character" => do
    let (character, rest) ← Json.member "character" s.character word32 rest
    pure ({ s with character }, rest)
  | _ => Json.ignoreMember s rest

/-- The position that its fields make up. -/
def PositionFields.finish (s : PositionFields) : Parser Position := fun rest => do
  let line ← Json.required "line" s.line rest
  let character ← Json.required "character" s.character rest
  pure (⟨line, character⟩, rest)

def positionOf : Nat → Parser Position :=
  Json.recordOf "Position"
    (fun _ rest => do
      let (line, rest) ← listed 0 "struct Position with 2 elements" word32 rest
      let (character, rest) ← listed 1 "struct Position with 2 elements" word32 rest
      pure (⟨line, character⟩, rest))
    (fun _ rest => do
      let (s, rest) ← Json.members PositionFields.step (rest.length + 1) true {} rest
      s.finish rest)

/-- The fields of a range that have been read. -/
structure RangeFields where
  start : Option Position := none
  «end» : Option Position := none

def RangeFields.step (depth : Nat) (s : RangeFields) (key : String) : Parser RangeFields :=
  fun rest =>
    match key with
    | "start" => do
      let (start, rest) ← Json.member "start" s.start (positionOf depth) rest
      pure ({ s with start }, rest)
    | "end" => do
      let («end», rest) ← Json.member "end" s.end (positionOf depth) rest
      pure ({ s with «end» }, rest)
    | _ => Json.ignoreMember s rest

/-- The range that its fields make up. -/
def RangeFields.finish (s : RangeFields) : Parser Range := fun rest => do
  let start ← Json.required "start" s.start rest
  let «end» ← Json.required "end" s.end rest
  pure (⟨start, «end»⟩, rest)

def rangeOf : Nat → Parser Range :=
  Json.recordOf "Range"
    (fun depth rest => do
      let (start, rest) ← listed 0 "struct Range with 2 elements" (positionOf depth) rest
      let («end», rest) ← listed 1 "struct Range with 2 elements" (positionOf depth) rest
      pure (⟨start, «end»⟩, rest))
    (fun depth rest => do
      let (s, rest) ← Json.members (RangeFields.step depth) (rest.length + 1) true {} rest
      s.finish rest)

/-- A step of a path: a name, or a number as its text. -/
def segmentOf (depth : Nat) : Parser String := fun rest => do
  let (shape, rest) ← Json.anyValue (rest.length + 1) depth rest
  match shape with
  | .string name => pure (name, rest)
  | .number n => pure (n.text, rest)
  | .other => .error (.loose (.noVariant "Segment") rest)

/-- The fields of a violation that have been read. -/
structure ViolationFields where
  source : Option String := none
  code : Option String := none
  path : Option (List String) := none
  message : Option String := none
  severity : Option Severity := none
  range : Option Range := none

def ViolationFields.step (depth : Nat) (s : ViolationFields) (key : String) :
    Parser ViolationFields := fun rest =>
  match key with
  | "source" => do
    let (source, rest) ← Json.member "source" s.source Json.stringOf rest
    pure ({ s with source }, rest)
  | "code" => do
    let (code, rest) ← Json.member "code" s.code Json.stringOf rest
    pure ({ s with code }, rest)
  | "path" => do
    let (path, rest) ← Json.member "path" s.path (Json.listOf segmentOf depth) rest
    pure ({ s with path }, rest)
  | "message" => do
    let (message, rest) ← Json.member "message" s.message Json.stringOf rest
    pure ({ s with message }, rest)
  | "severity" => do
    let (severity, rest) ← Json.member "severity" s.severity severityOf rest
    pure ({ s with severity }, rest)
  | "range" => do
    let (range, rest) ← Json.member "range" s.range (rangeOf depth) rest
    pure ({ s with range }, rest)
  | _ => Json.ignoreMember s rest

/-- The violation that its fields make up. The source may be missing. -/
def ViolationFields.finish (s : ViolationFields) : Parser Violation := fun rest => do
  let code ← Json.required "code" s.code rest
  let path ← Json.required "path" s.path rest
  let message ← Json.required "message" s.message rest
  let severity ← Json.required "severity" s.severity rest
  let range ← Json.required "range" s.range rest
  pure (⟨s.source.getD "", code, path, message, severity, range⟩, rest)

def violationOf : Nat → Parser Violation :=
  let expected := "struct Violation with 6 elements"
  Json.recordOf "Violation"
    (fun depth rest => do
      let (source, rest) ← Json.element true Json.stringOf rest
      let (code, rest) ← listed 1 expected Json.stringOf rest
      let (path, rest) ← listed 2 expected (Json.listOf segmentOf depth) rest
      let (message, rest) ← listed 3 expected Json.stringOf rest
      let (severity, rest) ← listed 4 expected severityOf rest
      let (range, rest) ← listed 5 expected (rangeOf depth) rest
      pure (⟨source.getD "", code, path, message, severity, range⟩, rest))
    (fun depth rest => do
      let (s, rest) ← Json.members (ViolationFields.step depth) (rest.length + 1) true {} rest
      s.finish rest)

/-- Reads a report. -/
def Report.decode (text : String) : Except Json.Error Report :=
  Json.decode (Json.listOf violationOf) text

/-! ## Writing -/

open Json (Document)

def Position.document (p : Position) : Document :=
  .object [("line", .integer (Int.ofNat p.line.toNat)),
    ("character", .integer (Int.ofNat p.character.toNat))]

def Range.document (r : Range) : Document :=
  .object [("start", r.start.document), ("end", r.end.document)]

def Violation.document (v : Violation) : Document :=
  .object [("source", .string v.source), ("code", .string v.code),
    ("path", .array (v.path.map .string)), ("message", .string v.message),
    ("severity", .integer v.severity.code), ("range", v.range.document)]

def Report.document (report : Report) : Document :=
  .array (report.map Violation.document)

def Report.compact (report : Report) : String :=
  Json.compact report.document

def Report.pretty (report : Report) : String :=
  Json.pretty report.document

end GuestLint.Lint

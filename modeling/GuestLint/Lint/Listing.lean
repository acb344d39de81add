import GuestLint.Lint.Report
/-!
# Reports as text

A report as a listing for people: one group for each source in the order of the sources' bytes, one
line for each violation with its place counted from one, and a summary. The lines are printed one
after another; the first one that has a place which cannot be counted ends the listing, and what
stands in front of it stays printed.
-/
namespace GuestLint.Lint

/-- What ends a listing halfway. -/
inductive ListingError where
  /-- A place that cannot be counted from one in 32 bits, behind what was printed before it. -/
  | positionOverflow (printed : String)
  deriving Repr, DecidableEq

def ListingError.message : ListingError → String
  | .positionOverflow _ => "attempt to add with overflow"

/-- What was printed before the listing ended. -/
def ListingError.printed : ListingError → String
  | .positionOverflow printed => printed

/-- A number counted from one, when it still fits 32 bits. -/
def ordinal (n : UInt32) : Option Nat :=
  if n.toNat + 1 < Nat.pow 2 32 then some (n.toNat + 1) else none

/-- The line of a violation, unless its place cannot be counted. -/
def Violation.line (v : Violation) : Option String := do
  let line ← ordinal v.range.start.line
  let character ← ordinal v.range.start.character
  pure ("  " ++ toString line ++ ":" ++ toString character ++ " " ++ v.severity.word ++ " " ++
    v.code ++ " " ++ v.message ++ " (" ++ String.intercalate "." v.path ++ ")")

/-- Puts a source into a list sorted by bytes, once. -/
def insertSource (source : String) : List String → List String
  | [] => [source]
  | s :: rest =>
    if source = s then s :: rest
    else if source < s then source :: s :: rest
    else s :: insertSource source rest

/-- The sources of a report, each once, in the order of their bytes. -/
def Report.sources (report : Report) : List String :=
  report.foldl (fun sources v => insertSource v.source sources) []

/-- The violations of one source, in the order of the report. -/
def Report.ofSource (report : Report) (source : String) : List Violation :=
  report.filter fun v => v.source = source

/-- The headline of a group. -/
def headline (source : String) : String :=
  if source = "" then "<ruleset>:" else source ++ ":"

/-- The lines of one group: a blank one, the headline and the violations. -/
def Report.group (report : Report) (source : String) : List (Option String) :=
  some "" :: some (headline source) :: (report.ofSource source).map Violation.line

def Report.errorCount (report : Report) : Nat :=
  (report.filter fun v => v.severity = .error).length

/-- The last line of a listing. -/
def Report.summary (report : Report) : String :=
  "Found " ++ toString report.length ++ " problems (" ++ toString report.errorCount ++
    " errors, " ++ toString (report.length - report.errorCount) ++ " other)"

/-- The lines of a listing. -/
def Report.listing (report : Report) : List (Option String) :=
  report.sources.flatMap report.group ++ [some "", some report.summary]

/-- Prints lines behind what was printed, each with a line feed, up to the first one that cannot be
made. -/
def printLines (printed : String) : List (Option String) → Except ListingError String
  | [] => .ok printed
  | some line :: rest => printLines (printed ++ line ++ "\n") rest
  | none :: _ => .error (.positionOverflow printed)

/-- The forms in which a report is shown. -/
inductive OutputFormat where
  | text
  | json
  deriving Repr, DecidableEq

/-- The text that shows a report: every line ends in a line feed. -/
def Report.shown (report : Report) (format : OutputFormat) : Except ListingError String :=
  match format with
  | .text => printLines "" report.listing
  | .json => .ok (report.pretty ++ "\n")

end GuestLint.Lint

import GuestLint.Text.Basic
/-!
# Lexical paths

Slash separated paths as texts. Nothing here looks at a file system.

* `clean`: the shortest spelling of a path. Repeated separators collapse, `.` vanishes and `..`
  consumes the name before it, is absorbed at a root and accumulates elsewhere.
* `join`, `resolve`: concatenation, where `resolve` restarts at the last rooted segment.
* `dirname`, `basename`, `extname`: the pieces of a path.
* `relative`: a path from one place to another, or the reason why none exists.
-/
namespace GuestLint.Path

/-- Whether a path is rooted. -/
def isAbsolute (path : String) : Bool :=
  path.toList.head? == some '/'

/-- The segments between the separators of a path, in order, empty ones included. -/
def segments (path : String) : List String :=
  (path.toList.splitOn '/').map String.ofList

/-- Puts a separator between neighbouring segments. -/
def unsegment (parts : List String) : String :=
  String.intercalate "/" parts

/-- Takes one more segment into a cleaned path, held as a stack with the last name on top. -/
def step (rooted : Bool) (stack : List String) (part : String) : List String :=
  if part = "" ∨ part = "." then stack
  else if part = ".." then
    match stack with
    | top :: below => if top = ".." then ".." :: stack else below
    | [] => if rooted then [] else [".."]
  else part :: stack

/-- The segments of a cleaned path: names, behind the leading `..` of a path without a root. -/
def reduce (rooted : Bool) (parts : List String) : List String :=
  (parts.foldl (step rooted) []).reverse

/-- Writes a cleaned path. The empty one is `/` with a root and `.` without. -/
def render (rooted : Bool) (parts : List String) : String :=
  if rooted then "/" ++ unsegment parts
  else if parts.isEmpty then "."
  else unsegment parts

/-- The shortest spelling of a path. -/
def clean (path : String) : String :=
  render (isAbsolute path) (reduce (isAbsolute path) (segments path))

/-- Joins the segments that are not empty and cleans the result. -/
def join (parts : List String) : String :=
  let joined := unsegment (parts.filter (· ≠ ""))
  if joined = "" then "." else clean joined

/-- The segments from the last rooted one on, given in reverse; all of them when none is rooted. -/
def fromLastRoot : List String → List String
  | [] => []
  | part :: before => if isAbsolute part then [part] else part :: fromLastRoot before

/-- Resolves segments from right to left until a root is met. Without a root the result stays
relative. -/
def resolve (parts : List String) : String :=
  join (fromLastRoot (parts.reverse.filter (· ≠ ""))).reverse

/-- The directory part of a path. -/
def dirname (path : String) : String :=
  if path = "" then "."
  else
    match Text.trimEndOf '/' path.toList with
    | [] => "/"
    | trimmed =>
      match Text.cutLast '/' trimmed with
      | none => "."
      | some (dir, _) =>
        match Text.trimEndOf '/' dir with
        | [] => "/"
        | dir => String.ofList dir

/-- The last element of a path, with separators at the end ignored. -/
def lastElement (path : List Char) : List Char :=
  let trimmed := Text.trimEndOf '/' path
  match Text.cutLast '/' trimmed with
  | some (_, base) => base
  | none => trimmed

/-- The last element of a path, without the given ending. An ending that is the whole element
stays. -/
def basename (path : String) (ending : Option String) : String :=
  let base := lastElement path.toList
  match ending with
  | none => String.ofList base
  | some ending =>
    if ending = "" ∨ ending.toList = base then String.ofList base
    else String.ofList ((Text.stripEnd? ending.toList base).getD base)

/-- The ending of the last element from its last dot on. A dot in front starts no ending. -/
def extname (path : String) : String :=
  match Text.cutLast '.' (lastElement path.toList) with
  | none => ""
  | some ([], _) => ""
  | some (_, ending) => String.ofList ('.' :: ending)

/-- The names of a cleaned path. -/
def components (cleaned : String) : List String :=
  (segments cleaned).filter fun part => part ≠ "" ∧ part ≠ "."

/-- How many elements two lists share at their starts. -/
def sharedLength : List String → List String → Nat
  | a :: as, b :: bs => if a = b then sharedLength as bs + 1 else 0
  | _, _ => 0

/-- No relative path leads from `base` to `target`: one of them alone is rooted, or `base` climbs
out of a place that `target` shares. -/
structure NotRelative where
  base : String
  target : String
  deriving Repr, DecidableEq

/-- The text of the failure. -/
def NotRelative.message (e : NotRelative) : String :=
  "cannot make '" ++ e.target ++ "' relative to '" ++ e.base ++ "'"

/-- The way from `base` to `target`, by their spelling alone. -/
def relative (base target : String) : Except NotRelative String :=
  let fromPath := clean base
  let toPath := clean target
  if fromPath = toPath then .ok "."
  else if isAbsolute fromPath ≠ isAbsolute toPath then .error ⟨base, target⟩
  else
    let fromParts := components fromPath
    let toParts := components toPath
    let shared := sharedLength fromParts toParts
    let climbs := fromParts.drop shared
    if climbs.contains ".." then .error ⟨base, target⟩
    else .ok (unsegment (climbs.map (fun _ => "..") ++ toParts.drop shared))

end GuestLint.Path

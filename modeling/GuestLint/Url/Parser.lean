import GuestLint.Url.Basic
/-!
# Reading URLs

`parse` reads a URL, alone or relative to another one. Paths are brought into their shortest
spelling while they are read: `.` vanishes and `..` removes the segment before it, both also when
they are written with encoded dots. In `file` URLs a drive letter at the start of a path stays.
-/
namespace GuestLint.Url

def isSlash (c : Char) : Bool := c == '/' || c == '\\'

def isLetter (c : Char) : Bool := c.isAlpha

/-- What is left of an input: no controls or blanks around it, no tabs and line ends in it. -/
def tidy (input : String) : List Char :=
  let bare (c : Char) : Bool := c.toNat ≤ 0x20
  let inner := ((input.toList.dropWhile bare).reverse.dropWhile bare).reverse
  inner.filter fun c => c != '\t' && c != '\n' && c != '\r'

/-- Reads a scheme and its colon. -/
def scheme? (input : List Char) : Option (List Char × List Char) :=
  match input with
  | c :: _ =>
    if isLetter c then
      let name := input.takeWhile fun c => c.isAlphanum || c == '+' || c == '-' || c == '.'
      match input.drop name.length with
      | ':' :: rest => some (Text.asciiLower name, rest)
      | _ => none
    else none
  | [] => none

/-! ## Paths -/

/-- A letter and a colon, as a whole segment. -/
def isDrive (segment : List Char) : Bool :=
  match segment with
  | [a, b] => isLetter a && b == ':'
  | _ => false

/-- A letter and a colon or a bar, as a whole segment. -/
def isDriveLike (segment : List Char) : Bool :=
  match segment with
  | [a, b] => isLetter a && (b == ':' || b == '|')
  | _ => false

def endsSegment (c : Char) : Bool :=
  isSlash c || c == '?' || c == '#'

/-- Whether a text starts with a drive letter that is a whole segment. -/
def startsWithDrive (text : List Char) : Bool :=
  match text with
  | [a, b] => isLetter a && (b == ':' || b == '|')
  | a :: b :: c :: _ => isLetter a && (b == ':' || b == '|') && endsSegment c
  | _ => false

/-- The part of a path up to its last separator, with it. -/
def upToLastSlash (path : List Char) : List Char :=
  (path.reverse.dropWhile (· != '/')).reverse

/-- What follows the last separator. -/
def afterLastSlash (path : List Char) : List Char :=
  (path.reverse.takeWhile (· != '/')).reverse

/-- Removes the last segment of a path; a drive letter in a `file` URL stays. -/
def popPath (file : Bool) (path : List Char) : List Char :=
  if path.isEmpty then []
  else if file && isDrive (afterLastSlash path) then path
  else upToLastSlash path

/-- Whether the separator at the end of a path is neither its root nor behind a drive letter. -/
def lastSlashIsIdle (path : List Char) : Bool :=
  let before := path.dropLast
  before.contains '/' && !startsWithDrive (afterLastSlash before ++ ['/'])

/-- Takes a segment of two dots back into the path before it, which ends in a separator. -/
def climb (file : Bool) (path : List Char) (slash : Bool) : List Char :=
  let path := if path.getLast? == some '/' && lastSlashIsIdle path then path.dropLast else path
  let path := popPath file path
  if slash && path.getLast? != some '/' then path ++ ['/'] else path

/-- The spelling of a segment with its encoded dots resolved. -/
def dotted (segment : List Char) : List Char :=
  match segment with
  | '%' :: '2' :: c :: rest =>
    if c = 'e' ∨ c = 'E' then '.' :: dotted rest else '%' :: '2' :: c :: rest
  | c :: rest => c :: dotted rest
  | [] => []

/-- Reads the characters of one segment and encodes them; gives the segment, whether a separator
closed it, and the rest. A segment that follows a bare drive letter starts behind a separator. -/
def segment (special : Bool) : List Char → List Char × Bool × List Char
  | [] => ([], false, [])
  | c :: rest =>
    if c = '/' ∨ (c = '\\' ∧ special = true) then ([], true, rest)
    else if c = '?' ∨ c = '#' then ([], false, c :: rest)
    else
      let (text, slash, rest) := segment special rest
      (encodeChar pathSet c ++ text, slash, rest)

/-- What a segment leaves of the input is shorter when a separator closed it. -/
theorem segment_shorter (special : Bool) (input : List Char)
    (h : (segment special input).2.1 = true) :
    (segment special input).2.2.length < input.length := by
  induction input with
  | nil => simp [segment] at h
  | cons c rest ih =>
    simp only [segment] at h ⊢
    split at h
    · rename_i h1
      simp [h1]
    · rename_i h1
      split at h
      · simp at h
      · rename_i h2
        rw [if_neg h1, if_neg h2]
        exact Nat.lt_succ_of_lt (ih h)

/-- Takes one segment into a path. -/
def addSegment (file : Bool) (path text : List Char) (slash : Bool) : List Char :=
  let path :=
    if file && isDrive (path.drop 1) && !text.isEmpty then path ++ ['/'] else path
  let ending := if slash then ['/'] else []
  if dotted text = ['.', '.'] then climb file path slash
  else if dotted text = ['.'] then if path.getLast? == some '/' then path else path ++ ['/']
  else if file && path.length == 1 && isDriveLike text then
    path ++ text.take 1 ++ [':'] ++ ending
  else path ++ text ++ ending

/-- Reads segments into a path until the path ends. -/
def segments (file special : Bool) (path input : List Char) : List Char × List Char :=
  let next := segment special input
  let path := addSegment file path next.1 next.2.1
  if _ : next.2.1 = true then segments file special path next.2.2 else (path, next.2.2)
termination_by input.length
decreasing_by exact segment_shorter special input ‹_›

/-- Reads a path behind the path `start`. A `file` path has one separator in front. -/
def readPath (scheme start input : List Char) : List Char × List Char :=
  let file := scheme == "file".toList
  let (path, rest) := segments file (isSpecial scheme) start input
  if file then ('/' :: path.dropWhile (· == '/'), rest) else (path, rest)

/-- Reads a path that follows a host. -/
def readPathStart (scheme input : List Char) : List Char × List Char :=
  match input with
  | c :: rest =>
    if isSpecial scheme then
      readPath scheme ['/'] (if isSlash c then rest else input)
    else if c = '?' ∨ c = '#' then ([], input)
    else readPath scheme (if c = '/' then [] else ['/']) input
  | [] => readPath scheme (if isSpecial scheme then ['/'] else []) []

/-! ## Query and fragment -/

/-- Reads the query and the fragment behind a path. -/
def withTail (u : Url) (input : List Char) : Url :=
  let set := if isSpecial u.scheme then specialQuerySet else querySet
  let fragment (rest : List Char) : Option (List Char) :=
    match rest with
    | '#' :: text => some (percentEncode fragmentSet text)
    | _ => none
  match input with
  | '?' :: rest =>
    { u with
      query := some (percentEncode set (rest.takeWhile (· != '#')))
      fragment := fragment (rest.dropWhile (· != '#')) }
  | rest => { u with query := none, fragment := fragment rest }

/-! ## Authority -/

def endsAuthority (special : Bool) (c : Char) : Bool :=
  c == '/' || c == '?' || c == '#' || (special && c == '\\')

/-- Splits a name and a password in front of the last `@` off an authority. -/
def readCredentials (special : Bool) (input : List Char) :
    Option (List Char × List Char × List Char) :=
  let region := input.takeWhile fun c => !endsAuthority special c
  match Text.cutLast '@' region with
  | none => some ([], [], input)
  | some (credentials, _) =>
    let rest := input.drop (credentials.length + 1)
    if credentials.isEmpty then
      match rest with
      | c :: _ => if endsAuthority special c then none else some ([], [], rest)
      | [] => some ([], [], rest)
    else
      match Text.cutFirst ':' credentials with
      | none => some (percentEncode userinfoSet credentials, [], rest)
      | some (name, password) =>
        some (percentEncode userinfoSet name, percentEncode userinfoSet password, rest)

/-- Splits a host off an input: up to a colon outside brackets, or the end of the authority. -/
def splitHost (special inside : Bool) : List Char → List Char × List Char
  | [] => ([], [])
  | c :: rest =>
    if (c == ':' && !inside) || endsAuthority special c then ([], c :: rest)
    else
      let inside := if c = '[' then true else if c = ']' then false else inside
      let (host, rest) := splitHost special inside rest
      (c :: host, rest)

/-- Reads a port behind its colon. The usual port of a scheme counts as none. -/
def readPort (scheme input : List Char) : Option (Option Nat × List Char) :=
  let digits := input.takeWhile Char.isDigit
  let rest := input.drop digits.length
  let ended := match rest with | c :: _ => endsSegment c | [] => true
  let port := Text.numeralValue digits
  if !ended || 65535 < port then none
  else if digits.isEmpty || defaultPort scheme == some port then some (none, rest)
  else some (some port, rest)

/-- Reads a URL behind `//`. -/
def afterSlashes (scheme input : List Char) : Option Url := do
  let special := isSpecial scheme
  let (username, password, rest) ← readCredentials special input
  let (hostText, rest) := splitHost special false rest
  let host ← if special then Host.read? hostText else Host.readOpaque? hostText
  let missing := host == .domain []
  if missing && (special || rest.head? == some ':') then none
  else
    let (port, rest) ←
      match rest with
      | ':' :: rest => readPort scheme rest
      | rest => some (none, rest)
    let authority : Authority :=
      { username, password, host := if missing then none else some host, port }
    if missing && !authority.credentials.isEmpty then none
    else
      let (path, rest) := readPathStart scheme rest
      pure (withTail { scheme, authority := some authority, path } rest)

/-! ## Relative URLs -/

/-- The URL without its query and fragment, with another path. -/
def withPath (u : Url) (path : List Char) : Url :=
  { u with path, query := none, fragment := none }

/-- A fragment put on a base. -/
def withFragment (base : Url) (text : List Char) : Url :=
  { base with fragment := some (percentEncode fragmentSet text) }

/-- Reads a reference to another place of the base's host. -/
def readRelative (scheme : List Char) (base : Url) (input : List Char) : Option Url :=
  match input with
  | [] => some { base with fragment := none }
  | '?' :: _ => some (withTail base input)
  | '#' :: text => some (withFragment base text)
  | c :: rest =>
    if isSlash c then
      match rest with
      | d :: tail =>
        if isSlash d then
          afterSlashes base.scheme (if c = '/' ∧ d = '/' then tail else input.dropWhile isSlash)
        else
          let (path, rest) := readPath scheme ['/'] rest
          some (withTail (withPath base path) rest)
      | [] =>
        let (path, rest) := readPath scheme ['/'] rest
        some (withTail (withPath base path) rest)
    else
      let start := popPath false base.path
      let start := if start.isEmpty then ['/'] else start
      let (path, rest) := readPath scheme start input
      some (withTail (withPath base path) rest)

def fileScheme : List Char := "file".toList

/-- A `file` URL from a path that starts at the root. -/
def fileFrom (authority : Authority) (start input : List Char) : Url :=
  let (path, rest) := readPath fileScheme start input
  withTail { scheme := fileScheme, authority := some authority, path } rest

/-- Reads the host of a `file` URL and what follows it. -/
def readFileHost (input : List Char) : Option Url :=
  let text := input.takeWhile fun c => !endsSegment c
  let rest := input.drop text.length
  if isDriveLike text then some (fileFrom {} ['/'] input)
  else if text.isEmpty then some (fileFrom {} ['/'] rest)
  else
    match Host.read? text with
    | none => none
    | some host =>
      if host = .domain "localhost".toList then some (fileFrom {} ['/'] rest)
      else
        let (path, tail) := readPathStart fileScheme rest
        -- a drive letter behind a host leaves no room for the host
        let segment := path.drop 1 |>.takeWhile (· != '/')
        let host := if isDrive segment then none else some host
        some (withTail { scheme := fileScheme, authority := some { host }, path } tail)

/-- Reads a `file` URL behind its scheme, or a reference relative to one. -/
def readFile (base : Option Url) (input : List Char) : Option Url :=
  let fromRoot := some (fileFrom {} ['/'] input)
  match input with
  | c :: rest =>
    if isSlash c then
      match rest with
      | d :: tail => if isSlash d then readFileHost tail else some (underRoot rest)
      | [] => some (underRoot rest)
    else
      match base with
      | none => fromRoot
      | some base =>
        if c = '?' then some (withTail base input)
        else if c = '#' then some (withFragment base rest)
        else if startsWithDrive input then fromRoot
        else
          let (path, rest) := readPath fileScheme (popPath true base.path) input
          some (withTail (withPath base path) rest)
  | [] =>
    match base with
    | some base => some { base with fragment := none }
    | none => fromRoot
where
  /-- A path behind a single separator keeps the drive letter or the host of the base. -/
  underRoot (rest : List Char) : Url :=
    match base with
    | some base =>
      if startsWithDrive rest then fileFrom {} [] input
      else
        let drive := base.path.drop 1 |>.takeWhile (· != '/')
        if isDrive drive then fileFrom {} ('/' :: drive) input
        else fileFrom { host := base.authority.bind (·.host) } [] input
    | none => fileFrom {} [] input

/-- Reads a URL behind a scheme that is neither special nor `file`. -/
def readOther (scheme input : List Char) : Option Url :=
  match Text.strip? ['/', '/'] input with
  | some rest => afterSlashes scheme rest
  | none =>
    match input with
    | '/' :: rest =>
      let (path, rest) := readPath scheme ['/'] rest
      some (withTail { scheme, path } rest)
    | _ =>
      let text := input.takeWhile fun c => c != '?' && c != '#'
      some (withTail { scheme, path := percentEncode controls text } (input.drop text.length))

/-- Reads a URL, or a reference relative to a base. -/
def parse (base : Option Url) (input : String) : Option Url :=
  let input := tidy input
  match scheme? input with
  | some (scheme, rest) =>
    if scheme = fileScheme then readFile (base.filter isFile) rest
    else if isSpecial scheme then
      let slashes := (rest.takeWhile isSlash).length
      match base with
      | some base =>
        if slashes < 2 ∧ base.scheme = scheme then readRelative scheme base rest
        else afterSlashes scheme (rest.drop slashes)
      | none => afterSlashes scheme (rest.drop slashes)
    else readOther scheme rest
  | none =>
    match base with
    | none => none
    | some base =>
      match input with
      | '#' :: text => some (withFragment base text)
      | _ =>
        if base.isOpaque then none
        else if base.isFile then readFile (some base) input
        else readRelative base.scheme base input

/-- Who a URL belongs to, when its scheme tells: scheme, host and port. -/
def tupleOrigin (u : Url) : Option (List Char) :=
  if (defaultPort u.scheme).isSome then some (u.scheme ++ "://".toList ++ u.host) else none

/-- The written origin. A `blob` URL belongs to whom the URL in its path belongs to. -/
def origin (u : Url) : List Char :=
  let answer :=
    if u.scheme = "blob".toList then (parse none (String.ofList u.path)).bind tupleOrigin
    else tupleOrigin u
  answer.getD "null".toList

end GuestLint.Url

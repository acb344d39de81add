import GuestLint.Number.Reader
/-!
# The linter of two checks

A linter that is small enough to be built in. It reads its rules from the lines of a ruleset and
knows two of them, both of which look at the lines of a document: whether the `info` section names
a contact, and whether each tag has a description.
-/
namespace GuestLint.Lint.Sample

open Number (isGuestBlank)

structure Rule where
  code : String
  severity : Nat
  deriving Repr, DecidableEq

/-- A fault that a check found. `path` ends in a number for an element of a list. -/
structure Finding where
  rule : Rule
  section_ : String
  index : Option Nat
  message : String
  line : Nat
  first : Nat
  last : Nat
  deriving Repr, DecidableEq

/-- Lines without their line feeds. -/
def linesOf (text : String) : List (List Char) :=
  text.toList.splitOn '\n'

/-- The severities that a rule can be set to; `off` is none. -/
def levels : List (String × Option Nat) :=
  [("error", some 0), ("warn", some 1), ("info", some 2), ("hint", some 3), ("off", none)]

def isRuleChar (c : Char) : Bool :=
  c.isAlphanum || c == '_' || c == '-'

def dropBlanks (text : List Char) : List Char :=
  text.dropWhile isGuestBlank

/-- The text behind exactly two blanks. -/
def behindTwoBlanks : List Char → Option (List Char)
  | a :: b :: rest => if isGuestBlank a && isGuestBlank b then some rest else none
  | _ => none

/-- The rule that a line of a ruleset sets: a name indented by two blanks, a colon, a severity. -/
def rule? (line : List Char) : Option Rule := do
  let rest ← behindTwoBlanks line
  let name := rest.takeWhile isRuleChar
  if name.isEmpty then none
  else
    match rest.dropWhile isRuleChar with
    | ':' :: level =>
      let word := (dropBlanks (dropBlanks level).reverse).reverse
      let severity ← levels.lookup (String.ofList word)
      severity.map fun s => ⟨String.ofList name, s⟩
    | _ => none

/-- The rules that a ruleset switches on. -/
def rulesOf (ruleset : String) : List Rule :=
  (linesOf ruleset).filterMap rule?

def startsWith (start : String) (line : List Char) : Bool :=
  (Text.strip? start.toList line).isSome

/-- Whether a line starts with a word behind one or more blanks. -/
def indented (start : String) (line : List Char) : Bool :=
  (line.head?.map isGuestBlank).getD false && startsWith start (dropBlanks line)

/-- The `info` section has to name a contact. -/
def contactFindings (rule : Rule) (lines : List (List Char)) : List Finding :=
  match lines.findIdx? (startsWith "info:") with
  | none => []
  | some line =>
    if lines.any (indented "contact:") then []
    else [⟨rule, "info", none, "Info object must have \"contact\" object.", line, 0, 5⟩]

/-- The tags of a section from its first line on, with the number of the line. -/
def tagFindings (rule : Rule) (line index : Nat) : List (List Char) → List Finding
  | [] => []
  | l :: rest =>
    if (l.head?.map isGuestBlank).getD false then
      if indented "- name:" l then
        let others := tagFindings rule (line + 1) (index + 1) rest
        if indented "description:" (rest.head?.getD []) then others
        else
          ⟨rule, "tags", some index, "Tag object must have \"description\".", line, 4,
            Text.unitCount l⟩ :: others
      else tagFindings rule (line + 1) index rest
    else []

/-- Each tag has to have a description in the line behind its name. -/
def descriptionFindings (rule : Rule) (lines : List (List Char)) : List Finding :=
  match lines.findIdx? (startsWith "tags:") with
  | none => []
  | some line => tagFindings rule (line + 1) 0 (lines.drop (line + 1))

/-- What the rules find in a document, rule by rule. Unknown rules find nothing. -/
def findings (rules : List Rule) (document : String) : List Finding :=
  let lines := linesOf document
  rules.flatMap fun rule =>
    if rule.code = "info-contact" then contactFindings rule lines
    else if rule.code = "tag-description" then descriptionFindings rule lines
    else []

end GuestLint.Lint.Sample

import GuestLint.Text.Basic
/-!
# Message templates

A template is literal text with directives such as `%s` or `%d`, each of which takes one argument.
`%%` is a percent sign, and a percent sign in front of anything else stands for itself.

* `pieces`: the template as literal characters and directives.
* `fill`: puts each argument into its directive, in order; a directive without an argument is
  shown as it was written, and arguments without a directive follow after a blank each.

Arguments are rendered in any monad, because to show a guest's value may run the guest.
-/
namespace GuestLint.Text

/-- How a directive renders its argument. -/
inductive Directive where
  /-- `%s`, `%o` and `%O`: the way values are shown. -/
  | shown
  /-- `%d` and `%f`: as a number. -/
  | number
  /-- `%i`: the integer part of a number. -/
  | integer
  /-- `%j`: as JSON. -/
  | json
  /-- `%c`: taken and left out. -/
  | styling
  deriving Repr, DecidableEq

/-- The directive that a letter behind a percent sign stands for. -/
def Directive.ofLetter? (letter : Char) : Option Directive :=
  if letter = 's' ∨ letter = 'o' ∨ letter = 'O' then some .shown
  else if letter = 'd' ∨ letter = 'f' then some .number
  else if letter = 'i' then some .integer
  else if letter = 'j' then some .json
  else if letter = 'c' then some .styling
  else none

inductive Piece where
  | literal (c : Char)
  | directive (letter : Char) (kind : Directive)
  deriving Repr, DecidableEq

def pieces : List Char → List Piece
  | [] => []
  | [c] => [.literal c]
  | c :: d :: rest =>
    if c = '%' then
      if d = '%' then .literal '%' :: pieces rest
      else
        match Directive.ofLetter? d with
        | some kind => .directive d kind :: pieces rest
        | none => .literal '%' :: pieces (d :: rest)
    else .literal c :: pieces (d :: rest)

variable {m : Type → Type} [Monad m] {α : Type}

/-- Arguments that no directive took, each after a blank. -/
def trailing (view : α → m String) : List α → m String
  | [] => pure ""
  | a :: rest => do
    let shown ← view a
    let others ← trailing view rest
    pure (" " ++ shown ++ others)

/-- Fills the pieces of a template in with arguments. `render` is what a directive does. -/
def fill (render : Directive → α → m String) (view : α → m String) :
    List Piece → List α → m String
  | [], args => trailing view args
  | .literal c :: rest, args => do
    let others ← fill render view rest args
    pure (String.singleton c ++ others)
  | .directive letter _ :: rest, [] => do
    let others ← fill render view rest []
    pure (String.ofList ['%', letter] ++ others)
  | .directive _ kind :: rest, a :: args => do
    let shown ← render kind a
    let others ← fill render view rest args
    pure (shown ++ others)

end GuestLint.Text

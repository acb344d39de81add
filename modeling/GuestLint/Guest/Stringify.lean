import GuestLint.Guest.Convert
import GuestLint.Json.Document
/-!
# Guest values as JSON

The JSON text of a value, for which an object may stand in for itself with its `toJSON` method.
Functions, symbols and `undefined` have none. An object that holds itself is refused.
-/
namespace GuestLint.Guest

variable (call : Call)

/-- How deep values may be nested. -/
def maxNesting : Nat := 400

def overflow {α : Type} : Machine α :=
  raise "RangeError" "Maximum call stack size exceeded"

/-- What stands in for a value: the answer of its `toJSON` method when it has one. -/
def standIn (key : String) (v : Value) : Machine Value := do
  match v with
  | .object _ =>
    let method ← getProperty v "toJSON"
    if (← heap).isFunction method then call method v [.text key] else pure v
  | _ => pure v

/-- Puts elements between brackets, with commas. -/
def bracketed (opening closing : Char) (items : List (List Char)) : List Char :=
  opening :: ([','].intercalate items ++ [closing])

/-- The JSON text of a property's value; `path` holds the objects around it. -/
def jsonChars : (fuel : Nat) → (path : List Ref) → (key : String) → Value →
    Machine (Option (List Char))
  | 0, _, _, _ => overflow
  | fuel + 1, path, key, v => do
    match ← standIn call key v with
    | .undefined | .symbol .. => pure none
    | .null => pure (some "null".toList)
    | .boolean b => pure (some (if b then "true" else "false").toList)
    | .text s => pure (some (Json.quote s))
    | .number x => pure (some (if x.truncated.isSome then Number.guestText x else "null").toList)
    | .big _ => raise "TypeError" "bigint are forbidden in JSON.stringify"
    | .object r =>
      if (← heap).isFunction (.object r) then pure none
      else if path.contains r then raise "TypeError" "circular reference"
      else
        match (← heap).list? (.object r) with
        | some items =>
          let texts ← items.zipIdx.mapM fun (item, i) => do
            let text ← jsonChars fuel (r :: path) (String.ofList (Text.digits 10 i)) item
            pure (text.getD "null".toList)
          pure (some (bracketed '[' ']' texts))
        | none =>
          let texts ← ((← heap).at_ r).ownNames.mapM fun name => do
            let text ← jsonChars fuel (r :: path) name (← getProperty (.object r) name)
            pure (text.map fun t => Json.quote name ++ ':' :: t)
          pure (some (bracketed Json.openBrace Json.closeBrace (texts.filterMap id)))

/-- The JSON text of a value. -/
def stringify (v : Value) : Machine (Option String) := do
  pure ((← jsonChars call maxNesting [] "" v).map String.ofList)

end GuestLint.Guest

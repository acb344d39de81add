import GuestLint.Guest.Machine
/-!
# Conversions

How values become texts and numbers, and how functions take their arguments. A conversion of an
object runs the object's own methods, so every conversion takes the `Call`.

* `toText`, `toNumber`: the conversions that operators apply.
* `shownText`: the conversion that never fails on a symbol.
* `textArg`, `functionArg`, `objectArg`: an argument that is not of the type asked for is refused
  with a `TypeError`.
-/
namespace GuestLint.Guest

variable (call : Call)

/-- The first primitive value that one of an object's methods answers. -/
def primitiveBy (v : Value) : List String → Machine Value
  | [] => raise "TypeError" "toPrimitive"
  | name :: rest => do
    let method ← getProperty v name
    if (← heap).isFunction method then
      match ← call method v [] with
      | .object _ => primitiveBy v rest
      | primitive => pure primitive
    else primitiveBy v rest

/-- The text of a value. -/
def toText (v : Value) : Machine String := do
  let primitive ← match v with
    | .object _ => primitiveBy call v ["toString", "valueOf"]
    | _ => pure v
  match primitive with
  | .undefined => pure "undefined"
  | .null => pure "null"
  | .boolean b => pure (if b then "true" else "false")
  | .number x => pure (Number.guestText x)
  | .big n => pure (integerText n)
  | .text s => pure s
  | .symbol .. => raise "TypeError" "cannot convert symbol to string"
  | .object _ => raise "TypeError" "toPrimitive"

/-- The text that shows a value, symbols included. -/
def shownText (v : Value) : Machine String :=
  match v with
  | .symbol _ description => pure ("Symbol(" ++ description ++ ")")
  | _ => toText call v

def toNumber (v : Value) : Machine Double := do
  let primitive ← match v with
    | .object _ => primitiveBy call v ["valueOf", "toString"]
    | _ => pure v
  match primitive with
  | .undefined => pure .nan
  | .null => pure (.zero false)
  | .boolean b => pure (.ofInt (if b then 1 else 0))
  | .number x => pure x
  | .text s => pure ((Number.readNumber s).getD .nan)
  | .big _ => raise "TypeError" "cannot convert BigInt to number"
  | .symbol .. => raise "TypeError" "cannot convert symbol to number"
  | .object _ => raise "TypeError" "toPrimitive"

/-- The integer part of a value as a number; what is no number counts as zero. -/
def toInteger (v : Value) : Machine Int := do
  pure (← toNumber call v).toInt64

/-- The length that an object with numbered elements reports. -/
def lengthOf (v : Value) : Machine Nat := do
  pure (← toInteger call (← getProperty v "length")).toNat

/-- The elements of a list, or of an object that looks like one. -/
def elementsOf (v : Value) : Machine (List Value) := do
  match (← heap).list? v with
  | some items => pure items
  | none =>
    let n ← lengthOf call v
    (List.range n).mapM fun i => getProperty v (String.ofList (Text.digits 10 i))

/-- The elements of a list as text, with a separator between them; absent ones are empty. -/
def joinElements (v : Value) (separator : String) : Machine String := do
  let texts ← (← elementsOf call v).mapM fun item =>
    if item.isAbsent then pure "" else toText call item
  pure (separator.intercalate texts)

/-- The text of an object that has no better one. -/
def objectText (h : Heap) (v : Value) : String :=
  let tag := match v with
    | .undefined => "Undefined"
    | .null => "Null"
    | .boolean _ => "Boolean"
    | .number _ => "Number"
    | .big _ => "BigInt"
    | .text _ => "String"
    | .symbol .. => "Symbol"
    | .object r =>
      if r = Place.global then "global"
      else
        match (h.at_ r).kind with
        | .plain => "Object"
        | .list _ => "Array"
        | .error => "Error"
        | .function _ => "Function"
        | .byteStore _ => "ArrayBuffer"
        | .bytes .. => "Uint8Array"
        | .promise _ => "Promise"
  "[object " ++ tag ++ "]"

/-- The text of an error: its name and its message. -/
def errorText (v : Value) : Machine String := do
  let part (name missing : String) : Machine String := do
    match ← getProperty v name with
    | .undefined => pure missing
    | value => toText call value
  let name ← part "name" "Error"
  let message ← part "message" ""
  pure (if name = "" then message else if message = "" then name else name ++ ": " ++ message)

/-! ## Arguments -/

/-- The arguments of a call, of which the first `required` must be given. -/
def requireArgs (required : Nat) (args : List Value) : Machine Unit :=
  if args.length < required then
    raise "TypeError" ("Error calling function with " ++ toString args.length ++
      " argument(s) while " ++ toString required ++ " where expected")
  else pure ()

/-- Refuses a value that is not of a wanted type. -/
def refuse {α : Type} (v : Value) (wanted : String) : Machine α := do
  raise "TypeError"
    ("Error converting from js '" ++ (← heap).kindWord v ++ "' into type '" ++ wanted ++ "'")

def textArg (v : Value) : Machine String :=
  match v with
  | .text s => pure s
  | _ => refuse v "string"

def functionArg (v : Value) : Machine Value := do
  if (← heap).isFunction v then pure v else refuse v "function"

def objectArg (v : Value) : Machine Ref :=
  match v with
  | .object r => pure r
  | _ => refuse v "object"

/-- The argument at a place; one that is not given is `undefined`. -/
def argAt (args : List Value) (i : Nat) : Value :=
  args.getD i .undefined

end GuestLint.Guest

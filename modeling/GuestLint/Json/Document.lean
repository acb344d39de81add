import GuestLint.Text.Basic
/-!
# JSON documents and their written forms

A document is what can be written: `compact` leaves no blanks, `pretty` puts each element on a line
of its own, indented by two blanks a level. Numbers are kept as their text.
-/
namespace GuestLint.Json

inductive Document where
  | null
  | boolean (value : Bool)
  | number (text : String)
  | string (value : String)
  | array (items : List Document)
  | object (fields : List (String × Document))

/-- A character inside a JSON string: quotes, backslashes and controls are escaped, all else stands
for itself. -/
def escapeChar (c : Char) : List Char :=
  if c = '"' then ['\\', '"']
  else if c = '\\' then ['\\', '\\']
  else if c = Char.ofNat 8 then ['\\', 'b']
  else if c = Char.ofNat 12 then ['\\', 'f']
  else if c = '\n' then ['\\', 'n']
  else if c = '\r' then ['\\', 'r']
  else if c = '\t' then ['\\', 't']
  else if c.toNat < 32 then
    ['\\', 'u', '0', '0', Text.hexDigit (c.toNat / 16), Text.hexDigit (c.toNat % 16)]
  else [c]

/-- A JSON string. -/
def quote (text : String) : List Char :=
  '"' :: (text.toList.flatMap escapeChar ++ ['"'])

/-- How elements are set apart. -/
structure Style where
  /-- What precedes an element at a nesting depth, and the closing bracket of a list. -/
  lineBreak : Nat → List Char
  /-- What stands between a key and its value. -/
  colon : List Char

def compactStyle : Style := ⟨fun _ => [], [':']⟩

def prettyStyle : Style := ⟨fun depth => '\n' :: List.replicate (2 * depth) ' ', [':', ' ']⟩

def openBrace : Char := Char.ofNat 0x7B

def closeBrace : Char := Char.ofNat 0x7D

mutual

/-- A document at a nesting depth. -/
def write (style : Style) (depth : Nat) : Document → List Char
  | .null => "null".toList
  | .boolean value => if value then "true".toList else "false".toList
  | .number text => text.toList
  | .string value => quote value
  | .array [] => ['[', ']']
  | .array (item :: items) =>
    '[' :: (style.lineBreak (depth + 1) ++ write style (depth + 1) item ++
      writeItems style depth items ++ style.lineBreak depth ++ [']'])
  | .object [] => [openBrace, closeBrace]
  | .object ((key, value) :: fields) =>
    openBrace :: (style.lineBreak (depth + 1) ++ quote key ++ style.colon ++
      write style (depth + 1) value ++ writeFields style depth fields ++ style.lineBreak depth ++
      [closeBrace])

/-- The elements of an array behind the first. -/
def writeItems (style : Style) (depth : Nat) : List Document → List Char
  | [] => []
  | item :: items =>
    ',' :: (style.lineBreak (depth + 1) ++ write style (depth + 1) item ++
      writeItems style depth items)

/-- The fields of an object behind the first. -/
def writeFields (style : Style) (depth : Nat) : List (String × Document) → List Char
  | [] => []
  | (key, value) :: fields =>
    ',' :: (style.lineBreak (depth + 1) ++ quote key ++ style.colon ++
      write style (depth + 1) value ++ writeFields style depth fields)

end

def compact (d : Document) : String :=
  String.ofList (write compactStyle 0 d)

def pretty (d : Document) : String :=
  String.ofList (write prettyStyle 0 d)

/-- An integer. -/
def Document.integer (n : Int) : Document :=
  .number (toString n)

end GuestLint.Json

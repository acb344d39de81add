import GuestLint.Text.Quoted
import GuestLint.Bytes.Utf8
import GuestLint.Number.Notation
/-!
# Reading JSON

A parser takes the characters that are left and gives a value with the characters behind it. What
it does not accept it refuses at a place, counted in bytes from the end of the text, so that the
same parser serves at any position.

Two kinds of refusal are told apart. Most carry their place. A refusal that concerns a whole record
or list (a missing field, say) is `loose`: its place is where the enclosing brackets have been
read, and `inBrackets` fixes it there.

* `integerOf`, `stringOf`: values of one type.
* `listOf`, `members`, `element`: lists and records.
* `anyValue`, `ignoreValue`: values of any shape, kept or skipped.
-/
namespace GuestLint.Json

/-- What was found where another type was expected. -/
inductive Found where
  | null
  | boolean (value : Bool)
  | integer (value : Int)
  | float (value : Double)
  | string (value : String)
  | sequence
  | map
  deriving Repr, DecidableEq

def Found.describe : Found → String
  | null => "null"
  | boolean value => "boolean \x60" ++ toString value ++ "\x60"
  | integer value => "integer \x60" ++ toString value ++ "\x60"
  | float value => "floating point \x60" ++ Number.write Number.jsonLayout value ++ "\x60"
  | string value => "string " ++ Text.quoted value
  | sequence => "sequence"
  | map => "map"

/-- Why a text is refused. -/
inductive Reason where
  | endInValue
  | endInList
  | endInObject
  | endInString
  | expectedValue
  | expectedIdent
  | expectedListEnd
  | expectedObjectEnd
  | expectedColon
  | trailingComma
  | trailingCharacters
  | keyNotString
  | invalidEscape
  | unfinishedHexEscape
  | loneSurrogate
  | controlCharacter
  | invalidNumber
  | numberOutOfRange
  | nestedTooDeeply
  | invalidType (found : Found) (expected : String)
  | invalidValue (value : Int) (expected : String)
  | invalidLength (length : Nat) (expected : String)
  | missingField (name : String)
  | unknownField (name : String) (known : List String)
  | duplicateField (name : String)
  | noVariant (type : String)
  deriving Repr, DecidableEq

/-- A name between grave accents. -/
def ticked (name : String) : String :=
  "\x60" ++ name ++ "\x60"

def Reason.message : Reason → String
  | endInValue => "EOF while parsing a value"
  | endInList => "EOF while parsing a list"
  | endInObject => "EOF while parsing an object"
  | endInString => "EOF while parsing a string"
  | expectedValue => "expected value"
  | expectedIdent => "expected ident"
  | expectedListEnd => "expected \x60,\x60 or \x60]\x60"
  | expectedObjectEnd => "expected \x60,\x60 or \x60\x7d\x60"
  | expectedColon => "expected \x60:\x60"
  | trailingComma => "trailing comma"
  | trailingCharacters => "trailing characters"
  | keyNotString => "key must be a string"
  | invalidEscape => "invalid escape"
  | unfinishedHexEscape => "unexpected end of hex escape"
  | loneSurrogate => "lone leading surrogate in hex escape"
  | controlCharacter => "control character (\\u0000-\\u001F) found while parsing a string"
  | invalidNumber => "invalid number"
  | numberOutOfRange => "number out of range"
  | nestedTooDeeply => "recursion limit exceeded"
  | invalidType found expected => "invalid type: " ++ found.describe ++ ", expected " ++ expected
  | invalidValue value expected =>
    "invalid value: integer " ++ ticked (toString value) ++ ", expected " ++ expected
  | invalidLength length expected =>
    "invalid length " ++ toString length ++ ", expected " ++ expected
  | missingField name => "missing field " ++ ticked name
  | unknownField name known =>
    "unknown field " ++ ticked name ++ ", expected one of " ++
      String.intercalate ", " (known.map ticked)
  | duplicateField name => "duplicate field " ++ ticked name
  | noVariant type => "data did not match any variant of untagged enum " ++ type

inductive Refusal where
  /-- Refused at the place that has this many bytes behind it. -/
  | at_ (reason : Reason) (bytesLeft : Nat)
  /-- Refused without a place; the characters are what is left to read. -/
  | loose (reason : Reason) (rest : List Char)
  deriving Repr, DecidableEq

/-- A parser of values. -/
abbrev Parser (α : Type) := List Char → Except Refusal (α × List Char)

/-- Refuses at the start of what is left. -/
def refuse {α : Type} (reason : Reason) (rest : List Char) : Except Refusal α :=
  .error (.at_ reason (Text.byteCount rest))

/-- Refuses behind the next byte, if there is one. -/
def refuseNext {α : Type} (reason : Reason) (rest : List Char) : Except Refusal α :=
  .error (.at_ reason (Text.byteCount rest - 1))

def isSpace (c : Char) : Bool :=
  c == ' ' || c == '\n' || c == '\t' || c == '\r'

/-- Drops blanks and line ends. -/
def skipSpace (rest : List Char) : List Char :=
  rest.dropWhile isSpace

/-! ## Words, numbers and strings -/

/-- Reads the rest of a word whose first letter has been read. -/
def word : (expected : List Char) → Parser Unit
  | [], rest => .ok ((), rest)
  | _ :: _, [] => refuse .endInValue []
  | e :: expected, c :: rest =>
    if c = e then word expected rest else refuseNext .expectedIdent (c :: rest)

/-- A number as it is told apart from others: an integer of 64 bits, or a double. -/
inductive Numeral where
  | unsigned (value : Nat)
  | signed (value : Int)
  | float (value : Double)
  deriving Repr, DecidableEq

def Numeral.found : Numeral → Found
  | unsigned value => .integer (Int.ofNat value)
  | signed value => .integer value
  | float value => .float value

/-- The text of a number. -/
def Numeral.text : Numeral → String
  | unsigned value => toString value
  | signed value => toString value
  | float value => Number.write Number.jsonLayout value

/-- The largest significand that is read digit by digit. -/
def maxSignificand : Nat := Nat.pow 2 64 - 1

/-- The largest exponent that is read digit by digit. -/
def maxExponent : Nat := Nat.pow 2 31 - 1

def digitValue (c : Char) : Nat :=
  c.toNat - '0'.toNat

/-- Takes digits into a significand as long as it fits; gives it, how many digits were taken, and
what is left. -/
def takeDigits (limit acc : Nat) (count : Nat) : List Char → Nat × Nat × List Char
  | [] => (acc, count, [])
  | c :: rest =>
    if c.isDigit ∧ acc * 10 + digitValue c ≤ limit then
      takeDigits limit (acc * 10 + digitValue c) (count + 1) rest
    else (acc, count, c :: rest)

def startsWithDigit (rest : List Char) : Bool :=
  match rest with
  | c :: _ => c.isDigit
  | [] => false

/-- Scales a rounded significand by a power of ten, in steps of at most `1e308`; `none` when the
number grows too large. -/
def scaleBy : (steps : Nat) → Double → Int → Option Double
  | 0, f, _ => some f
  | steps + 1, f, exponent =>
    let power := Double.ofDecimal false 1 (Int.ofNat exponent.natAbs)
    if exponent.natAbs ≤ 308 then
      if 0 ≤ exponent then
        let f := f.mul power
        if f = Double.infinity false then none else some f
      else some (f.div power)
    else if f = Double.zero false then some f
    else if 0 ≤ exponent then none
    else scaleBy steps (f.div (Double.ofDecimal false 1 308)) (exponent + 308)

/-- A double from its significand and its power of ten. -/
def floatOf (negative : Bool) (significand : Nat) (exponent : Int) : Parser Numeral := fun rest =>
  match scaleBy (exponent.natAbs / 308 + 1) (Double.ofInt (Int.ofNat significand)) exponent with
  | some f => .ok (.float (if negative then f.neg else f), rest)
  | none => refuse .numberOutOfRange rest

/-- Reads the sign of an exponent. -/
def exponentSign : List Char → Bool × List Char
  | '+' :: rest => (false, rest)
  | '-' :: rest => (true, rest)
  | rest => (false, rest)

/-- Reads an exponent behind its letter. -/
def exponentPart (negative : Bool) (significand : Nat) (start : Int) : Parser Numeral := fun rest =>
  let (down, rest) := exponentSign rest
  match rest with
  | [] => refuse .endInValue []
  | c :: tail =>
    if c.isDigit then
      let (e, _, tail) := takeDigits maxExponent (digitValue c) 1 tail
      if startsWithDigit tail then
        if significand ≠ 0 ∧ down = false then refuseNext .numberOutOfRange tail
        else
          .ok (.float (Double.zero negative), tail.dropWhile Char.isDigit)
      else
        floatOf negative significand (if down then start - Int.ofNat e else start + Int.ofNat e)
          tail
    else refuseNext .invalidNumber (c :: tail)

/-- Reads an exponent if one follows. -/
def exponentPart? (negative : Bool) (significand : Nat) (start : Int) :
    Parser Numeral := fun rest =>
  match rest with
  | c :: tail =>
    if c = 'e' ∨ c = 'E' then exponentPart negative significand start tail
    else floatOf negative significand start rest
  | [] => floatOf negative significand start rest

/-- Reads the digits behind a point. Digits that no longer fit the significand are dropped. -/
def fractionPart (negative : Bool) (significand : Nat) (start : Int) : Parser Numeral := fun rest =>
  let (significand, count, tail) := takeDigits maxSignificand significand 0 rest
  if startsWithDigit tail then
    exponentPart? negative significand (start - Int.ofNat count) (tail.dropWhile Char.isDigit)
  else if count = 0 then
    match tail with
    | [] => refuse .endInValue []
    | _ => refuseNext .invalidNumber tail
  else exponentPart? negative significand (start - Int.ofNat count) tail

/-- Reads what may follow the digits of an integer that fits. -/
def numberTail (negative : Bool) (significand : Nat) : Parser Numeral := fun rest =>
  match rest with
  | '.' :: tail => fractionPart negative significand 0 tail
  | 'e' :: tail => exponentPart negative significand 0 tail
  | 'E' :: tail => exponentPart negative significand 0 tail
  | rest =>
    if negative = false then .ok (.unsigned significand, rest)
    else if significand = 0 ∨ Nat.pow 2 63 < significand then
      .ok (.float (Double.ofInt (Int.ofNat significand)).neg, rest)
    else .ok (.signed (-Int.ofNat significand), rest)

/-- Reads a number whose sign has been read. -/
def unsignedNumber (negative : Bool) : Parser Numeral := fun rest =>
  match rest with
  | [] => refuse .endInValue []
  | '0' :: tail =>
    if startsWithDigit tail then refuseNext .invalidNumber tail else numberTail negative 0 tail
  | c :: tail =>
    if c.isDigit then
      let (significand, _, tail) := takeDigits maxSignificand (digitValue c) 1 tail
      if startsWithDigit tail then
        let extra := (tail.takeWhile Char.isDigit).length
        match tail.dropWhile Char.isDigit with
        | '.' :: tail => fractionPart negative significand (Int.ofNat extra) tail
        | tail => exponentPart? negative significand (Int.ofNat extra) tail
      else numberTail negative significand tail
    else refuseNext .invalidNumber (c :: tail)

/-- The value of four hexadecimal digits. -/
def hexEscape (a b c d : Char) : Option Nat := do
  let a ← Text.hexValue? a
  let b ← Text.hexValue? b
  let c ← Text.hexValue? c
  let d ← Text.hexValue? d
  pure (((a * 16 + b) * 16 + c) * 16 + d)

/-- Refuses what should be four hexadecimal digits. -/
def refuseHex {α : Type} (rest : List Char) : Except Refusal α :=
  if 4 ≤ Text.byteCount rest then .error (.at_ .invalidEscape (Text.byteCount rest - 4))
  else .error (.at_ .endInString 0)

/-- The character that a short escape stands for. -/
def shortEscape? (c : Char) : Option Char :=
  if c = '"' ∨ c = '\\' ∨ c = '/' then some c
  else if c = 'b' then some (Char.ofNat 8)
  else if c = 'f' then some (Char.ofNat 12)
  else if c = 'n' then some '\n'
  else if c = 'r' then some '\r'
  else if c = 't' then some '\t'
  else none

def isLeading (n : Nat) : Bool := 0xD800 ≤ n && n ≤ 0xDBFF

def isTrailing (n : Nat) : Bool := 0xDC00 ≤ n && n ≤ 0xDFFF

/-- Puts a character in front of a string that has been read. -/
def consTo (c : Char) :
    Except Refusal (List Char × List Char) → Except Refusal (List Char × List Char)
  | .ok (text, rest) => .ok (c :: text, rest)
  | .error e => .error e

/-- Reads a string behind its opening quote. -/
def stringBody : Parser (List Char)
  | [] => refuse .endInString []
  | '"' :: rest => .ok ([], rest)
  | '\\' :: 'u' :: a :: b :: c :: d :: rest =>
    match hexEscape a b c d with
    | none => refuseHex (a :: b :: c :: d :: rest)
    | some n =>
      if isTrailing n then refuse .loneSurrogate rest
      else if isLeading n then
        match rest with
        | '\\' :: 'u' :: e :: f :: g :: h :: rest =>
          match hexEscape e f g h with
          | none => refuseHex (e :: f :: g :: h :: rest)
          | some m =>
            if isTrailing m then
              consTo (Char.ofNat (0x10000 + (n - 0xD800) * 0x400 + (m - 0xDC00))) (stringBody rest)
            else refuse .loneSurrogate rest
        | '\\' :: 'u' :: rest => refuseHex rest
        | ['\\'] => refuse .endInString []
        | '\\' :: rest => refuseNext .unfinishedHexEscape rest
        | [] => refuse .endInString []
        | rest => refuseNext .unfinishedHexEscape rest
      else consTo (Char.ofNat n) (stringBody rest)
  | '\\' :: 'u' :: rest => refuseHex rest
  | ['\\'] => refuse .endInString []
  | '\\' :: c :: rest =>
    match shortEscape? c with
    | some e => consTo e (stringBody rest)
    | none => refuseNext .invalidEscape (c :: rest)
  | c :: rest =>
    if c.toNat < 32 then refuseNext .controlCharacter (c :: rest)
    else consTo c (stringBody rest)

/-- Skips a string behind its opening quote. Escapes are checked, but halves of a surrogate pair may
stand alone. -/
def skipString : Parser Unit
  | [] => refuse .endInString []
  | '"' :: rest => .ok ((), rest)
  | '\\' :: 'u' :: a :: b :: c :: d :: rest =>
    match hexEscape a b c d with
    | none => refuseHex (a :: b :: c :: d :: rest)
    | some _ => skipString rest
  | '\\' :: 'u' :: rest => refuseHex rest
  | ['\\'] => refuse .endInString []
  | '\\' :: c :: rest =>
    match shortEscape? c with
    | some _ => skipString rest
    | none => refuseNext .invalidEscape (c :: rest)
  | c :: rest => if c.toNat < 32 then refuse .controlCharacter (c :: rest) else skipString rest

/-! ## Values of one type -/

/-- Refuses a value of another type: words, numbers and strings are read first, brackets are not. -/
def refuseType {α : Type} (expected : String) (rest : List Char) : Except Refusal α := do
  let mismatch (found : Found) (rest : List Char) : Except Refusal α :=
    refuse (.invalidType found expected) rest
  match rest with
  | 'n' :: rest => let ((), rest) ← word "ull".toList rest; mismatch .null rest
  | 't' :: rest => let ((), rest) ← word "rue".toList rest; mismatch (.boolean true) rest
  | 'f' :: rest => let ((), rest) ← word "alse".toList rest; mismatch (.boolean false) rest
  | '-' :: rest => let (n, rest) ← unsignedNumber true rest; mismatch n.found rest
  | '"' :: rest => let (s, rest) ← stringBody rest; mismatch (.string (String.ofList s)) rest
  | '[' :: _ => mismatch .sequence rest
  | c :: _ =>
    if c.isDigit then
      let (n, rest) ← unsignedNumber false rest
      mismatch n.found rest
    else if c = Char.ofNat 0x7B then mismatch .map rest
    else refuseNext .expectedValue rest
  | [] => refuseNext .expectedValue rest

/-- A string. -/
def stringOf : Parser String := fun rest =>
  match skipSpace rest with
  | [] => refuse .endInValue []
  | '"' :: rest => do
    let (s, rest) ← stringBody rest
    pure (String.ofList s, rest)
  | rest => refuseType "a string" rest

/-- An integer between two bounds. -/
def integerOf (type : String) (low high : Int) : Parser Int := fun rest =>
  let check (n : Numeral) (rest : List Char) : Except Refusal (Int × List Char) :=
    let ranged (value : Int) : Except Refusal (Int × List Char) :=
      if low ≤ value ∧ value ≤ high then .ok (value, rest)
      else refuse (.invalidValue value type) rest
    match n with
    | .unsigned value => ranged (Int.ofNat value)
    | .signed value => ranged value
    | .float value => refuse (.invalidType (.float value) type) rest
  match skipSpace rest with
  | [] => refuse .endInValue []
  | '-' :: rest => do
    let (n, rest) ← unsignedNumber true rest
    check n rest
  | c :: rest =>
    if c.isDigit then do
      let (n, rest) ← unsignedNumber false (c :: rest)
      check n rest
    else refuseType type (c :: rest)

/-- `null`, or a value. -/
def nullable {α : Type} (value : Parser α) : Parser (Option α) := fun rest =>
  match skipSpace rest with
  | 'n' :: rest => do
    let ((), rest) ← word "ull".toList rest
    pure (none, rest)
  | rest => do
    let (a, rest) ← value rest
    pure (some a, rest)

/-! ## Lists and records -/

/-- Reads the bracket that closes a list. -/
def closeList (rest : List Char) : Except Refusal (List Char) :=
  match skipSpace rest with
  | [] => refuse .endInList []
  | ']' :: rest => .ok rest
  | ',' :: rest =>
    match skipSpace rest with
    | ']' :: rest => refuseNext .trailingComma (']' :: rest)
    | rest => refuseNext .trailingCharacters rest
  | rest => refuseNext .trailingCharacters rest

/-- Where reading stops when a list is closed early. -/
def afterList (rest : List Char) : List Char :=
  match skipSpace rest with
  | ']' :: rest => rest
  | ',' :: rest => skipSpace rest
  | rest => rest

/-- Reads the brace that closes a record. -/
def closeObject (rest : List Char) : Except Refusal (List Char) :=
  match skipSpace rest with
  | [] => refuse .endInObject []
  | c :: rest =>
    if c = Char.ofNat 0x7D then .ok rest
    else if c = ',' then refuseNext .trailingComma (c :: rest)
    else refuseNext .trailingCharacters (c :: rest)

/-- Where reading stops when a record is closed early. -/
def afterObject (rest : List Char) : List Char :=
  match skipSpace rest with
  | [] => []
  | c :: rest => if c = Char.ofNat 0x7D then rest else c :: rest

/-- Runs a parser between brackets, one level deeper, and gives a loose refusal its place. The
opening bracket is the first of `rest`. -/
def inBrackets {α : Type} (close : List Char → Except Refusal (List Char))
    (after : List Char → List Char) (depth : Nat) (body : Nat → Parser α) : Parser α := fun rest =>
  match depth with
  | 0 => refuseNext .nestedTooDeeply rest
  | 1 => refuseNext .nestedTooDeeply rest
  | depth + 1 =>
    match body depth (rest.drop 1) with
    | .error (.loose reason rest) => refuse reason (after rest)
    | .error e => .error e
    | .ok (a, rest) => (close rest).map fun rest => (a, rest)

/-- How deep lists and records may nest, plus one. -/
def maxDepth : Nat := 128

/-- Whether a list goes on. -/
def moreElements (first : Bool) (rest : List Char) : Except Refusal (Bool × List Char) :=
  match skipSpace rest with
  | [] => refuse .endInList []
  | ']' :: rest => .ok (false, ']' :: rest)
  | c :: rest =>
    if first then .ok (true, c :: rest)
    else if c = ',' then
      match skipSpace rest with
      | [] => refuse .endInValue []
      | ']' :: rest => refuseNext .trailingComma (']' :: rest)
      | rest => .ok (true, rest)
    else refuseNext .expectedListEnd (c :: rest)

/-- The next element of a list, if there is one. -/
def element {α : Type} (first : Bool) (item : Parser α) : Parser (Option α) := fun rest => do
  let (more, rest) ← moreElements first rest
  if more then
    let (a, rest) ← item rest
    pure (some a, rest)
  else pure (none, rest)

/-- The elements of a list up to its closing bracket. -/
def elements {α : Type} (item : Parser α) : (fuel : Nat) → (first : Bool) → Parser (List α)
  | 0, _, rest => .ok ([], rest)
  | fuel + 1, first, rest => do
    let (a, rest) ← element first item rest
    match a with
    | none => pure ([], rest)
    | some a =>
      let (more, rest) ← elements item fuel false rest
      pure (a :: more, rest)

/-- A list of values. -/
def listOf {α : Type} (item : Nat → Parser α) (depth : Nat) : Parser (List α) := fun rest =>
  match skipSpace rest with
  | [] => refuse .endInValue []
  | '[' :: rest =>
    inBrackets closeList afterList depth
      (fun depth rest => elements (item depth) (rest.length + 1) true rest) ('[' :: rest)
  | rest => refuseType "a sequence" rest

/-- Whether a record goes on with a key; the opening quote of the key has then been read. -/
def moreMembers (first : Bool) (rest : List Char) : Except Refusal (Bool × List Char) :=
  match skipSpace rest with
  | [] => refuse .endInObject []
  | c :: rest =>
    if c = Char.ofNat 0x7D then .ok (false, c :: rest)
    else if first then
      if c = '"' then .ok (true, rest) else refuseNext .keyNotString (c :: rest)
    else if c = ',' then
      match skipSpace rest with
      | [] => refuse .endInValue []
      | '"' :: rest => .ok (true, rest)
      | c :: rest =>
        if c = Char.ofNat 0x7D then refuseNext .trailingComma (c :: rest)
        else refuseNext .keyNotString (c :: rest)
    else refuseNext .expectedObjectEnd (c :: rest)

/-- Reads the colon behind a key. -/
def colon (rest : List Char) : Except Refusal (List Char) :=
  match skipSpace rest with
  | [] => refuse .endInObject []
  | ':' :: rest => .ok rest
  | rest => refuseNext .expectedColon rest

/-- The members of a record, each taken in by `step` for its key. -/
def members {σ : Type} (step : σ → String → Parser σ) :
    (fuel : Nat) → (first : Bool) → σ → Parser σ
  | 0, _, s, rest => .ok (s, rest)
  | fuel + 1, first, s, rest => do
    let (more, rest) ← moreMembers first rest
    if more then
      let (key, rest) ← stringBody rest
      let (s, rest) ← step s (String.ofList key) rest
      members step fuel false s rest
    else pure (s, rest)

/-- The value of a member, read into a field that must be empty so far. -/
def member {α : Type} (name : String) (old : Option α) (value : Parser α) : Parser (Option α) :=
  fun rest =>
    match old with
    | some _ => .error (.loose (.duplicateField name) rest)
    | none => do
      let rest ← colon rest
      let (a, rest) ← value rest
      pure (some a, rest)

/-- A field that a record must have. -/
def required {α : Type} (name : String) (field : Option α) (rest : List Char) : Except Refusal α :=
  match field with
  | some a => .ok a
  | none => .error (.loose (.missingField name) rest)

/-- A record, written with its field names or as the list of its fields. -/
def recordOf {α : Type} (name : String) (fromList fromMembers : Nat → Parser α) (depth : Nat) :
    Parser α := fun rest =>
  match skipSpace rest with
  | [] => refuse .endInValue []
  | '[' :: rest => inBrackets closeList afterList depth fromList ('[' :: rest)
  | c :: rest =>
    if c = Char.ofNat 0x7B then inBrackets closeObject afterObject depth fromMembers (c :: rest)
    else refuseType ("struct " ++ name) (c :: rest)

/-! ## Values of any shape -/

/-- What a value of any shape turned out to be. -/
inductive Shape where
  | string (value : String)
  | number (value : Numeral)
  | other
  deriving Repr, DecidableEq

/-- Reads a value of any shape. `fuel` is at least the number of characters left. -/
def anyValue : (fuel : Nat) → (depth : Nat) → Parser Shape
  | 0, _, rest => refuse .endInValue rest
  | fuel + 1, depth, rest =>
    match skipSpace rest with
    | [] => refuse .endInValue []
    | 'n' :: rest => do let ((), rest) ← word "ull".toList rest; pure (.other, rest)
    | 't' :: rest => do let ((), rest) ← word "rue".toList rest; pure (.other, rest)
    | 'f' :: rest => do let ((), rest) ← word "alse".toList rest; pure (.other, rest)
    | '-' :: rest => do let (n, rest) ← unsignedNumber true rest; pure (.number n, rest)
    | '"' :: rest => do
      let (s, rest) ← stringBody rest
      pure (.string (String.ofList s), rest)
    | '[' :: rest =>
      inBrackets closeList afterList depth
        (fun depth rest => do
          let (_, rest) ← elements (anyValue fuel depth) (rest.length + 1) true rest
          pure (.other, rest))
        ('[' :: rest)
    | c :: rest =>
      if c.isDigit then do
        let (n, rest) ← unsignedNumber false (c :: rest)
        pure (.number n, rest)
      else if c = Char.ofNat 0x7B then
        inBrackets closeObject afterObject depth
          (fun depth rest =>
            members
              (fun s _ rest => do
                let rest ← colon rest
                let (_, rest) ← anyValue fuel depth rest
                pure (s, rest))
              (rest.length + 1) true Shape.other rest)
          (c :: rest)
      else refuseNext .expectedValue (c :: rest)

/-- Skips the digits of an exponent behind its letter. -/
def skipExponent : Parser Unit := fun rest =>
  match (exponentSign rest).2 with
  | [] => refuse .invalidNumber []
  | c :: tail =>
    if c.isDigit then .ok ((), tail.dropWhile Char.isDigit)
    else refuseNext .invalidNumber (c :: tail)

def skipExponent? : Parser Unit := fun rest =>
  match rest with
  | 'e' :: tail => skipExponent tail
  | 'E' :: tail => skipExponent tail
  | rest => .ok ((), rest)

/-- Skips a number whose sign has been read, whatever its size. -/
def skipNumber : Parser Unit := fun rest =>
  let fraction (rest : List Char) : Except Refusal (Unit × List Char) :=
    match rest with
    | '.' :: tail =>
      if startsWithDigit tail then skipExponent? (tail.dropWhile Char.isDigit)
      else refuseNext .invalidNumber tail
    | rest => skipExponent? rest
  match rest with
  | [] => refuse .invalidNumber []
  | '0' :: tail => if startsWithDigit tail then refuseNext .invalidNumber tail else fraction tail
  | c :: tail =>
    if c.isDigit then fraction (tail.dropWhile Char.isDigit)
    else refuseNext .invalidNumber (c :: tail)

mutual

/-- Skips a value of any shape. `fuel` is at least twice the number of characters left, and two. -/
def ignoreValue : (fuel : Nat) → Parser Unit
  | 0, rest => refuse .endInValue rest
  | fuel + 1, rest =>
    match skipSpace rest with
    | [] => refuse .endInValue []
    | 'n' :: rest => word "ull".toList rest
    | 't' :: rest => word "rue".toList rest
    | 'f' :: rest => word "alse".toList rest
    | '-' :: rest => skipNumber rest
    | '"' :: rest => skipString rest
    | '[' :: rest => ignoreItems fuel true rest
    | c :: rest =>
      if c.isDigit then skipNumber (c :: rest)
      else if c = Char.ofNat 0x7B then ignoreMembers fuel true rest
      else refuseNext .expectedValue (c :: rest)

/-- Skips the elements of a list and its closing bracket. -/
def ignoreItems : (fuel : Nat) → (first : Bool) → Parser Unit
  | 0, _, rest => refuse .endInList rest
  | fuel + 1, first, rest =>
    match skipSpace rest with
    | [] => refuse .endInList []
    | ']' :: rest => .ok ((), rest)
    | c :: rest => do
      let rest ←
        if first then .ok (c :: rest)
        else if c = ',' then .ok rest
        else refuseNext .expectedListEnd (c :: rest)
      let ((), rest) ← ignoreValue fuel rest
      ignoreItems fuel false rest

/-- Skips the members of a record and its closing brace. -/
def ignoreMembers : (fuel : Nat) → (first : Bool) → Parser Unit
  | 0, _, rest => refuse .endInObject rest
  | fuel + 1, first, rest =>
    match skipSpace rest with
    | [] => refuse .endInObject []
    | c :: rest =>
      if c = Char.ofNat 0x7D then .ok ((), rest)
      else do
        let rest ←
          if first then .ok (c :: rest)
          else if c = ',' then .ok (skipSpace rest)
          else refuseNext .expectedObjectEnd (c :: rest)
        match rest with
        | '"' :: rest =>
          let ((), rest) ← skipString rest
          let rest ← colon rest
          let ((), rest) ← ignoreValue fuel rest
          ignoreMembers fuel false rest
        | [] => refuse .endInObject []
        | rest => refuseNext .keyNotString rest

end

/-- Skips the value of a member that no field takes. -/
def ignoreMember {σ : Type} (s : σ) : Parser σ := fun rest => do
  let rest ← colon rest
  let ((), rest) ← ignoreValue (2 * rest.length + 2) rest
  pure (s, rest)

/-! ## Whole texts -/

/-- A refusal with its place in the text: a line, and a column in bytes. -/
structure Error where
  reason : Reason
  line : Nat
  column : Nat
  deriving Repr, DecidableEq

def Error.message (e : Error) : String :=
  e.reason.message ++ " at line " ++ toString e.line ++ " column " ++ toString e.column

/-- The place behind a number of bytes of a text. -/
def Error.place (reason : Reason) (text : String) (bytesLeft : Nat) : Error :=
  let bytes := Utf8.encode text
  let read := bytes.take (bytes.length - bytesLeft)
  ⟨reason, read.count 10 + 1, (read.reverse.takeWhile (· != 10)).length⟩

/-- Reads a whole text. -/
def decode {α : Type} (value : Nat → Parser α) (text : String) : Except Error α :=
  let outcome := do
    let (a, rest) ← value maxDepth text.toList
    match skipSpace rest with
    | [] => pure a
    | rest => refuseNext .trailingCharacters rest
  match outcome with
  | .ok a => .ok a
  | .error (.at_ reason bytesLeft) => .error (Error.place reason text bytesLeft)
  | .error (.loose reason rest) => .error (Error.place reason text (Text.byteCount rest))

end GuestLint.Json

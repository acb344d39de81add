import GuestLint.Guest.Build
import GuestLint.Bytes.Block
import GuestLint.Bytes.Encoding
/-!
# Buffers for guests

The builtin module `buffer`: blocks of bytes that can be made from texts, lists and other blocks,
read back as text in several encodings, joined, compared and written into.
-/
namespace GuestLint.Builtin

open Guest

variable (call : Call)

/-- The largest size of a buffer. -/
def maxBufferLength : Nat := 0x7FFFFFFF

/-- Encodes a text in the encoding of a name. -/
def encodeText (text name : Value) : Machine Bytes := do
  let text ← textArg text
  let name ← textArg name
  match Encoding.ofName? name with
  | some e => pure (e.encode text)
  | none => raise "TypeError" ("Unknown encoding: " ++ name)

/-- Decodes bytes in the encoding of a name. -/
def decodeBytes (content : Bytes) (name : Value) : Machine String := do
  let name ← textArg name
  match Encoding.ofName? name with
  | some e => pure (e.decode content)
  | none => raise "TypeError" ("Unknown encoding: " ++ name)

/-- An argument, or something else when a condition takes it for false. -/
def orElse (v other : Value) : Value :=
  if v.isTruthy then v else other

/-- An encoding argument, which may be left out. -/
def encodingArg (v : Value) : Value := orElse v (.text "utf8")

/-- A value as a size or as a position in a block. -/
def toIndex (v : Value) : Machine Nat := do
  let n ← toInteger call v
  if n < 0 ∨ 0x20000000000000 ≤ n then raise "RangeError" "invalid array index" else pure n.toNat

/-- A new buffer that holds bytes of its own. -/
def newBuffer (content : Bytes) : Machine Value :=
  makeBytes content Place.bufferParent

/-- A new buffer of zeros. -/
def zeroBuffer (size : Nat) : Machine Value := do
  if maxBufferLength < size then raise "RangeError" "invalid array buffer length"
  newBuffer (List.replicate size 0)

/-- A new buffer of a list's elements, each taken as a byte. -/
def listBuffer (items : List Value) : Machine Value := do
  newBuffer (← items.mapM fun item => do pure (← toNumber call item).toByte)

/-- A new buffer that shares the bytes of a block. -/
def viewBuffer (store : Ref) (size : Nat) (offset length : Value) : Machine Value := do
  let first ← toIndex call offset
  if size < first then raise "RangeError" "invalid offset"
  let count ← match length with
    | .undefined => pure (size - first)
    | _ => do
      let n ← toIndex call length
      if size < first + n then raise "RangeError" "invalid length"
      pure n
  .object <$> allocate ⟨.bytes store first count, some Place.bufferParent, []⟩

/-- The block behind a value that is one, with its size. -/
def byteStore? (v : Value) : Machine (Option (Ref × Nat)) := do
  match v with
  | .object r =>
    match ((← heap).at_ r).kind with
    | .byteStore content => pure (some (r, content.length))
    | _ => pure none
  | _ => pure none

/-- What `new Buffer` makes of its arguments. -/
def constructBuffer (args : List Value) : Machine Value := do
  let first := argAt args 0
  match ← byteStore? first, first with
  | some (store, size), _ => viewBuffer call store size (argAt args 1) (argAt args 2)
  | none, .object _ => do listBuffer call (← elementsOf call first)
  | none, _ => do zeroBuffer (← toIndex call first)

/-- The list in the written form of a buffer. -/
def writtenForm? (v : Value) : Machine (Option Value) := do
  if v.isTruthy then
    let data ← getProperty v "data"
    if (← getProperty v "type") = .text "Buffer" ∧ ((← heap).list? data).isSome then
      pure (some data)
    else pure none
  else pure none

/-- A buffer of a text, a block, the written form of a buffer, or a list. -/
def bufferFrom (args : List Value) : Machine Value := do
  let value := argAt args 0
  match value with
  | .text _ => do newBuffer (← encodeText value (encodingArg (argAt args 1)))
  | .undefined | .null => getProperty value "Symbol.iterator"
  | _ =>
    match ← byteStore? value with
    | some (store, size) =>
      viewBuffer call store size (orElse (argAt args 1) (.ofNat 0)) (argAt args 2)
    | none =>
      match ← writtenForm? value with
      | some data => listBuffer call (← elementsOf call data)
      | none => listBuffer call (← elementsOf call value)

/-- The byte that a new buffer is filled with. -/
def fillByte (fill : Value) : Machine UInt8 := do
  match fill with
  | .text _ => pure ((← encodeText fill (.text "utf8")).head?.getD 0)
  | _ => pure (← toNumber call fill).toByte

/-- A buffer of a size, filled with a byte. -/
def allocBuffer (size fill : Value) : Machine Value := do
  let buffer ← constructBuffer call [size]
  if fill = .undefined then pure buffer
  else
    let b ← fillByte call fill
    let size ← lengthOf call buffer
    newBuffer (List.replicate size b)

/-- The bytes of a value that shows some. -/
def bytesArg (v : Value) : Machine Bytes := do
  match v with
  | .object r =>
    match (← heap).bytesOf r with
    | some content => pure content
    | none => raise "TypeError" "not a TypedArray"
  | _ => raise "TypeError" "not a TypedArray"

/-- The bytes of a part of a joined buffer. -/
def partBytes (v : Value) : Machine Bytes := do
  match v with
  | .object r =>
    match (← heap).bytesOf r with
    | some content => pure content
    | none => raise "TypeError" "not a function"
  | _ =>
    let _ ← getProperty v "subarray"
    raise "TypeError" "not a function"

/-- The parts that fill a size. A part is looked at only while there is room for it. -/
def partsFor (room : Nat) : List Value → Machine (List Bytes)
  | [] => pure []
  | part :: rest => do
    if room = 0 then pure []
    else
      let block ← partBytes part
      pure (block :: (← partsFor (room - block.length) rest))

/-- The lengths of parts added up, unless one of them has no length. -/
def sizeOfParts (parts : List Value) : Machine (Option Nat) := do
  let lengths ← parts.mapM fun part => getProperty part "length"
  pure (lengths.foldl
    (fun sum length =>
      match sum, length with
      | some n, .number x => x.integer?.map fun i => n + i.toNat
      | _, _ => none)
    (some 0))

/-- The failure of joining parts whose size is not known: the first part that is no buffer, or that
would start behind the empty block which an unknown size makes. -/
def refuseParts (offset : Nat) : List Value → Machine Unit
  | [] => pure ()
  | part :: rest => do
    let block ← partBytes part
    if offset ≠ 0 then raise "RangeError" "invalid offset"
    else refuseParts (offset + block.length) rest

/-- The values that a loop over a value meets. -/
def iterated (v : Value) : Machine (List Value) := do
  match v with
  | .text s => pure (s.toList.map fun c => .text c.toString)
  | .object r =>
    let h ← heap
    match h.list? v, h.bytesOf r with
    | some items, _ => pure items
    | none, some content => pure (content.map fun b => .ofNat b.toNat)
    | none, none => raise "TypeError" "value is not iterable"
  | _ =>
    let _ ← getProperty v "Symbol.iterator"
    raise "TypeError" "value is not iterable"

/-- The parts of a list that has a sum of its own: a list, or a buffer's bytes. -/
def summable (list : Value) : Machine (List Value) := do
  let parts : Option (List Value) ← do
    let h ← heap
    match h.list? list, list with
    | some items, _ => pure (some items)
    | none, .object r => pure ((h.bytesOf r).map (·.map fun b => .ofNat b.toNat))
    | none, _ => pure none
  match parts with
  | some parts => pure parts
  | none =>
    let _ ← getProperty list "reduce"
    raise "TypeError" "not a function"

/-- The buffers of a list one after another, cut or filled with zeros to a size. -/
def concatBuffers (list total : Value) : Machine Value := do
  let size : Option Nat ← match total with
    | .undefined => do sizeOfParts (← summable list)
    | _ => some <$> toIndex call total
  if maxBufferLength < size.getD 0 then raise "RangeError" "invalid array buffer length"
  let parts ← iterated list
  match size with
  | some size => do newBuffer (Block.join (← partsFor size parts) (some size))
  | none => do
    refuseParts 0 parts
    newBuffer []

/-- The text of the bytes between two positions. -/
def bufferText (content : Bytes) (args : List Value) : Machine String := do
  let position (v : Value) (missing : Nat) : Machine Int :=
    match v with
    | .undefined => pure (Int.ofNat missing)
    | _ => toInteger call v
  let start ← position (argAt args 1) 0
  let stop ← position (argAt args 2) content.length
  decodeBytes (Block.slice content start stop) (encodingArg (argAt args 0))

/-- Replaces the bytes that a view shows. -/
def replaceBytes (r : Ref) (content : Bytes) : Machine Unit := do
  match ((← heap).at_ r).kind with
  | .bytes store offset length =>
    modifyObject store fun o =>
      match o.kind with
      | .byteStore all =>
        let content := all.take offset ++ content.take length ++ all.drop (offset + length)
        { o with kind := .byteStore content }
      | _ => o
  | _ => pure ()

/-- How many bytes to write when the length is no integer: the smaller one of the number of bytes
and of the room. -/
def fractionalCount (encoded : Nat) (room : Double) : Double :=
  match room.view with
  | .infinite false => .ofInt (Int.ofNat encoded)
  | _ =>
    match room.truncated with
    | some n => if Int.ofNat encoded ≤ n then .ofInt (Int.ofNat encoded) else room
    | none => room

/-- Writes encoded text into a buffer, and answers how many bytes it asked for. -/
def writeBuffer (r : Ref) (content : Bytes) (args : List Value) : Machine Value := do
  let encoded ← encodeText (argAt args 0) (encodingArg (argAt args 3))
  let offset ← toNumber call (orElse (argAt args 1) (.ofNat 0))
  let length ← match argAt args 2 with
    | .undefined => pure none
    | v => some <$> toNumber call v
  let finish {α : Type} (result : Except Block.InvalidOffset α) : Machine α :=
    match result with
    | .ok a => pure a
    | .error e => raise "RangeError" e.message
  let whole : Bool := match length with
    | some n => n.integer?.isSome
    | none => true
  if offset.integer?.isSome ∧ whole then
    let (count, content) ← finish
      (Block.write content encoded offset.toInt64 (length.bind Double.integer?))
    replaceBytes r content
    pure (.ofInt count)
  else
    let room := length.getD (Double.sub (.ofInt (Int.ofNat content.length)) offset)
    let count := fractionalCount encoded.length room
    let taken := Block.slice encoded 0 (count.truncated.getD 0)
    replaceBytes r (← finish (Block.overwrite content taken offset.toInt64))
    pure (.number count)

/-- Whether another value has the same length and the same elements. -/
def equalsBuffer (content : Bytes) (other : Value) : Machine Bool := do
  let length ← getProperty other "length"
  if Value.same length (.ofNat content.length) then
    let elements ← (List.range content.length).mapM fun i =>
      getProperty other (String.ofList (Text.digits 10 i))
    pure ((content.zip elements).all fun (b, v) => Value.same (.ofNat b.toNat) v)
  else pure false

/-- Whether an encoding of a name is known. -/
def isKnownEncoding (v : Value) : Machine Bool := do
  match ← attempt (shownText call v) with
  | .ok name => pure (Encoding.ofName? name).isSome
  | .error _ => pure false

def runBuffer (f : BufferFunction) (this : Value) (args : List Value) : Machine Value := do
  let first := argAt args 0
  match f with
  | .construct => raise "TypeError" "class constructors must be invoked with 'new'"
  | .from => bufferFrom call args
  | .alloc => allocBuffer call first (argAt args 1)
  | .allocUnsafe => constructBuffer call [first]
  | .isBuffer =>
    match first with
    | .object r =>
      let h ← heap
      pure (.boolean (h.descends Place.bufferParent (h.size + 1) r))
    | _ => pure (.boolean false)
  | .isEncoding => .boolean <$> isKnownEncoding call first
  | .byteLength =>
    match first with
    | .text _ => do pure (.ofNat (← encodeText first (encodingArg (argAt args 1))).length)
    | _ => getProperty first "byteLength"
  | .concat => concatBuffers call first (argAt args 1)
  | .toString => .text <$> bufferText call (← bytesArg this) args
  | .toJSON =>
    let data ← makeList ((← bytesArg this).map fun b => .ofNat b.toNat)
    .object <$> makeRecord [("type", .text "Buffer"), ("data", data)]
  | .equals => .boolean <$> equalsBuffer (← bytesArg this) first
  | .write =>
    let content ← bytesArg this
    writeBuffer call (← objectArg this) content args

end GuestLint.Builtin

import GuestLint.Guest.Promise
/-!
# Literals

Makes the values that programs write down. Every evaluation of a literal makes new objects.
-/
namespace GuestLint.Guest

/-- A new view of a new block of bytes. -/
def makeBytes (content : Bytes) (parent : Ref) : Machine Value := do
  let store ← allocate ⟨.byteStore content, some Place.byteStoreParent, []⟩
  .object <$> allocate ⟨.bytes store 0 content.length, some parent, []⟩

/-- A function that does nothing and can be used as a constructor. -/
def makeIdle (name : String) : Machine Value := do
  .object <$> makeConstructor name .idle (← makeParent)

mutual

def Literal.build : Literal → Machine Value
  | .undefined => pure .undefined
  | .null => pure .null
  | .boolean b => pure (.boolean b)
  | .number x => pure (.number x)
  | .big n => pure (.big n)
  | .text s => pure (.text s)
  | .symbol description => modifyGet fun w =>
    (.symbol w.nextSymbol description, { w with nextSymbol := w.nextSymbol + 1 })
  | .list items => do makeList (← buildAll items)
  | .record fields => do
    let r ← makeRecord []
    setFields r fields
    pure (.object r)
  | .error message name stack properties => do
    let r ← makeError "Error" message
    if let some n := name then
      if n ≠ "Error" then assignHidden r "name" (.text n)
    assignHidden r "stack" (← stack.build)
    setFields r properties
    pure (.object r)
  | .function name => makeIdle name
  | .probe label failure => .object <$> makeFunction "" (.probe label failure)
  | .callbackStyle error value times => do
    let e ← error.build
    let v ← value.build
    .object <$> makeFunction "" (.callbackStyle e v times)
  | .stored name => storedValue name
  | .bytes content => makeBytes content Place.bytesParent
  | .byteStore content =>
    .object <$> allocate ⟨.byteStore content, some Place.byteStoreParent, []⟩
  | .buffer content => makeBytes content Place.bufferParent
  | .circular => do
    let r ← makeRecord [("a", .ofNat 1)]
    assign r "self" (.object r)
    pure (.object r)
  | .unprintable message => do
    let f ← makeFunction "toString" (.unprintable message)
    .object <$> makeRecord [("toString", .object f)]
  | .bare => .object <$> allocate {}
  | .global => pure (.object Place.global)

def buildAll : List Literal → Machine (List Value)
  | [] => pure []
  | item :: rest => do
    let v ← item.build
    pure (v :: (← buildAll rest))

def setFields (r : Ref) : List (String × Literal) → Machine Unit
  | [] => pure ()
  | (name, item) :: rest => do
    assign r name (← item.build)
    setFields r rest

end

/-- A promise that settles as it is told. -/
def Settling.build : Settling → Machine Value
  | .resolve value after => do
    let v ← value.build
    let r ← makePromise
    enqueue (.settleAfter after r v true)
    pure (.object r)
  | .reject reason after => do
    let v ← reason.build
    let r ← makePromise
    enqueue (.settleAfter after r v false)
    pure (.object r)
  | .never => .object <$> makePromise
  | .spin => do
    let r ← makePromise
    enqueue .spin
    pure (.object r)

end GuestLint.Guest

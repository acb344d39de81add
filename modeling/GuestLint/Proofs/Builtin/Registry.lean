import GuestLint.Builtin.Catalog
import GuestLint.Proofs.Guest.Registry

/-!
# The builtin modules and the registry

No function of a builtin module touches the registry, and loading a builtin module does not either;
what they call may. So each of them keeps what the functions that it calls keep.
-/
namespace GuestLint.Builtin

open Guest
open GuestLint.Stream (Channel Notice Seat Event)

variable {J : Registry → Prop} {α β γ : Type}

section
variable {call : Call} [∀ f this args, Keeps J (call f this args)]

/-! ## Paths, values and the surroundings -/

instance (f : PathFunction) (args : List Value) : Keeps J (runPath f args) := by
  cases f <;>
  · unfold runPath
    infer_instance

instance (v : Value) : Keeps J (jsonOrText call v) := by
  unfold jsonOrText
  refine Keeps.andThen inferInstance fun json => ?_
  split <;> infer_instance

instance (v : Value) (name : String) : Keeps J (textProperty? v name) := by
  unfold textProperty?
  refine Keeps.andThen inferInstance fun text => ?_
  split <;> infer_instance

instance (v : Value) : Keeps J (inspect call v) := by
  have hname : ∀ name : Option String, Keeps J (match name with
      | some name =>
        pure (if name = "" then "[Function (anonymous)]" else "[Function: " ++ name ++ "]")
      | none => pure "[Function (anonymous)]" : Machine String) := fun name => by
    cases name <;> infer_instance
  have htrace : ∀ (v : Value) (stack message : Option String), Keeps J (match stack, message with
      | some stack, some _ => do
        pure ((← toText call v) ++ "\n" ++ String.ofList (Text.trimEnd stack.toList))
      | _, _ => jsonOrText call v) := fun v stack message => by
    split <;> infer_instance
  unfold inspect
  cases v <;> infer_instance

instance (directive : Text.Directive) (v : Value) : Keeps J (render call directive v) := by
  cases directive <;>
  · unfold render
    infer_instance

instance {view : Value → Machine String} [∀ v, Keeps J (view v)] (vs : List Value) :
    Keeps J (Text.trailing view vs) := by
  induction vs with
  | nil => exact .pure _
  | cons v vs ih =>
    unfold Text.trailing
    infer_instance

instance {fillIn : Text.Directive → Value → Machine String} {view : Value → Machine String}
    [∀ d v, Keeps J (fillIn d v)] [∀ v, Keeps J (view v)] (pieces : List Text.Piece)
    (vs : List Value) : Keeps J (Text.fill fillIn view pieces vs) := by
  induction pieces generalizing vs with
  | nil =>
    unfold Text.fill
    infer_instance
  | cons piece pieces ih =>
    cases piece with
    | literal c =>
      unfold Text.fill
      infer_instance
    | directive letter kind =>
      cases vs <;>
      · unfold Text.fill
        infer_instance

instance (args : List Value) : Keeps J (format call args) := by
  unfold format
  split <;> infer_instance

instance (constructor parent : Ref) : Keeps J (inherits constructor parent) := by
  unfold inherits
  infer_instance

instance (wrapped this : Value) (args : List Value) :
    Keeps J (callPromised call wrapped this args) := by
  unfold callPromised
  refine Keeps.andThen inferInstance fun promise => Keeps.andThen inferInstance fun callback => ?_
  refine Keeps.andThen inferInstance fun result => ?_
  split <;> infer_instance

instance (f : UtilFunction) (args : List Value) : Keeps J (runUtil call f args) := by
  cases f <;>
  · unfold runUtil
    infer_instance

instance (configured : String) : Keeps J (workingDirectoryOf configured) := by
  unfold workingDirectoryOf
  have hpath : ∀ w : World, Keeps J (match w.surroundings.currentPath with
      | .ok path => pure path
      | .error e => raise "Error" ("process.cwd: " ++ e.message) : Machine String) := fun w => by
    split <;> infer_instance
  infer_instance

instance (f : ProcessFunction) (workingDirectory : String) (args : List Value) :
    Keeps J (runProcess call f workingDirectory args) := by
  cases f <;>
  · unfold runProcess
    infer_instance

instance (level : LogLevel) (args : List Value) : Keeps J (writeLog call level args) := by
  unfold writeLog
  infer_instance

instance (name : String) : Keeps J (environmentValue? name) := by
  unfold environmentValue?
  infer_instance

instance : Keeps J processor := by
  unfold processor
  infer_instance

instance (f : SystemFunction) : Keeps J (runSystem f) := by
  cases f with
  | homedir =>
    unfold runSystem
    refine Keeps.andThen inferInstance fun home => ?_
    split <;> infer_instance
  | _ =>
    unfold runSystem
    infer_instance

/-! ## URLs and files -/

instance (target : Ref) (input : String) (base : Option String) :
    Keeps J (fillUrl target input base) := by
  unfold fillUrl
  split <;> infer_instance

instance (input : String) : Keeps J (makeUrl input) := by
  unfold makeUrl
  infer_instance

instance (f : UrlFunction) (this : Value) (args : List Value) :
    Keeps J (runUrl call f this args) := by
  cases f with
  | fileURLToPath =>
    unfold runUrl
    refine Keeps.andThen inferInstance fun _ => Keeps.andThen inferInstance fun text => ?_
    split <;> infer_instance
  | pathToFileURL =>
    unfold runUrl
    refine Keeps.andThen inferInstance fun path => Keeps.andThen inferInstance fun w => ?_
    split <;> infer_instance
  | _ =>
    unfold runUrl
    infer_instance

instance (e : Host.Failure) (operation path : String) : Keeps J (fileError e operation path) := by
  unfold fileError
  infer_instance

instance (stat : Host.FileStat) : Keeps J (statsObject stat) := by
  unfold statsObject
  infer_instance

instance (operation : FileOperation) (files : Virtual.Resolution) (path : String) :
    Keeps J (operation.run files path) := by
  have hend : ∀ {α : Type} (result : Except Host.Failure α) (value : α → Machine Value)
      [∀ a, Keeps J (value a)], Keeps J (match result with
        | .ok a => .ok <$> value a
        | .error e => .error <$> fileError e operation.name path :
          Machine (Except Value Value)) := fun result value _ => by
    cases result <;> infer_instance
  unfold FileOperation.run
  cases operation <;> infer_instance

instance (result : Except Value Value) : Keeps J (bySync result) := by
  unfold bySync
  split <;> infer_instance

instance (callback : Value) (result : Except Value Value) :
    Keeps J (byCallback call callback result) := by
  unfold byCallback
  split <;> infer_instance

instance (result : Except Value Value) : Keeps J (byPromise result) := by
  unfold byPromise
  refine Keeps.andThen inferInstance fun promise => ?_
  split <;> infer_instance

instance (args : List Value) : Keeps J (readCallback args) := by
  unfold readCallback
  split <;> infer_instance

instance (f : FileFunction) (files : Virtual.Resolution) (args : List Value) :
    Keeps J (runFile call f files args) := by
  cases f <;>
  · unfold runFile
    dsimp only
    infer_instance

/-! ## Buffers -/

instance (text name : Value) : Keeps J (encodeText text name) := by
  unfold encodeText
  refine Keeps.andThen inferInstance fun text => Keeps.andThen inferInstance fun name => ?_
  split <;> infer_instance

instance (content : Bytes) (name : Value) : Keeps J (decodeBytes content name) := by
  unfold decodeBytes
  refine Keeps.andThen inferInstance fun name => ?_
  split <;> infer_instance

instance (v : Value) : Keeps J (toIndex call v) := by
  unfold toIndex
  infer_instance

instance (content : Bytes) : Keeps J (newBuffer content) := by
  unfold newBuffer
  infer_instance

instance (size : Nat) : Keeps J (zeroBuffer size) := by
  unfold zeroBuffer
  infer_instance

instance (items : List Value) : Keeps J (listBuffer call items) := by
  unfold listBuffer
  infer_instance

instance (store : Ref) (size : Nat) (offset length : Value) :
    Keeps J (viewBuffer call store size offset length) := by
  unfold viewBuffer
  cases length <;> infer_instance

instance (v : Value) : Keeps J (byteStore? v) := by
  unfold byteStore?
  split
  · refine Keeps.andThen inferInstance fun h => ?_
    split <;> infer_instance
  · infer_instance

instance (args : List Value) : Keeps J (constructBuffer call args) := by
  unfold constructBuffer
  refine Keeps.andThen inferInstance fun store => ?_
  split <;> infer_instance

instance (v : Value) : Keeps J (writtenForm? v) := by
  unfold writtenForm?
  infer_instance

instance (args : List Value) : Keeps J (bufferFrom call args) := by
  have hwritten : ∀ (value : Value) (form : Option Value), Keeps J (match form with
      | some data => do listBuffer call (← elementsOf call data)
      | none => do listBuffer call (← elementsOf call value)) := fun value form => by
    cases form <;> infer_instance
  unfold bufferFrom
  dsimp only
  split
  · infer_instance
  · infer_instance
  · infer_instance
  · refine Keeps.andThen inferInstance fun store => ?_
    split <;> infer_instance

instance (fill : Value) : Keeps J (fillByte call fill) := by
  unfold fillByte
  split <;> infer_instance

instance (size fill : Value) : Keeps J (allocBuffer call size fill) := by
  unfold allocBuffer
  infer_instance

instance (v : Value) : Keeps J (bytesArg v) := by
  unfold bytesArg
  split
  · refine Keeps.andThen inferInstance fun h => ?_
    split <;> infer_instance
  · infer_instance

instance (v : Value) : Keeps J (partBytes v) := by
  unfold partBytes
  split
  · refine Keeps.andThen inferInstance fun h => ?_
    split <;> infer_instance
  · infer_instance

instance (room : Nat) (parts : List Value) : Keeps J (partsFor room parts) := by
  induction parts generalizing room <;>
  · unfold partsFor
    infer_instance

instance (parts : List Value) : Keeps J (sizeOfParts parts) := by
  unfold sizeOfParts
  infer_instance

instance (offset : Nat) (parts : List Value) : Keeps J (refuseParts offset parts) := by
  induction parts generalizing offset <;>
  · unfold refuseParts
    infer_instance

instance (v : Value) : Keeps J (iterated v) := by
  unfold iterated
  split
  · infer_instance
  · refine Keeps.andThen inferInstance fun h => ?_
    split <;> infer_instance
  · infer_instance

instance (list : Value) : Keeps J (summable list) := by
  have hparts : ∀ parts : Option (List Value), Keeps J (match parts with
      | some parts => pure parts
      | none => do
        let _ ← getProperty list "reduce"
        raise "TypeError" "not a function") := fun parts => by
    cases parts <;> infer_instance
  unfold summable
  refine Keeps.andThen inferInstance fun h => ?_
  split <;> infer_instance

instance (list total : Value) : Keeps J (concatBuffers call list total) := by
  have hjoined : ∀ (parts : List Value) (size : Option Nat), Keeps J (match size with
      | some size => do newBuffer (Block.join (← partsFor size parts) (some size))
      | none => do
        refuseParts 0 parts
        newBuffer []) := fun parts size => by
    cases size <;> infer_instance
  unfold concatBuffers
  cases total <;> infer_instance

instance (content : Bytes) (args : List Value) : Keeps J (bufferText call content args) := by
  have hposition : ∀ (v : Value) (missing : Nat), Keeps J (match v with
      | .undefined => pure (Int.ofNat missing)
      | _ => toInteger call v) := fun v missing => by
    cases v <;> infer_instance
  unfold bufferText
  infer_instance

instance (r : Ref) (content : Bytes) : Keeps J (replaceBytes r content) := by
  unfold replaceBytes
  refine Keeps.andThen inferInstance fun h => ?_
  split <;> infer_instance

instance (r : Ref) (content : Bytes) (args : List Value) :
    Keeps J (writeBuffer call r content args) := by
  have hfinish : ∀ {α : Type} (result : Except Block.InvalidOffset α), Keeps J (match result with
      | .ok a => pure a
      | .error e => raise "RangeError" e.message : Machine α) := fun result => by
    cases result <;> infer_instance
  unfold writeBuffer
  dsimp only
  refine Keeps.andThen inferInstance fun encoded => Keeps.andThen inferInstance fun offset => ?_
  split <;> infer_instance

instance (content : Bytes) (other : Value) : Keeps J (equalsBuffer content other) := by
  unfold equalsBuffer
  infer_instance

instance (v : Value) : Keeps J (isKnownEncoding call v) := by
  unfold isKnownEncoding
  refine Keeps.andThen inferInstance fun name => ?_
  split <;> infer_instance

instance (f : BufferFunction) (this : Value) (args : List Value) :
    Keeps J (runBuffer call f this args) := by
  unfold runBuffer
  generalize argAt args 0 = first
  cases f with
  | isBuffer => cases first <;> infer_instance
  | byteLength => cases first <;> infer_instance
  | _ => infer_instance

/-! ## Streams -/

instance (stream : Ref) (c : Channel Value Value) : Keeps J (showChannel stream c) := by
  have hshown : ∀ (items : List Value) (v : Option Value), Keeps J (match v with
      | some (.object r) => do
        modifyObject r fun o => { o with kind := .list items }
        pure (ForInStep.yield PUnit.unit)
      | _ => pure (ForInStep.yield PUnit.unit)) := fun items v => by
    split <;> infer_instance
  have hreason : ∀ (state : Ref) (reason : Option Value), Keeps J (match reason with
      | some reason => assign state "reason" reason
      | none => pure ()) := fun state reason => by
    cases reason <;> infer_instance
  unfold showChannel
  refine Keeps.andThen inferInstance fun h => ?_
  split
  · infer_instance
  · infer_instance

section
variable (channel : Nat) (stream : Ref)

instance : Keeps J (seatOf call channel stream).load := by
  unfold seatOf
  infer_instance

instance (c : Channel Value Value) : Keeps J ((seatOf call channel stream).store c) := by
  have hkept : Keeps J (modify fun w =>
      { w with channels := w.channels.setIfInBounds channel c } : Machine Unit) :=
    .modify fun _ => rfl
  unfold seatOf
  infer_instance

instance (listener : Value) (notice : Notice Value) :
    Keeps J ((seatOf call channel stream).notify listener notice) := by
  unfold seatOf
  infer_instance

end

section
variable {seat : Seat Machine Value Value} [Keeps J seat.load] [∀ c, Keeps J (seat.store c)]
  [∀ listener notice, Keeps J (seat.notify listener notice)]

instance (f : Channel Value Value → Channel Value Value) : Keeps J (seat.modify f) := by
  unfold Seat.modify
  infer_instance

instance (plan : List Stream.Delivery) : Keeps J (seat.carryOutAll plan) := by
  have hone : ∀ d, Keeps J (seat.carryOut d) := fun d => by
    unfold Seat.carryOut
    refine Keeps.andThen inferInstance fun c => ?_
    split <;> infer_instance
  induction plan <;>
  · unfold Seat.carryOutAll
    infer_instance

instance : Keeps J seat.deliver := by
  unfold Seat.deliver
  infer_instance

instance (chunk : Value) : Keeps J (seat.push chunk) := by
  unfold Seat.push
  infer_instance

instance (event : Event) (listener : Value) : Keeps J (seat.listen event listener) := by
  unfold Seat.listen
  infer_instance

instance : Keeps J seat.finish := by
  unfold Seat.finish
  infer_instance

instance (reason : Option Value) : Keeps J (seat.acknowledge reason) := by
  unfold Seat.acknowledge
  cases reason <;> infer_instance

instance (method : String) (event? : String → Option Event) (args : List Value) :
    Keeps J (listen seat method event? args) := by
  unfold listen
  refine Keeps.andThen inferInstance fun _ => Keeps.andThen inferInstance fun name => ?_
  refine Keeps.andThen inferInstance fun listener => ?_
  split <;> infer_instance

end

instance (stream : Ref) : Keeps J (openStream stream) := by
  have hnew : Keeps J (modify fun w => { w with channels := w.channels.push {} } : Machine Unit) :=
    .modify fun _ => rfl
  unfold openStream
  refine Keeps.andThen inferInstance fun lists => Keeps.andThen inferInstance fun state => ?_
  refine Keeps.andThen inferInstance fun _ => Keeps.andThen inferInstance fun w => ?_
  exact Keeps.andThen hnew fun _ => inferInstance

instance (channel : Nat) (stream : Ref) (chunk : Value) :
    Keeps J (writeChunk call channel stream chunk) := by
  unfold writeChunk
  infer_instance

instance (f : StreamFunction) (channel : Nat) (this : Value) (args : List Value) :
    Keeps J (runStream call f channel this args) := by
  cases f <;>
  · unfold runStream
    infer_instance

end

/-! ## Loading builtin modules -/

instance (target : Ref) (name : String) (f : Function) : Keeps J (offer target name f) := by
  unfold offer
  infer_instance

instance (target : Ref) (functions : List (String × Function)) :
    Keeps J (offerAll target functions) := by
  unfold offerAll
  infer_instance

instance (name workingDirectory : String) : Keeps J (outputStream name workingDirectory) := by
  unfold outputStream
  infer_instance

section
variable (exports : Ref)

instance : Keeps J (exportPath exports) := by
  unfold exportPath
  infer_instance

instance : Keeps J (exportUtil exports) := by
  unfold exportUtil
  infer_instance

instance : Keeps J (exportStream exports) := by
  unfold exportStream
  infer_instance

instance : Keeps J (exportUrl exports) := by
  unfold exportUrl
  infer_instance

instance (files : Virtual.Resolution) : Keeps J (exportFiles exports files) := by
  unfold exportFiles
  infer_instance

instance : Keeps J (exportConsole exports) := by
  unfold exportConsole
  infer_instance

instance (workingDirectory : String) : Keeps J (exportProcess exports workingDirectory) := by
  unfold exportProcess
  refine Keeps.andThen inferInstance fun w => Keeps.andThen inferInstance fun env => ?_
  refine Keeps.andThen inferInstance fun _ => Keeps.andThen inferInstance fun _ => ?_
  refine Keeps.andThen inferInstance fun _ => Keeps.andThen inferInstance fun versions => ?_
  refine Keeps.andThen inferInstance fun _ => Keeps.andThen inferInstance fun _ => ?_
  refine Keeps.andThen inferInstance fun _ => Keeps.andThen inferInstance fun _ => ?_
  infer_instance

instance : Keeps J (exportSystem exports) := by
  unfold exportSystem
  infer_instance

instance : Keeps J (exportBuffer exports) := by
  unfold exportBuffer
  refine Keeps.andThen inferInstance fun constructor => Keeps.andThen inferInstance fun _ => ?_
  refine Keeps.andThen inferInstance fun _ => ?_
  infer_instance

instance : Keeps J (exportEvents exports) := by
  unfold exportEvents
  infer_instance

end

instance (b : Builtin) (module : Ref) : Keeps J (load b module) := by
  unfold load
  refine Keeps.andThen inferInstance fun value => Keeps.andThen inferInstance fun exports => ?_
  cases b <;> infer_instance

end GuestLint.Builtin

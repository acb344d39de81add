import GuestLint.Builtin.Catalog
import GuestLint.Proofs.Guest.Conversions

/-!
# The builtin modules reach nothing hidden

A function of a builtin module gets at objects through its receiver, its arguments and what these
refer to, and through the channel of its stream. So each of them stays within when the functions
that it calls do.
-/
namespace GuestLint.Builtin

open Guest
open GuestLint.Stream (Channel Notice Seat Event)

variable {s : Seal} {n : Nat} {α : Type}

-- What a computation holds is looked for through all that it has held before.
set_option synthInstance.maxSize 2048

section
variable {call : Call} [Contained s call]

/-! ## Paths, values and the surroundings -/

instance (f : PathFunction) (args : List Value) [Clear s n args] : Guards s n (runPath f args) := by
  cases f <;>
  · unfold runPath
    infer_instance

instance (v : Value) [Clear s n v] : Guards s n (jsonOrText call v) := by
  unfold jsonOrText
  refine Guards.andThen inferInstance fun k hle json _ => ?_
  split <;> infer_instance

instance (v : Value) [Clear s n v] (name : String) : Guards s n (textProperty? v name) := by
  unfold textProperty?
  refine Guards.andThen inferInstance fun k hle text _ => ?_
  split <;> infer_instance

instance (v : Value) [Clear s n v] : Guards s n (inspect call v) := by
  have hname : ∀ {n} (name : Option String), Guards s n (match name with
      | some name =>
        pure (if name = "" then "[Function (anonymous)]" else "[Function: " ++ name ++ "]")
      | none => pure "[Function (anonymous)]" : Machine String) := fun name => by
    cases name <;> infer_instance
  have htrace : ∀ {n} (v : Value) [Clear s n v] (stack message : Option String),
      Guards s n (match stack, message with
      | some stack, some _ => do
        pure ((← toText call v) ++ "\n" ++ String.ofList (Text.trimEnd stack.toList))
      | _, _ => jsonOrText call v) := fun v _ stack message => by
    split <;> infer_instance
  unfold inspect
  cases v <;> infer_instance

instance (directive : Text.Directive) (v : Value) [Clear s n v] :
    Guards s n (render call directive v) := by
  cases directive <;>
  · unfold render
    infer_instance

section
variable {view : Value → Machine String} {fillIn : Text.Directive → Value → Machine String}

theorem guards_trailing (hview : ∀ n v [Clear s n v], Guards s n (view v)) (vs : List Value)
    [hvs : Clear s n vs] : Guards s n (Text.trailing view vs) := by
  induction vs generalizing n with
  | nil => exact .pure _
  | cons v vs ih =>
    have hv := hvs.mem List.mem_cons_self
    have hrest := hvs.of_sublist fun _ => List.mem_cons_of_mem v
    unfold Text.trailing
    refine (hview n v).andThen fun k hle shown _ => ?_
    have : Clear s k vs := ⟨Refers.mono hle hrest.clear⟩
    exact ih.andThen inferInstance

theorem guards_fill (hfill : ∀ n d v [Clear s n v], Guards s n (fillIn d v))
    (hview : ∀ n v [Clear s n v], Guards s n (view v)) (pieces : List Text.Piece)
    (vs : List Value) [hvs : Clear s n vs] : Guards s n (Text.fill fillIn view pieces vs) := by
  induction pieces generalizing n vs with
  | nil =>
    unfold Text.fill
    exact guards_trailing hview vs
  | cons piece pieces ih =>
    cases piece with
    | literal c =>
      unfold Text.fill
      exact (ih vs).andThen inferInstance
    | directive letter kind =>
      cases vs with
      | nil =>
        unfold Text.fill
        exact (ih []).andThen inferInstance
      | cons v vs =>
        have hv := hvs.mem List.mem_cons_self
        have hrest := hvs.of_sublist fun _ => List.mem_cons_of_mem v
        unfold Text.fill
        refine (hfill n kind v).andThen fun k hle shown _ => ?_
        have : Clear s k vs := ⟨Refers.mono hle hrest.clear⟩
        exact (ih vs).andThen inferInstance

end

instance (args : List Value) [hargs : Clear s n args] : Guards s n (format call args) := by
  unfold format
  split
  · infer_instance
  · have := hargs.of_sublist fun _ => List.mem_cons_of_mem _
    exact guards_fill (fun _ _ _ => inferInstance) (fun _ _ => inferInstance) _ _
  · rename_i first rest _
    have := hargs.mem List.mem_cons_self
    have hrest := hargs.of_sublist fun _ => List.mem_cons_of_mem first
    refine Guards.andThen inferInstance fun k hle shown _ => ?_
    have : Clear s k rest := ⟨Refers.mono hle hrest.clear⟩
    exact (guards_trailing (n := k) (fun _ _ => inferInstance) rest).andThen inferInstance

/-- Giving an object another parent. -/
instance (r parent : Ref) [hr : Visible s n r] [hparent : Visible s n parent] :
    Guards s n (modifyObject r fun o => { o with parent := some parent }) :=
  ⟨ensures_modifyObject hr
    (fun _ _ hle ho => ⟨ho.kind, fun p hp => by cases hp; exact hparent.mono hle, ho.properties⟩)
    fun _ => .inl rfl⟩

instance (constructor parent : Ref) [Visible s n constructor] [Visible s n parent] :
    Guards s n (inherits constructor parent) := by
  unfold inherits
  infer_instance

instance (wrapped this : Value) (args : List Value) [Clear s n wrapped] [Clear s n this]
    [Clear s n args] : Guards s n (callPromised call wrapped this args) := by
  unfold callPromised
  refine Guards.andThenAt inferInstance fun k hle promise _ => ?_
  refine Guards.andThenAt inferInstance fun k' hle' callback _ => ?_
  refine Guards.andThen inferInstance fun k'' hle'' result _ => ?_
  cases result <;>
  · dsimp only
    infer_instance

instance (f : UtilFunction) (args : List Value) [Clear s n args] :
    Guards s n (runUtil call f args) := by
  cases f <;>
  · unfold runUtil
    infer_instance

instance (configured : String) : Guards s n (workingDirectoryOf configured) := by
  unfold workingDirectoryOf
  have hpath : ∀ {n} (w : World), Guards s n (match w.surroundings.currentPath with
      | .ok path => pure path
      | .error e => raise "Error" ("process.cwd: " ++ e.message) : Machine String) := fun w => by
    split <;> infer_instance
  infer_instance

instance (f : ProcessFunction) (workingDirectory : String) (args : List Value) [Clear s n args] :
    Guards s n (runProcess call f workingDirectory args) := by
  cases f <;>
  · unfold runProcess
    infer_instance

instance (level : LogLevel) (args : List Value) [Clear s n args] :
    Guards s n (writeLog call level args) := by
  unfold writeLog
  infer_instance

instance (name : String) : Guards s n (environmentValue? name) := by
  unfold environmentValue?
  infer_instance

instance : Guards s n processor := by
  unfold processor
  infer_instance

instance (f : SystemFunction) : Guards s n (runSystem f) := by
  cases f with
  | homedir =>
    unfold runSystem
    refine Guards.andThen inferInstance fun k hle home _ => ?_
    split <;> infer_instance
  | _ =>
    unfold runSystem
    infer_instance

/-! ## URLs and files -/

instance (target : Ref) [Visible s n target] (input : String) (base : Option String) :
    Guards s n (fillUrl target input base) := by
  unfold fillUrl
  split
  · infer_instance
  · have : Clear s n (urlFields ‹_›) := by
      unfold urlFields
      infer_instance
    infer_instance

instance (input : String) : Guards s n (makeUrl input) := by
  unfold makeUrl
  infer_instance

instance (this : Value) [Clear s n this] : Clear s n (receiver this) := by
  unfold receiver
  infer_instance

instance (f : UrlFunction) (this : Value) [Clear s n this] (args : List Value) [Clear s n args] :
    Guards s n (runUrl call f this args) := by
  cases f with
  | fileURLToPath =>
    unfold runUrl
    refine Guards.andThen inferInstance fun k hle _ _ => ?_
    refine Guards.andThen inferInstance fun k' hle' text _ => ?_
    split <;> infer_instance
  | pathToFileURL =>
    unfold runUrl
    refine Guards.andThen inferInstance fun k hle path _ => ?_
    refine Guards.andThen inferInstance fun k' hle' w _ => ?_
    split <;> infer_instance
  | _ =>
    unfold runUrl
    infer_instance

instance (e : Host.Failure) (operation path : String) :
    Guards s n (fileError e operation path) := by
  unfold fileError
  infer_instance

instance (stat : Host.FileStat) : Guards s n (statsObject stat) := by
  unfold statsObject
  infer_instance

instance (operation : FileOperation) (files : Virtual.Resolution) (path : String) :
    Guards s n (operation.run files path) := by
  have hend : ∀ {n} {α : Type} (result : Except Host.Failure α) (value : α → Machine Value)
      [∀ n a, Guards s n (value a)], Guards s n (match result with
        | .ok a => .ok <$> value a
        | .error e => .error <$> fileError e operation.name path :
          Machine (Except Value Value)) := fun result value _ => by
    cases result <;> infer_instance
  unfold FileOperation.run
  cases operation <;> infer_instance

instance (result : Except Value Value) [hresult : Clear s n result] :
    Guards s n (bySync result) := by
  unfold bySync
  split
  · have := hresult.of_ok
    infer_instance
  · have := hresult.of_error
    infer_instance

instance (callback : Value) [Clear s n callback] (result : Except Value Value)
    [hresult : Clear s n result] : Guards s n (byCallback call callback result) := by
  unfold byCallback
  split
  · have := hresult.of_ok
    infer_instance
  · have := hresult.of_error
    infer_instance

instance (result : Except Value Value) [hresult : Clear s n result] :
    Guards s n (byPromise result) := by
  unfold byPromise
  refine Guards.andThenAt inferInstance fun k hle promise _ => ?_
  split
  · have := hresult.of_ok
    infer_instance
  · have := hresult.of_error
    infer_instance

instance (args : List Value) [hargs : Clear s n args] : Guards s n (readCallback args) := by
  unfold readCallback
  split
  · have : Clear s n ‹Value› := hargs.mem (List.mem_of_getElem? ‹_›)
    infer_instance
  · infer_instance

instance (f : FileFunction) (files : Virtual.Resolution) (args : List Value) [Clear s n args] :
    Guards s n (runFile call f files args) := by
  cases f <;>
  · unfold runFile
    dsimp only
    infer_instance

/-! ## Buffers -/

instance (text name : Value) : Guards s n (encodeText text name) := by
  unfold encodeText
  refine Guards.andThen inferInstance fun k hle text _ => ?_
  refine Guards.andThen inferInstance fun k' hle' name _ => ?_
  split <;> infer_instance

instance (content : Bytes) (name : Value) : Guards s n (decodeBytes content name) := by
  unfold decodeBytes
  refine Guards.andThen inferInstance fun k hle name _ => ?_
  split <;> infer_instance

instance (v other : Value) [Clear s n v] [Clear s n other] : Clear s n (orElse v other) := by
  unfold orElse
  infer_instance

instance (v : Value) [Clear s n v] : Guards s n (toIndex call v) := by
  unfold toIndex
  infer_instance

instance (content : Bytes) : Guards s n (newBuffer content) := by
  unfold newBuffer
  infer_instance

instance (size : Nat) : Guards s n (zeroBuffer size) := by
  unfold zeroBuffer
  infer_instance

instance (items : List Value) [Clear s n items] : Guards s n (listBuffer call items) := by
  unfold listBuffer
  infer_instance

instance (store : Ref) [Visible s n store] (size : Nat) (offset length : Value)
    [Clear s n offset] [Clear s n length] :
    Guards s n (viewBuffer call store size offset length) := by
  unfold viewBuffer
  cases length <;> infer_instance

/-- A block is visible when the value is. -/
theorem ensures_byteStore? (v : Value) [hv : Clear s n v] :
    Ensures s n (fun m block => ∀ store size, block = some (store, size) → Visible s m store)
      (byteStore? v) := by
  unfold byteStore?
  split
  · rename_i r
    have hr : Visible s n r := hv.clear
    refine ensures_heap.bind fun m h hle _ => ?_
    split
    · exact .pure fun k hle' store size hblock => by
        cases hblock
        exact hr.mono (Nat.le_trans hle hle')
    · exact .pure fun _ _ _ _ hblock => by cases hblock
  · exact .pure fun _ _ _ _ hblock => by cases hblock

instance (args : List Value) [Clear s n args] : Guards s n (constructBuffer call args) := by
  unfold constructBuffer
  refine ⟨(ensures_byteStore? _).bind fun m block hle hblock => ?_⟩
  have hargs : Clear s m args := ⟨Refers.mono hle (Clear.clear (a := args))⟩
  split
  · have := hblock _ _ rfl
    exact Guards.ensures
  · exact Guards.ensures
  · exact Guards.ensures

instance (v : Value) [Clear s n v] : Guards s n (writtenForm? v) := by
  unfold writtenForm?
  infer_instance

instance (args : List Value) [Clear s n args] : Guards s n (bufferFrom call args) := by
  unfold bufferFrom
  have hvalue : Clear s n (argAt args 0) := inferInstance
  revert hvalue
  generalize argAt args 0 = value
  intro hvalue
  dsimp only
  split
  · infer_instance
  · infer_instance
  · infer_instance
  · refine ⟨(ensures_byteStore? _).bind fun m block hle hblock => ?_⟩
    have hargs : Clear s m args := ⟨Refers.mono hle (Clear.clear (a := args))⟩
    have hvalue : Clear s m value := ⟨Refers.mono hle hvalue.clear⟩
    split
    · have := hblock _ _ rfl
      exact Guards.ensures
    · refine Ensures.bind Guards.ensures fun m' form hle' hform => ?_
      have : Clear s m' value := ⟨Refers.mono hle' hvalue.clear⟩
      split
      · have : Clear s m' ‹Value› := ⟨hform _ rfl⟩
        exact Guards.ensures
      · exact Guards.ensures

instance (fill : Value) [Clear s n fill] : Guards s n (fillByte call fill) := by
  unfold fillByte
  split <;> infer_instance

instance (size fill : Value) [Clear s n size] [Clear s n fill] :
    Guards s n (allocBuffer call size fill) := by
  unfold allocBuffer
  infer_instance

instance (v : Value) [Clear s n v] : Guards s n (bytesArg v) := by
  unfold bytesArg
  split
  · refine Guards.andThen inferInstance fun k hle h _ => ?_
    split <;> infer_instance
  · infer_instance

instance (v : Value) [Clear s n v] : Guards s n (partBytes v) := by
  unfold partBytes
  split
  · refine Guards.andThen inferInstance fun k hle h _ => ?_
    split <;> infer_instance
  · infer_instance

instance (room : Nat) (parts : List Value) [hparts : Clear s n parts] :
    Guards s n (partsFor room parts) := by
  induction parts generalizing n room with
  | nil =>
    unfold partsFor
    infer_instance
  | cons part parts ih =>
    have := hparts.mem List.mem_cons_self
    have := hparts.of_sublist fun _ => List.mem_cons_of_mem part
    unfold partsFor
    infer_instance

instance (parts : List Value) [Clear s n parts] : Guards s n (sizeOfParts parts) := by
  unfold sizeOfParts
  infer_instance

instance (offset : Nat) (parts : List Value) [hparts : Clear s n parts] :
    Guards s n (refuseParts offset parts) := by
  induction parts generalizing n offset with
  | nil =>
    unfold refuseParts
    infer_instance
  | cons part parts ih =>
    have := hparts.mem List.mem_cons_self
    have := hparts.of_sublist fun _ => List.mem_cons_of_mem part
    unfold refuseParts
    infer_instance

instance (v : Value) [Clear s n v] : Guards s n (iterated v) := by
  unfold iterated
  cases v with
  | object r =>
    refine Guards.andThen inferInstance fun k hle h hh => ?_
    have hitems : Clear s (holding hle hh) (h.list? (.object r)) := inferInstance
    split
    · rename_i hlist
      rw [hlist] at hitems
      have := hitems.of_some
      infer_instance
    · infer_instance
    · infer_instance
  | _ => infer_instance

instance (list : Value) [Clear s n list] : Guards s n (summable list) := by
  have hparts : ∀ {n} (parts : Option (List Value)) [Clear s n list] [Clear s n parts],
      Guards s n (match parts with
      | some parts => pure parts
      | none => do
        let _ ← getProperty list "reduce"
        raise "TypeError" "not a function") := fun parts _ hparts => by
    cases parts with
    | none => infer_instance
    | some parts =>
      have := hparts.of_some
      infer_instance
  unfold summable
  refine Guards.andThen inferInstance fun k hle h hh => ?_
  have hitems : Clear s (holding hle hh) (h.list? list) := inferInstance
  split
  · rename_i hlist
    rw [hlist] at hitems
    have := hitems.of_some
    infer_instance
  · infer_instance
  · infer_instance

instance (list total : Value) [Clear s n list] [Clear s n total] :
    Guards s n (concatBuffers call list total) := by
  have hjoined : ∀ {n} (parts : List Value) (size : Option Nat) [Clear s n parts],
      Guards s n (match size with
      | some size => do newBuffer (Block.join (← partsFor size parts) (some size))
      | none => do
        refuseParts 0 parts
        newBuffer []) := fun parts size _ => by
    cases size <;> infer_instance
  unfold concatBuffers
  cases total <;> infer_instance

instance (content : Bytes) (args : List Value) [Clear s n args] :
    Guards s n (bufferText call content args) := by
  have hposition : ∀ {n} (v : Value) (missing : Nat) [Clear s n v], Guards s n (match v with
      | .undefined => pure (Int.ofNat missing)
      | _ => toInteger call v) := fun v missing _ => by
    cases v <;> infer_instance
  unfold bufferText
  infer_instance

/-- Changing the bytes of a block. -/
theorem guards_overwrite (store : Ref) [hstore : Visible s n store] (f : Bytes → Bytes) :
    Guards s n (modifyObject store fun o =>
      match o.kind with
      | .byteStore all => { o with kind := .byteStore (f all) }
      | _ => o) := by
  refine ⟨ensures_modifyObject hstore (fun m o _ ho => ?_) fun o => ?_⟩
  · split
    · exact ⟨trivial, ho.parent, ho.properties⟩
    · exact ho
  · split
    · exact .inr rfl
    · exact .inl rfl

instance (r : Ref) [Visible s n r] (content : Bytes) : Guards s n (replaceBytes r content) := by
  unfold replaceBytes
  refine Guards.andThen inferInstance fun k hle h hh => ?_
  have hkind : Clear s (holding hle hh) (h.at_ r).kind := inferInstance
  split
  · rename_i store offset length hview
    rw [hview] at hkind
    have : Visible s (holding hle hh) store := hkind.clear
    exact guards_overwrite store _
  · infer_instance

instance (r : Ref) [Visible s n r] (content : Bytes) (args : List Value) [Clear s n args] :
    Guards s n (writeBuffer call r content args) := by
  have hfinish : ∀ {n} {α : Type} [Refers α] [Plain α] (result : Except Block.InvalidOffset α),
      Guards s n (match result with
      | .ok a => pure a
      | .error e => raise "RangeError" e.message : Machine α) := fun result => by
    cases result <;> infer_instance
  have hlength : Clear s n (argAt args 2) := inferInstance
  unfold writeBuffer
  dsimp only
  revert hlength
  generalize argAt args 2 = length
  intro hlength
  cases length <;> infer_instance

instance (content : Bytes) (other : Value) [Clear s n other] :
    Guards s n (equalsBuffer content other) := by
  unfold equalsBuffer
  infer_instance

instance (v : Value) [Clear s n v] : Guards s n (isKnownEncoding call v) := by
  unfold isKnownEncoding
  refine Guards.andThen inferInstance fun k hle name _ => ?_
  split <;> infer_instance

instance (f : BufferFunction) (this : Value) [Clear s n this] (args : List Value)
    [Clear s n args] : Guards s n (runBuffer call f this args) := by
  have hfirst : Clear s n (argAt args 0) := inferInstance
  unfold runBuffer
  revert hfirst
  generalize argAt args 0 = first
  intro hfirst
  cases f with
  | isBuffer => cases first <;> infer_instance
  | byteLength => cases first <;> infer_instance
  | _ => infer_instance

/-! ## Streams -/

theorem clear_newChannel : Clear s n ({} : Channel Value Value) :=
  ⟨⟨Clear.clear, Clear.clear, Clear.clear, Clear.clear, Clear.clear⟩⟩

/-- A channel that stays within, and so do the calls of its listeners. -/
class Secluded (s : Seal) (n : Nat) (seat : Seat Machine Value Value) : Prop where
  load : ∀ m, n ≤ m → Guards s m seat.load
  store : ∀ m c, n ≤ m → Clear s m c → Guards s m (seat.store c)
  notify : ∀ m listener notice, n ≤ m → Clear s m listener → Clear s m notice →
    Guards s m (seat.notify listener notice)

section
variable {c : Channel Value Value} [hc : Clear s n c]

instance : Clear s n c.chunks := ⟨hc.clear.chunks⟩
instance : Clear s n c.dataListeners := ⟨hc.clear.data⟩
instance : Clear s n c.errorListeners := ⟨hc.clear.error⟩
instance : Clear s n c.endListeners := ⟨hc.clear.ends⟩
instance : Clear s n c.reason := ⟨hc.clear.reason⟩

instance (ledger : Stream.Ledger) : Clear s n { c with ledger := ledger } :=
  ⟨⟨hc.clear.chunks, hc.clear.data, hc.clear.error, hc.clear.ends, hc.clear.reason⟩⟩

instance : Clear s n (shownLists c) := by
  unfold shownLists
  infer_instance

instance (chunk : Value) [Clear s n chunk] : Clear s n (c.push chunk) :=
  ⟨⟨(inferInstance : Clear s n (c.chunks ++ [chunk])).clear, hc.clear.data, hc.clear.error,
    hc.clear.ends, hc.clear.reason⟩⟩

instance (event : Event) (listener : Value) [Clear s n listener] :
    Clear s n (c.add event listener) := by
  have hadded : ∀ listeners : List Value, Clear s n listeners →
      Refers.clear s n (listeners ++ [listener]) := fun _ _ => Clear.clear
  cases event with
  | data =>
    exact ⟨⟨hc.clear.chunks, hadded _ inferInstance, hc.clear.error, hc.clear.ends,
      hc.clear.reason⟩⟩
  | error =>
    exact ⟨⟨hc.clear.chunks, hc.clear.data, hadded _ inferInstance, hc.clear.ends,
      hc.clear.reason⟩⟩
  | «end» =>
    exact ⟨⟨hc.clear.chunks, hc.clear.data, hc.clear.error, hadded _ inferInstance,
      hc.clear.reason⟩⟩

instance : Clear s n c.finish := by
  unfold Channel.finish
  infer_instance

instance (reason : Value) [hreason : Clear s n reason] : Clear s n (c.fail reason) := by
  unfold Channel.fail
  dsimp only
  split
  · exact ⟨⟨hc.clear.chunks, hc.clear.data, hc.clear.error, hc.clear.ends,
      (inferInstance : Clear s n (some reason)).clear⟩⟩
  · exact hc

instance (delivery : Stream.Delivery) : Clear s n (c.notice? delivery) := by
  refine ⟨fun call hcall => ?_⟩
  cases delivery with
  | data listener chunk =>
    obtain ⟨f, hf, hcall⟩ := Option.bind_eq_some_iff.mp hcall
    obtain ⟨v, hv, hcall⟩ := Option.bind_eq_some_iff.mp hcall
    cases hcall
    exact ⟨hc.clear.data f (List.mem_of_getElem? hf), hc.clear.chunks v (List.mem_of_getElem? hv)⟩
  | error listener =>
    obtain ⟨f, hf, hcall⟩ := Option.bind_eq_some_iff.mp hcall
    cases hcall
    exact ⟨hc.clear.error f (List.mem_of_getElem? hf), hc.clear.reason⟩
  | «end» listener =>
    obtain ⟨f, hf, hcall⟩ := Option.bind_eq_some_iff.mp hcall
    cases hcall
    exact ⟨hc.clear.ends f (List.mem_of_getElem? hf), trivial⟩

instance (notice : Notice Value) [hnotice : Clear s n notice] : Clear s n (noticeArgs notice) := by
  cases notice with
  | data chunk =>
    have : Clear s n chunk := ⟨hnotice.clear⟩
    exact inferInstanceAs (Clear s n [chunk])
  | error reason =>
    have : Clear s n reason := ⟨hnotice.clear⟩
    exact inferInstanceAs (Clear s n [reason.getD .undefined])
  | «end» => exact inferInstanceAs (Clear s n ([] : List Value))

end

instance (stream : Ref) [Visible s n stream] (c : Channel Value Value) [Clear s n c] :
    Guards s n (showChannel stream c) := by
  have hitems : ∀ {n} (r : Ref) (items : List Value) [hr : Visible s n r]
      [hitems : Clear s n items],
      Guards s n (modifyObject r fun o => { o with kind := .list items }) := fun r items hr hi =>
    ⟨ensures_modifyObject hr
      (fun _ _ hle ho => ⟨Refers.mono hle hi.clear, ho.parent, ho.properties⟩)
      fun _ => .inr rfl⟩
  have hshown : ∀ {n} (items : List Value) (v : Option Value) [Clear s n items] [Clear s n v],
      Guards s n (match v with
      | some (.object r) => do
        modifyObject r fun o => { o with kind := .list items }
        pure (ForInStep.yield PUnit.unit)
      | _ => pure (ForInStep.yield PUnit.unit)) := fun items v _ hv => by
    split
    · have : Visible s _ _ := hv.clear _ rfl
      infer_instance
    · infer_instance
  have hreason : ∀ {n} (state : Ref) (reason : Option Value) [Visible s n state]
      [Clear s n reason], Guards s n (match reason with
      | some reason => assign state "reason" reason
      | none => pure ()) := fun state reason _ hreason => by
    cases reason with
    | none => infer_instance
    | some reason =>
      have := hreason.of_some
      infer_instance
  unfold showChannel
  refine Guards.andThen inferInstance fun k hle h hh => ?_
  have hstate : Clear s (holding hle hh) (h.own? stream stateProperty) := inferInstance
  split
  · rename_i state hown
    rw [hown] at hstate
    have : Visible s (holding hle hh) state := hstate.clear _ rfl
    infer_instance
  · infer_instance

/-- A change of the channels alone. -/
theorem guards_setChannels (f : Array (Channel Value Value) → Array (Channel Value Value))
    (hf : ∀ m cs, n ≤ m → Refers.clear s m cs → Refers.clear s m (f cs)) :
    Guards s n (modify fun w => { w with channels := f w.channels } : Machine Unit) :=
  .change (fun _ => rfl) (fun _ => rfl) (fun _ => rfl) fun m w hle h =>
    ⟨h.heap, h.jobs, hf m w.channels hle h.channels, h.stored, h.kept⟩

instance (channel : Nat) (stream : Ref) [hstream : Visible s n stream] :
    Secluded s n (seatOf call channel stream) where
  load m _ := by
    unfold seatOf
    infer_instance
  store m c hle hc := by
    have := hstream.mono hle
    have hkept : Guards s m (modify fun w =>
        { w with channels := w.channels.setIfInBounds channel c } : Machine Unit) := by
      refine guards_setChannels (·.setIfInBounds channel c) fun k cs hle' hcs i => ?_
      rw [Array.getElem?_setIfInBounds]
      split
      · split
        · exact Refers.mono hle' hc.clear
        · exact clear_newChannel.clear
      · exact hcs i
    unfold seatOf
    infer_instance
  notify m listener notice hle _ _ := by
    have := hstream.mono hle
    unfold seatOf
    infer_instance

section
variable {seat : Seat Machine Value Value} [hseat : Secluded s n seat]

instance (priority := low) {k : Nat} {hle : n ≤ k} [Refers α] {a : α} {ha : Refers.clear s k a} :
    Secluded s (holding hle ha) seat where
  load m hm := hseat.load m (Nat.le_trans hle hm)
  store m c hm := hseat.store m c (Nat.le_trans hle hm)
  notify m listener notice hm := hseat.notify m listener notice (Nat.le_trans hle hm)

instance : Guards s n seat.load := hseat.load n (Nat.le_refl n)

instance (c : Channel Value Value) [hc : Clear s n c] : Guards s n (seat.store c) :=
  hseat.store n c (Nat.le_refl n) hc

instance (listener : Value) (notice : Notice Value) [hl : Clear s n listener]
    [hn : Clear s n notice] : Guards s n (seat.notify listener notice) :=
  hseat.notify n listener notice (Nat.le_refl n) hl hn

instance (delivery : Stream.Delivery) : Guards s n (seat.carryOut delivery) := by
  unfold Seat.carryOut
  refine Guards.andThen inferInstance fun k hle c hc => ?_
  have hnotice : Clear s (holding hle hc) (c.notice? delivery) := inferInstance
  split
  · rename_i listener notice hcall
    rw [hcall] at hnotice
    have hlistener : Clear s (holding hle hc) listener := ⟨hnotice.of_some.clear.1⟩
    have hnotice : Clear s (holding hle hc) notice := ⟨hnotice.of_some.clear.2⟩
    infer_instance
  · infer_instance

instance (plan : List Stream.Delivery) : Guards s n (seat.carryOutAll plan) := by
  induction plan generalizing n with
  | nil =>
    unfold Seat.carryOutAll
    infer_instance
  | cons delivery plan ih =>
    unfold Seat.carryOutAll
    infer_instance

instance : Guards s n seat.deliver := by
  unfold Seat.deliver
  infer_instance

instance (chunk : Value) [Clear s n chunk] : Guards s n (seat.push chunk) := by
  unfold Seat.push Seat.modify
  infer_instance

instance (event : Event) (listener : Value) [Clear s n listener] :
    Guards s n (seat.listen event listener) := by
  unfold Seat.listen Seat.modify
  infer_instance

instance : Guards s n seat.finish := by
  unfold Seat.finish Seat.modify
  infer_instance

instance (reason : Option Value) [hreason : Clear s n reason] :
    Guards s n (seat.acknowledge reason) := by
  unfold Seat.acknowledge Seat.modify
  cases reason with
  | none => infer_instance
  | some reason =>
    have := hreason.of_some
    infer_instance

instance (method : String) (event? : String → Option Event) (args : List Value)
    [Clear s n args] : Guards s n (listen seat method event? args) := by
  unfold listen
  refine Guards.andThen inferInstance fun k hle _ _ => ?_
  refine Guards.andThen inferInstance fun k' hle' name _ => ?_
  refine Guards.andThen inferInstance fun k'' hle'' listener _ => ?_
  split <;> infer_instance

end

instance (stream : Ref) [Visible s n stream] : Guards s n (openStream stream) := by
  have hnew : ∀ {n}, Guards s n
      (modify fun w => { w with channels := w.channels.push {} } : Machine Unit) := by
    refine guards_setChannels (·.push {}) fun k cs hle hcs i => ?_
    rw [Array.getElem?_push]
    split
    · exact clear_newChannel.clear
    · exact hcs i
  have := clear_newChannel (s := s) (n := n)
  unfold openStream
  refine Guards.andThen inferInstance fun k hle lists _ => ?_
  refine Guards.andThenAt inferInstance fun k hle shown _ => ?_
  refine Guards.andThen inferInstance fun k hle _ _ => ?_
  refine Guards.andThen inferInstance fun k hle w _ => ?_
  exact Guards.andThen hnew fun _ _ _ _ => inferInstance

instance (channel : Nat) (stream : Ref) [Visible s n stream] (chunk : Value) [Clear s n chunk] :
    Guards s n (writeChunk call channel stream chunk) := by
  unfold writeChunk
  infer_instance

instance (f : StreamFunction) [hf : Clear s n f] (channel : Nat) (this : Value) [Clear s n this]
    (args : List Value) [Clear s n args] : Guards s n (runStream call f channel this args) := by
  cases f with
  | acknowledge stream =>
    have : Visible s n stream := hf.clear
    unfold runStream
    infer_instance
  | _ =>
    unfold runStream
    infer_instance

end

/-! ## Loading builtin modules -/

section
variable (target : Ref) [Visible s n target]

instance (name : String) (f : Function) [Clear s n f] : Guards s n (offer target name f) := by
  unfold offer
  infer_instance

instance (functions : List (String × Function)) [Clear s n functions] :
    Guards s n (offerAll target functions) := by
  unfold offerAll
  infer_instance

end

instance (name workingDirectory : String) : Guards s n (outputStream name workingDirectory) := by
  unfold outputStream
  infer_instance

section
variable (exports : Ref) [Visible s n exports]

instance : Guards s n (exportPath exports) := by
  unfold exportPath
  infer_instance

instance : Guards s n (exportUtil exports) := by
  unfold exportUtil
  infer_instance

instance : Guards s n (exportStream exports) := by
  unfold exportStream
  infer_instance

instance : Guards s n (exportUrl exports) := by
  unfold exportUrl
  infer_instance

instance (files : Virtual.Resolution) : Guards s n (exportFiles exports files) := by
  unfold exportFiles
  infer_instance

instance : Guards s n (exportConsole exports) := by
  unfold exportConsole
  infer_instance

instance (workingDirectory : String) : Guards s n (exportProcess exports workingDirectory) := by
  unfold exportProcess
  infer_instance

instance : Guards s n (exportSystem exports) := by
  unfold exportSystem
  infer_instance

instance : Guards s n (exportBuffer exports) := by
  unfold exportBuffer
  infer_instance

instance : Guards s n (exportEvents exports) := by
  unfold exportEvents
  infer_instance

end

instance (b : Builtin) (module : Ref) [Visible s n module] : Guards s n (load b module) := by
  unfold load
  refine Guards.andThen inferInstance fun k hle value _ => ?_
  refine Guards.andThenAt inferInstance fun k hle exports _ => ?_
  cases b <;> infer_instance

end GuestLint.Builtin

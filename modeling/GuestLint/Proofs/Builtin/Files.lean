import GuestLint.Builtin.Files
import GuestLint.Proofs.Guest.Promises

/-!
# The styles of file access agree

The file functions of a guest differ in how they answer: by value or exception, through a callback,
or by a promise. Behind all of them stands one lookup, and what it finds decides the answer: a text,
what an inspection tells, or an error that names the failure, the operation and the path. The host,
the way files are routed and the path decide what is found; the guest's world has no part in it.

* `IsFileError`, `ShowsStat`: the objects that guests are given.
* `FileOperation.answer`: what is found; `FileOperation.Delivers`: the value that tells it.
* `run_operation`: the lookup that all styles share.
* `file_styles_agree`: what each style makes of it.
-/
namespace GuestLint.Builtin

open Guest
open Host (Access Failure FileKind FileStat)
open Virtual (Resolution)

variable {w : World} {h : Heap} {r : Ref}

/-! ## Errors -/

/-- The text of the error of a failed operation. -/
def failureText (e : Failure) (operation path : String) : String :=
  failureCode e.kind ++ ": " ++ e.message ++ ", " ++ operation ++ " '" ++ path ++ "'"

/-- The error that a guest is given for a failed operation. Its name is the one that errors inherit,
and it has no property that depends on anything but the failure, except for its stack. -/
structure IsFileError (o : Object) (e : Failure) (operation path : String) : Prop where
  kind : o.kind = .error
  parent : o.parent = some (Place.errorParent "Error")
  message : o.field "message" = some (.text (failureText e operation path))
  code : o.field "code" = some (.text (failureCode e.kind))
  syscall : o.field "syscall" = some (.text operation)
  path : o.field "path" = some (.text path)
  others : ∀ name, name ∉ ["message", "stack", "code", "syscall", "path"] → o.field name = none

/-- The error that is made by code which runs at some places. -/
def fileErrorAt (frames : List Frame) (e : Failure) (operation path : String) : Object :=
  (((errorAt frames "Error" (failureText e operation path)).put "code"
    (.text (failureCode e.kind))).put "syscall" (.text operation)).put "path" (.text path)

theorem field_errorAt (frames : List Frame) (kind message name : String) :
    (errorAt frames kind message).field name =
      if name = "message" then some (.text message)
      else if name = "stack" then some (.text (stackText frames)) else none := by
  simp only [errorAt, Object.field, Guest.hidden, lookup_cons]
  split
  · rfl
  · split <;> rfl

theorem isFileError_at (frames : List Frame) (e : Failure) (operation path : String) :
    IsFileError (fileErrorAt frames e operation path) e operation path where
  kind := rfl
  parent := rfl
  message := by simp [fileErrorAt, Object.field_put, field_errorAt]
  code := by simp [fileErrorAt, Object.field_put]
  syscall := by simp [fileErrorAt, Object.field_put]
  path := by simp [fileErrorAt, Object.field_put]
  others name hname := by
    simp only [List.mem_cons, List.not_mem_nil, or_false, not_or] at hname
    simp [fileErrorAt, Object.field_put, field_errorAt, hname]

example : failureText .missing "open" "/work/a.yaml" =
    "ENOENT: No such file or directory (os error 2), open '/work/a.yaml'" := by decide

theorem run_fileError (w : World) (e : Failure) (operation path : String) :
    run w (fileError e operation path) = (.ok (.object w.heap.size),
      { w with heap := w.heap.push (fileErrorAt w.frames e operation path) }) := by
  unfold fileError
  dsimp only
  rw [run_bind_ok (run_makeError w _ _), run_bind_ok (run_assign _ _ _ _),
    run_bind_ok (run_assign _ _ _ _), run_bind_ok (run_assign _ _ _ _)]
  simp only [Heap.modify_push]
  rfl

/-! ## Inspections -/

/-- An object tells an inspection: its numbers, and a function for each question about the kind. -/
structure ShowsStat (h : Heap) (r : Ref) (stat : FileStat) : Prop where
  kind : (h.at_ r).kind = .plain
  size : (h.at_ r).field "size" = some (.ofNat stat.size)
  dev : (h.at_ r).field "dev" = some (.ofNat 0)
  changed : (h.at_ r).field "mtimeMs" = some (.number (changeMillis stat.changed))
  unknown : stat.modified = false → (h.at_ r).field "mtimeMs" = some (.ofNat 0)
  questions : ∀ q ∈ kindQuestions, ∃ f, (h.at_ r).field q.1 = some (.object f) ∧
    (h.at_ f).kind = .function (.answer (decide (stat.kind = q.2)))
  others : ∀ name, name ∉ "size" :: "dev" :: "mtimeMs" :: kindQuestions.map (·.1) →
    (h.at_ r).field name = none

/-- The heap with a function for one more question, as a property of an object. -/
def withAnswer (stat : FileStat) (r : Ref) (h : Heap) (q : String × FileKind) : Heap :=
  Heap.modify (h.push (functionObject q.1 (.answer (decide (stat.kind = q.2))) [])) r
    (·.put q.1 (.object h.size))

section
variable {stat : FileStat} {q : String × FileKind} {questions : List (String × FileKind)}

theorem size_withAnswer : (withAnswer stat r h q).size = h.size + 1 := by
  simp [withAnswer]

theorem lt_withAnswer {r' : Ref} (hr' : r' < h.size) : r' < (withAnswer stat r h q).size := by
  rw [size_withAnswer]
  exact Nat.lt_succ_of_lt hr'

theorem withAnswer_at_self (hr : r < h.size) :
    (withAnswer stat r h q).at_ r = (h.at_ r).put q.1 (.object h.size) := by
  unfold withAnswer
  have hpush : ∀ o, r < (h.push o).size := fun o => by
    rw [Array.size_push]
    exact Nat.lt_succ_of_lt hr
  rw [Heap.at_modify_self _ (hpush _), Heap.at_push_lt _ hr]

theorem withAnswer_at_new (hr : r < h.size) : (withAnswer stat r h q).at_ h.size =
    functionObject q.1 (.answer (decide (stat.kind = q.2))) [] := by
  unfold withAnswer
  rw [Heap.at_modify_ne _ (Nat.ne_of_gt hr), Heap.at_push_self]

theorem withAnswer_at_other {r' : Ref} (hr' : r' < h.size) (hne : r' ≠ r) :
    (withAnswer stat r h q).at_ r' = h.at_ r' := by
  unfold withAnswer
  rw [Heap.at_modify_ne _ hne, Heap.at_push_lt _ hr']

theorem answers_at_other {r' : Ref} (hr' : r' < h.size) (hne : r' ≠ r) :
    Heap.at_ (questions.foldl (withAnswer stat r) h) r' = h.at_ r' := by
  induction questions generalizing h with
  | nil => rfl
  | cons q questions ih =>
    rw [List.foldl_cons, ih (lt_withAnswer hr'), withAnswer_at_other hr' hne]

theorem answers_kind (hr : r < h.size) :
    (Heap.at_ (questions.foldl (withAnswer stat r) h) r).kind = (h.at_ r).kind := by
  induction questions generalizing h with
  | nil => rfl
  | cons q questions ih =>
    rw [List.foldl_cons, ih (lt_withAnswer hr), withAnswer_at_self hr, Object.put_kind]

/-- The other properties stay. -/
theorem answers_field (hr : r < h.size) {name : String} (hname : name ∉ questions.map (·.1)) :
    (Heap.at_ (questions.foldl (withAnswer stat r) h) r).field name = (h.at_ r).field name := by
  induction questions generalizing h with
  | nil => rfl
  | cons q questions ih =>
    rw [List.map_cons, List.mem_cons, not_or] at hname
    rw [List.foldl_cons, ih (lt_withAnswer hr) hname.2, withAnswer_at_self hr, Object.field_put,
      if_neg hname.1]

/-- Each question has a function that answers it. -/
theorem answers_question (hr : r < h.size) (hnames : (questions.map (·.1)).Nodup)
    (hq : q ∈ questions) :
    ∃ f, (Heap.at_ (questions.foldl (withAnswer stat r) h) r).field q.1 = some (.object f) ∧
      (Heap.at_ (questions.foldl (withAnswer stat r) h) f).kind =
        .function (.answer (decide (stat.kind = q.2))) := by
  induction questions generalizing h with
  | nil => cases hq
  | cons first questions ih =>
    rw [List.map_cons, List.nodup_cons] at hnames
    have hr' : r < (withAnswer stat r h first).size := lt_withAnswer hr
    have hnew : h.size < (withAnswer stat r h first).size := by
      rw [size_withAnswer]
      exact Nat.lt_succ_self _
    rw [List.foldl_cons]
    rcases List.mem_cons.mp hq with rfl | hq
    · refine ⟨h.size, ?_, ?_⟩
      · rw [answers_field hr' hnames.1, withAnswer_at_self hr, Object.field_put, if_pos rfl]
      · rw [answers_at_other hnew (Nat.ne_of_gt hr), withAnswer_at_new hr]
        rfl
    · exact ih hr' hnames.2 hq

end

/-- The heap with the object of an inspection. -/
def withStat (h : Heap) (stat : FileStat) : Heap :=
  kindQuestions.foldl (withAnswer stat h.size) (h.push (record
    [("size", .ofNat stat.size), ("dev", .ofNat 0),
      ("mtimeMs", .number (changeMillis stat.changed))]))

theorem showsStat_withStat (h : Heap) (stat : FileStat) :
    ShowsStat (withStat h stat) h.size stat := by
  have hat := h.at_push_self
  have hlt : ∀ o, h.size < (h.push o).size := fun o => by simp
  have hchanged : (Heap.at_ (withStat h stat) h.size).field "mtimeMs" =
      some (.number (changeMillis stat.changed)) := by
    rw [withStat, answers_field (hlt _) (by decide), hat]
    simp [record, Object.field_put]
  unfold withStat at hchanged ⊢
  refine ⟨?_, ?_, ?_, hchanged, fun hunknown => ?_, fun q hq => ?_, fun name hname => ?_⟩
  · rw [answers_kind (hlt _), hat]
    rfl
  · rw [answers_field (hlt _) (by decide), hat]
    simp [record, Object.field_put]
  · rw [answers_field (hlt _) (by decide), hat]
    simp [record, Object.field_put]
  · rw [hchanged, Option.not_isSome_iff_eq_none.mp (Bool.eq_false_iff.mp hunknown)]
    rfl
  · exact answers_question (hlt _) (by decide) hq
  · simp only [List.mem_cons, not_or] at hname
    rw [answers_field (hlt _) hname.2.2.2, hat]
    simp only [record, List.foldl, Object.field_put, if_neg hname.1, if_neg hname.2.1,
      if_neg hname.2.2.1]
    rfl

theorem run_answers (w : World) (h : Heap) (r : Ref) (stat : FileStat)
    (questions : List (String × FileKind)) :
    run { w with heap := h } (forIn questions PUnit.unit fun q _ => do
        let f ← makeFunction q.1 (.answer (decide (stat.kind = q.2)))
        assign r q.1 (.object f)
        pure (ForInStep.yield PUnit.unit)) =
      (.ok (), { w with heap := questions.foldl (withAnswer stat r) h }) := by
  induction questions generalizing h with
  | nil => rfl
  | cons q questions ih =>
    have hmake : ∀ (w : World) (f : Function), run w (makeFunction q.1 f) =
        (.ok w.heap.size, { w with heap := w.heap.push (functionObject q.1 f []) }) :=
      fun _ _ => rfl
    rw [List.forIn_cons, bind_assoc, run_bind_ok (hmake _ _), bind_assoc,
      run_bind_ok (run_assign _ _ _ _), pure_bind]
    exact ih (withAnswer stat r h q)

theorem run_statsObject (w : World) (stat : FileStat) :
    run w (statsObject stat) =
      (.ok (.object w.heap.size), { w with heap := withStat w.heap stat }) := by
  unfold statsObject
  rw [run_bind_ok (run_makeRecord w _), run_bind_ok (run_answers w _ w.heap.size stat kindQuestions)]
  rfl

/-! ## The lookup behind all styles -/

/-- What an operation finds. -/
inductive Finding where
  | text (s : String)
  | stat (stat : FileStat)

/-- What an operation on a path finds, by way of a host. -/
def FileOperation.answer (operation : FileOperation) (files : Resolution) (host : Access)
    (path : String) : Except Failure Finding :=
  match operation with
  | .stat => (files.stat host path).result.map .stat
  | .lstat => (files.lstat host path).result.map .stat
  | .readText => (files.read host path).result.map fun content => .text (Utf8.decodeLossy content)

/-- A value shows what was found. -/
def Finding.IsShown (h : Heap) (v : Value) : Finding → Prop
  | .text s => v = .text s
  | .stat st => ∃ r, v = .object r ∧ ShowsStat h r st

/-- A value or an error tells what an operation has found, or how it failed. -/
def FileOperation.Delivers (operation : FileOperation) (path : String) (h : Heap)
    (answer : Except Failure Finding) (result : Except Value Value) : Prop :=
  (∀ found, answer = .ok found → ∃ v, result = .ok v ∧ found.IsShown h v) ∧
    ∀ e, answer = .error e →
      ∃ r, result = .error (.object r) ∧ IsFileError (h.at_ r) e operation.name path

/-- What is read is shown as a text. -/
theorem FileOperation.Delivers.text {path : String} {files : Resolution} {host : Access}
    {result : Except Value Value}
    (hdelivers : readText.Delivers path h (readText.answer files host path) result) :
    ∀ v, result = .ok v → ∃ s, v = .text s := by
  obtain ⟨hfound, hfailed⟩ := hdelivers
  rintro v rfl
  cases hread : (files.read host path).result with
  | ok content =>
    obtain ⟨v', hv, hshown⟩ := hfound (.text (Utf8.decodeLossy content))
      (congrArg (Except.map fun content => Finding.text (Utf8.decodeLossy content)) hread)
    cases hv
    exact ⟨_, hshown⟩
  | error e =>
    obtain ⟨r, hr, -⟩ := hfailed e
      (congrArg (Except.map fun content => Finding.text (Utf8.decodeLossy content)) hread)
    cases hr

/-- The world with the notes of a lookup among its logs. -/
def noted (w : World) (notes : List Virtual.Note) : World :=
  { w with logs := notes.foldl (fun logs note => logs.push ⟨.warn, note.message, none⟩) w.logs }

theorem run_lookedUp {α : Type} (w : World) (answer : Virtual.Answer α) :
    run w (lookedUp answer) = (.ok answer.result, noted w answer.notes) := by
  have hlogs : ∀ (notes : List Virtual.Note) (w : World),
      run w (forIn notes PUnit.unit fun note _ => do
        log .warn note.message none
        pure (ForInStep.yield PUnit.unit)) = (.ok (), noted w notes) := by
    intro notes
    induction notes with
    | nil => exact fun _ => rfl
    | cons note notes ih =>
      intro w
      have hlog : run w (log .warn note.message none) =
        (.ok (), { w with logs := w.logs.push ⟨.warn, note.message, none⟩ }) := rfl
      rw [List.forIn_cons, bind_assoc, run_bind_ok hlog, pure_bind]
      exact ih _
  unfold lookedUp
  rw [run_bind_ok (hlogs _ w)]
  rfl

/-- Turns what was found into a value, or the failure into an error. -/
def FileOperation.conclude {α : Type} (operation : FileOperation) (path : String)
    (value : α → Machine Value) : Except Failure α → Machine (Except Value Value)
  | .ok a => .ok <$> value a
  | .error e => .error <$> fileError e operation.name path

theorem run_conclude {α : Type} (operation : FileOperation) (path : String)
    {value : α → Machine Value} {found : α → Finding}
    (hvalue : ∀ w a, ∃ v h, run w (value a) = (.ok v, { w with heap := h }) ∧
      (found a).IsShown h v) (w : World) (answer : Except Failure α) :
    ∃ result h, run w (operation.conclude path value answer) =
        (.ok result, { w with heap := h }) ∧
      operation.Delivers path h (answer.map found) result := by
  cases answer with
  | ok a =>
    obtain ⟨v, h, hrun, hshown⟩ := hvalue w a
    refine ⟨.ok v, h, ?_, fun _ hfound => ?_, fun _ herror => ?_⟩
    · show run w (Except.ok <$> value a) = _
      rw [← bind_pure_comp, run_bind_ok hrun]
      rfl
    · cases hfound
      exact ⟨v, rfl, hshown⟩
    · cases herror
  | error e =>
    refine ⟨.error (.object w.heap.size),
      w.heap.push (fileErrorAt w.frames e operation.name path), ?_, fun _ hfound => ?_,
      fun _ herror => ?_⟩
    · show run w (Except.error <$> fileError e operation.name path) = _
      rw [← bind_pure_comp, run_bind_ok (run_fileError w e operation.name path)]
      rfl
    · cases hfound
    · cases herror
      refine ⟨w.heap.size, rfl, ?_⟩
      rw [Heap.at_push_self]
      exact isFileError_at ..

theorem shown_stat (w : World) (stat : FileStat) :
    ∃ v h, run w (statsObject stat) = (.ok v, { w with heap := h }) ∧
      (Finding.stat stat).IsShown h v :=
  ⟨_, _, run_statsObject w stat, w.heap.size, rfl, showsStat_withStat w.heap stat⟩

theorem shown_text (w : World) (content : Bytes) :
    ∃ v h, run w (pure (.text (Utf8.decodeLossy content)) : Machine Value) =
        (.ok v, { w with heap := h }) ∧
      (Finding.text (Utf8.decodeLossy content)).IsShown h v :=
  ⟨_, _, run_pure w _, rfl⟩

/-- **The lookup.** It always comes back. What it found, or how it failed, is told by its result; of
the world only the heap and the log change. -/
theorem run_operation (operation : FileOperation) (files : Resolution) (path : String) (w : World) :
    ∃ result h logs, run w (operation.run files path) =
        (.ok result, { w with heap := h, logs := logs }) ∧
      operation.Delivers path h (operation.answer files w.surroundings.host path) result := by
  have hconclude : ∀ {α : Type} {value : α → Machine Value} {found : α → Finding}
      (answer : Virtual.Answer α), (∀ w a, ∃ v h, run w (value a) = (.ok v, { w with heap := h }) ∧
        (found a).IsShown h v) →
      ∃ result h logs, run w (lookedUp answer >>= operation.conclude path value) =
          (.ok result, { w with heap := h, logs := logs }) ∧
        operation.Delivers path h (answer.result.map found) result := by
    intro α value found answer hvalue
    obtain ⟨result, h, hrun, hdelivers⟩ :=
      run_conclude operation path hvalue (noted w answer.notes) answer.result
    exact ⟨result, h, _, (run_bind_ok (run_lookedUp w answer) _).trans hrun, hdelivers⟩
  cases operation with
  | stat => exact hconclude (files.stat w.surroundings.host path) shown_stat
  | lstat => exact hconclude (files.lstat w.surroundings.host path) shown_stat
  | readText => exact hconclude (files.read w.surroundings.host path) shown_text

/-! ## The styles -/

/-- The function that answers by value or by exception. -/
def FileOperation.syncFunction : FileOperation → FileFunction
  | stat => .statSync
  | lstat => .lstatSync
  | readText => .readFileSync

/-- The function that answers by a callback. -/
def FileOperation.callbackFunction : FileOperation → FileFunction
  | stat => .stat
  | lstat => .lstat
  | readText => .readFile

/-- The arguments of a call that names a path and a callback. Reading takes options before the
callback, too. -/
def FileOperation.Takes (operation : FileOperation) (path : String) (callback : Value)
    (args : List Value) : Prop :=
  match operation with
  | readText => args = [.text path, callback] ∨
      ∃ options rest, args = .text path :: options :: callback :: rest
  | _ => ∃ rest, args = .text path :: callback :: rest

/-- What a call that answers by value or by exception ends in. -/
def returned (result : Except Value Value) : Except Stop Value :=
  result.mapError .thrown

/-- What a callback is called with. -/
def callbackArgs : Except Value Value → List Value
  | .ok v => [.null, v]
  | .error e => [e, .null]

/-- The promise that answers at once. -/
def settledPromise (result : Except Value Value) : Object where
  kind := .promise (match result with
    | .ok v => .fulfilled v
    | .error e => .rejected e)
  parent := some Place.promiseParent

theorem run_bySync (w : World) (result : Except Value Value) :
    run w (bySync result) = (returned result, w) := by
  cases result <;> rfl

theorem byCallback_eq (call : Call) (callback : Value) (result : Except Value Value) :
    byCallback call callback result = (do
      let _ ← call callback .undefined (callbackArgs result)
      pure .undefined) := by
  cases result <;> rfl

theorem run_byPromise (w : World) {result : Except Value Value}
    (htext : ∀ v, result = .ok v → ∃ s, v = .text s) :
    run w (byPromise result) = (.ok (.object w.heap.size),
      { w with heap := w.heap.push (settledPromise result) }) := by
  have hmake : run w makePromise = (.ok w.heap.size,
      { w with heap := w.heap.push ⟨.promise (.pending 0 []), some Place.promiseParent, []⟩ }) :=
    rfl
  have hpending : (Heap.at_ (w.heap.push ⟨.promise (.pending 0 []), some Place.promiseParent, []⟩)
      w.heap.size).kind = .promise (.pending 0 []) := by
    rw [Heap.at_push_self]
  have hsettle : ∀ v fulfils, run
      { w with heap := w.heap.push ⟨.promise (.pending 0 []), some Place.promiseParent, []⟩ }
      (settle w.heap.size v fulfils) = (.ok (), { w with
        heap := w.heap.push ⟨.promise (settledState v fulfils), some Place.promiseParent, []⟩ }) := by
    intro v fulfils
    rw [run_settle hpending, World.promiseSet, Heap.modify_push, List.map_nil, List.append_nil]
    rfl
  unfold byPromise
  rw [run_bind_ok hmake]
  cases result with
  | ok v =>
    obtain ⟨s, rfl⟩ := htext v rfl
    have hplain : ∀ h : Heap, ¬ h.Thenable (.text s) := fun _ h => h
    dsimp only
    rw [run_bind_ok ((run_resolve_plain (hplain _)).trans (hsettle (.text s) true))]
    rfl
  | error e =>
    dsimp only
    rw [reject, run_bind_ok (hsettle e false)]
    rfl

/-! ## Calls -/

section
variable {path : String} {args : List Value}

theorem requireArgs_ok {required : Nat} (h : required ≤ args.length) :
    requireArgs required args = pure () :=
  if_neg (Nat.not_lt.mpr h)

theorem textArg_first (path : String) (rest : List Value) :
    textArg (argAt (.text path :: rest) 0) = pure path := rfl

theorem run_functionArg {callback : Value} (h : w.heap.isFunction callback = true) :
    run w (functionArg callback) = (.ok callback, w) := by
  unfold functionArg
  rw [run_bind_ok (run_heap w), if_pos h]
  rfl

theorem runFile_sync (call : Call) (operation : FileOperation) (files : Resolution)
    (rest : List Value) :
    runFile call operation.syncFunction files (.text path :: rest) =
      operation.run files path >>= bySync := by
  cases operation <;>
  · simp only [runFile, FileOperation.syncFunction]
    rw [requireArgs_ok (by simp), textArg_first, pure_bind, pure_bind]

theorem runFile_promise (call : Call) (files : Resolution) (rest : List Value) :
    runFile call .readFilePromise files (.text path :: rest) =
      FileOperation.readText.run files path >>= byPromise := by
  simp only [runFile]
  rw [requireArgs_ok (by simp), textArg_first, pure_bind, pure_bind]

/-- The callback is found among the arguments. -/
theorem run_runFile_callback {call : Call} {operation : FileOperation} {files : Resolution}
    {callback : Value} (hcallback : w.heap.isFunction callback = true)
    (hargs : operation.Takes path callback args) :
    run w (runFile call operation.callbackFunction files args) =
      run w (operation.run files path >>= byCallback call callback) := by
  have hfunction := run_functionArg hcallback
  cases operation with
  | stat =>
    obtain ⟨rest, rfl⟩ := hargs
    simp only [runFile, FileOperation.callbackFunction]
    rw [requireArgs_ok (by simp), textArg_first, pure_bind, pure_bind]
    exact run_bind_ok hfunction _
  | lstat =>
    obtain ⟨rest, rfl⟩ := hargs
    simp only [runFile, FileOperation.callbackFunction]
    rw [requireArgs_ok (by simp), textArg_first, pure_bind, pure_bind]
    exact run_bind_ok hfunction _
  | readText =>
    have hread : run w (readCallback args) = (.ok callback, w) ∧
        ∃ rest, args = .text path :: rest ∧ rest ≠ [] := by
      obtain rfl | ⟨options, rest, rfl⟩ := hargs
      · refine ⟨?_, _, rfl, by simp⟩
        show run w (heap >>= fun h => if h.isFunction callback then pure callback else _) = _
        rw [run_bind_ok (run_heap w), if_pos hcallback]
        rfl
      · exact ⟨hfunction, _, rfl, by simp⟩
    obtain ⟨hread, rest, rfl, hrest⟩ := hread
    have hlength := List.length_pos_iff.mpr hrest
    simp only [runFile, FileOperation.callbackFunction]
    rw [requireArgs_ok (by rw [List.length_cons]; omega), textArg_first, pure_bind, pure_bind]
    exact run_bind_ok hread _

theorem run_exists (call : Call) (files : Resolution) (rest : List Value) :
    run w (runFile call .existsSync files (.text path :: rest)) =
      (.ok (.boolean (files.stat w.surroundings.host path).result.isOk),
        noted w (files.stat w.surroundings.host path).notes) := by
  simp only [runFile]
  rw [requireArgs_ok (by simp), textArg_first, pure_bind, pure_bind, run_bind_ok (run_get w),
    run_bind_ok (run_lookedUp w _)]
  rfl

end

/-! ## The styles agree -/

/-- **Styles.** For every way of routing files, path and world of a guest, and for each operation
there is one result, told by what the host has at the path, and one world that the lookup leaves.
The function that answers by value or exception returns or throws the result; the one that takes a
callback does what a single call of the callback with the result does, and throws what that throws;
the one that answers by a promise gives a promise that is settled with the result. And a path is
said to exist exactly when its inspection does not throw. -/
theorem file_styles_agree (files : Resolution) (path : String) (w : World) :
    (∀ operation : FileOperation, ∃ result h logs,
      operation.Delivers path h (operation.answer files w.surroundings.host path) result ∧
      ∀ call,
        (∀ rest, run w (runFile call operation.syncFunction files (.text path :: rest)) =
          (returned result, { w with heap := h, logs := logs })) ∧
        (∀ callback args, w.heap.isFunction callback = true →
          operation.Takes path callback args →
          run w (runFile call operation.callbackFunction files args) =
            run { w with heap := h, logs := logs } (do
              let _ ← call callback .undefined (callbackArgs result)
              pure .undefined)) ∧
        (operation = .readText → ∀ rest,
          run w (runFile call .readFilePromise files (.text path :: rest)) =
            (.ok (.object h.size),
              { w with heap := h.push (settledPromise result), logs := logs }))) ∧
    ∀ call rest, ∃ exists? w', run w (runFile call .existsSync files (.text path :: rest)) =
        (.ok (.boolean exists?), w') ∧
      (exists? = true ↔
        ∃ v w'', run w (runFile call .statSync files (.text path :: rest)) = (.ok v, w'')) := by
  refine ⟨fun operation => ?_, fun call rest => ?_⟩
  · obtain ⟨result, h, logs, hrun, hdelivers⟩ := run_operation operation files path w
    refine ⟨result, h, logs, hdelivers, fun call => ⟨fun rest => ?_, ?_, ?_⟩⟩
    · rw [runFile_sync, run_bind_ok hrun, run_bySync]
    · intro callback args hcallback hargs
      rw [run_runFile_callback hcallback hargs, run_bind_ok hrun, byCallback_eq]
    · rintro rfl rest
      rw [runFile_promise, run_bind_ok hrun, run_byPromise _ hdelivers.text]
  · obtain ⟨result, h, logs, hrun, hfound, hfailed⟩ := run_operation .stat files path w
    refine ⟨_, _, run_exists call files rest, ?_⟩
    have hsync : run w (runFile call .statSync files (.text path :: rest)) =
        (returned result, { w with heap := h, logs := logs }) := by
      rw [← run_bySync, ← run_bind_ok hrun]
      exact congrArg (run w) (runFile_sync call .stat files rest)
    rw [hsync]
    cases hstat : (files.stat w.surroundings.host path).result with
    | ok stat =>
      obtain ⟨v, rfl, -⟩ := hfound (.stat stat) (congrArg (Except.map Finding.stat) hstat)
      exact iff_of_true rfl ⟨v, _, rfl⟩
    | error e =>
      obtain ⟨r, rfl, -⟩ := hfailed e (congrArg (Except.map Finding.stat) hstat)
      exact iff_of_false Bool.false_ne_true fun ⟨_, _, heq⟩ => by cases heq

end GuestLint.Builtin

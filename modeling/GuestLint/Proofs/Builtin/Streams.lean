import GuestLint.Builtin.Streams
import GuestLint.Proofs.Guest.Machine
import GuestLint.Proofs.Stream.Scene

/-!
# Guest streams as scenes

A method of a stream hands control to the guest in two places: where a delivery calls a listener,
and where a write runs the consumer. Cut there, the methods become a dialogue, and the guest may do
anything between its answers as long as it leaves the channel to the methods.

* `readDeed`, `runStream_eq`: a method reads its arguments, without touching any channel, and then
  does one deed to the channel.
* `code_carries`: the dialogue of a deed does what the deed does.
* `Follows.after`: over every list of moves, the channel and the calls that wait are those of a
  scene, and so are the calls that listeners get.
* `openStream_channels`: a new stream has a new channel.
-/
namespace GuestLint.Builtin

open Guest
open Dialogue (Talk Stage Conf Move)
open GuestLint.Stream (Channel Notice Seat Event Use Scene Turn Delivery)

/-! ## Deeds -/

/-- What a method of a stream does to it. -/
inductive Deed where
  | use (u : Use Value Value)
  | write (chunk : Value)

/-- Reads the event and the listener of a registration. -/
def readListener (method : String) (event? : String → Option Event) (args : List Value) :
    Machine (Event × Value) := do
  requireArgs 2 args
  let name ← textArg (argAt args 0)
  let listener ← functionArg (argAt args 1)
  match event? name with
  | some event => pure (event, listener)
  | none => raise "TypeError" ("PassThrough." ++ method ++ ": unsupported event '" ++ name ++ "'")

/-- The stream that a method works on, what it does to it, and what it answers. Constructors do
nothing to a stream that is there. -/
def readDeed (f : StreamFunction) (this : Value) (args : List Value) :
    Machine (Option (Ref × Deed) × Value) :=
  match f with
  | .readable | .passThrough => pure (none, .undefined)
  | .acknowledge stream =>
    pure (some (stream, .use (.acknowledge (args.head?.filter fun e => !e.isAbsent))), .undefined)
  | .push => do
    requireArgs 1 args
    let stream ← objectArg this
    pure (some (stream, .use (.push (argAt args 0))), .boolean true)
  | .on => do
    let stream ← objectArg this
    let (event, listener) ← readListener "on" Event.ofName? args
    pure (some (stream, .use (.listen event listener)), this)
  | .once => do
    let stream ← objectArg this
    let (event, listener) ← readListener "once" Event.ofOnceName? args
    pure (some (stream, .use (.listen event listener)), this)
  | .write => do
    requireArgs 1 args
    let stream ← objectArg this
    pure (some (stream, .write (argAt args 0)), .boolean true)
  | .end => do
    let stream ← objectArg this
    pure (some (stream, .use .finish), this)

variable (call : Call) (channel : Nat) (stream : Ref)

def perform : Deed → Machine Unit
  | .use u => (seatOf call channel stream).use u
  | .write chunk => writeChunk call channel stream chunk

theorem listen_eq (method : String) (event? : String → Option Event) (args : List Value) :
    listen (seatOf call channel stream) method event? args =
      readListener method event? args >>= fun p =>
        perform call channel stream (.use (.listen p.1 p.2)) := by
  unfold listen readListener
  simp only [bind_assoc]
  congr 1; funext _
  congr 1; funext name
  congr 1; funext listener
  cases event? name with
  | none => rfl
  | some event => simp only [pure_bind]; rfl

/-- Does the deed that was read, and answers. -/
def carryDeed (read : Option (Ref × Deed) × Value) : Machine Value := do
  match read.1 with
  | some (stream, deed) => perform call channel stream deed
  | none => pure ()
  pure read.2

/-- A method reads its arguments and does one deed. -/
theorem runStream_eq (f : StreamFunction) (hf : f ≠ .passThrough) (this : Value)
    (args : List Value) :
    runStream call f channel this args = readDeed f this args >>= carryDeed call channel := by
  cases f with
  | passThrough => exact absurd rfl hf
  | readable => rfl
  | acknowledge stream => simp only [runStream, readDeed, pure_bind]; rfl
  | push => simp only [runStream, readDeed, bind_assoc, pure_bind]; rfl
  | on => simp only [runStream, readDeed, bind_assoc, pure_bind, listen_eq]; rfl
  | once => simp only [runStream, readDeed, bind_assoc, pure_bind, listen_eq]; rfl
  | write => simp only [runStream, readDeed, bind_assoc, pure_bind]; rfl
  | «end» => simp only [runStream, readDeed, bind_assoc, pure_bind]; rfl

/-! ### Reading arguments touches no channel -/

theorem spares_refuse {α : Type} (v : Value) (wanted : String) :
    Guest.Spares World.channels (refuse v wanted : Machine α) :=
  leaves_heap.spares.bind fun _ => spares_channels_raise _ _

theorem spares_requireArgs (n : Nat) (args : List Value) :
    Guest.Spares World.channels (requireArgs n args) := by
  unfold requireArgs
  split
  · exact spares_channels_raise _ _
  · exact .pure _

theorem spares_objectArg (v : Value) : Guest.Spares World.channels (objectArg v) := by
  cases v with
  | object r => exact .pure r
  | _ => exact spares_refuse _ _

theorem spares_textArg (v : Value) : Guest.Spares World.channels (textArg v) := by
  cases v with
  | text s => exact .pure s
  | _ => exact spares_refuse _ _

theorem spares_functionArg (v : Value) : Guest.Spares World.channels (functionArg v) := by
  refine leaves_heap.spares.bind fun h => ?_
  split
  · exact .pure v
  · exact spares_refuse _ _

theorem spares_getProperty (v : Value) (name : String) :
    Guest.Spares World.channels (getProperty v name) := by
  cases v with
  | object r => exact leaves_heap.spares.bind fun _ => .pure _
  | undefined => exact spares_channels_raise _ _
  | null => exact spares_channels_raise _ _
  | _ => exact .pure _

theorem spares_readListener (method : String) (event? : String → Option Event)
    (args : List Value) : Guest.Spares World.channels (readListener method event? args) := by
  refine (spares_requireArgs 2 args).bind fun _ => ?_
  refine (spares_textArg _).bind fun name => ?_
  refine (spares_functionArg _).bind fun listener => ?_
  cases event? name with
  | none => exact spares_channels_raise _ _
  | some event => exact .pure _

/-- Whatever the arguments, nothing happens to a channel before the deed. -/
theorem spares_readDeed (f : StreamFunction) (this : Value) (args : List Value) :
    Guest.Spares World.channels (readDeed f this args) := by
  cases f with
  | readable => exact .pure _
  | passThrough => exact .pure _
  | acknowledge stream => exact .pure _
  | push =>
    exact (spares_requireArgs 1 args).bind fun _ => (spares_objectArg this).bind fun _ => .pure _
  | on =>
    exact (spares_objectArg this).bind fun _ => (spares_readListener _ _ args).bind fun _ => .pure _
  | once =>
    exact (spares_objectArg this).bind fun _ => (spares_readListener _ _ args).bind fun _ => .pure _
  | write =>
    exact (spares_requireArgs 1 args).bind fun _ => (spares_objectArg this).bind fun _ => .pure _
  | «end» => exact (spares_objectArg this).bind fun _ => .pure _

/-! ## Deeds as dialogues -/

/-- What a stream asks of the guest. -/
inductive Ask where
  | listener (listener : Value) (notice : Notice Value)
  | consumer (f : Value) (args : List Value)

/-- How the engine answers. -/
def host : Ask → Machine Unit
  | .listener listener notice => (seatOf call channel stream).notify listener notice
  | .consumer f args => do
    let _ ← call f (.object stream) args

/-- The channel as the methods have it, with listener calls that are asked for. -/
def seatTalk : Seat (Talk World Ask Stop) Value Value where
  load := hosted (seatOf call channel stream).load
  store c := hosted ((seatOf call channel stream).store c)
  notify listener notice := Talk.ask (.listener listener notice)

/-- The consumer of a stream, and what it is given: the chunk and a callback. -/
def readConsumer (chunk : Value) : Machine (Value × List Value) := do
  let consumer ← getProperty (.object stream) "_write"
  if consumer.isAbsent then raise "TypeError" "PassThrough.write: _write is not implemented"
  let consumer ← functionArg consumer
  let callback ← makeFunction "" (.stream (.acknowledge stream) channel)
  pure (consumer, [chunk, .text "utf8", .object callback])

def code : Deed → Talk World Ask Stop Unit
  | .use u => (seatTalk call channel stream).use u
  | .write chunk =>
    hosted (readConsumer channel stream chunk) >>= fun p => Talk.ask (.consumer p.1 p.2)

theorem writeChunk_eq (chunk : Value) :
    writeChunk call channel stream chunk =
      readConsumer channel stream chunk >>= fun p =>
        host call channel stream (.consumer p.1 p.2) := by
  simp only [writeChunk, readConsumer, bind_assoc]
  congr 1; funext consumer
  split <;> simp only [bind_assoc, pure_bind] <;> rfl

theorem spares_readConsumer (chunk : Value) :
    Guest.Spares World.channels (readConsumer channel stream chunk) := by
  refine (spares_getProperty _ _).bind fun consumer => ?_
  have hrest : Guest.Spares World.channels (do
      let consumer ← functionArg consumer
      let callback ← makeFunction "" (.stream (.acknowledge stream) channel)
      pure (consumer, [chunk, .text "utf8", .object callback])) :=
    (spares_functionArg _).bind fun _ => (leaves_channels_allocate _).spares.bind fun _ => .pure _
  split
  · exact (spares_channels_raise _ _).bind fun _ => hrest
  · exact hrest

/-! ### The dialogue does what the deed does -/

section
variable {call : Call} {channel : Nat} {stream : Ref}

theorem carries_modify (f : Channel Value Value → Channel Value Value) :
    Carries (host call channel stream) ((seatTalk call channel stream).modify f)
      ((seatOf call channel stream).modify f) :=
  (Carries.hosted _).bind fun _ => .hosted _

theorem carries_carryOut (d : Delivery) :
    Carries (host call channel stream) ((seatTalk call channel stream).carryOut d)
      ((seatOf call channel stream).carryOut d) := by
  refine (Carries.hosted _).bind fun c => ?_
  cases c.notice? d with
  | none => exact .pure ()
  | some told => exact Carries.ask (Ask.listener told.1 told.2)

theorem carries_carryOutAll (plan : List Delivery) :
    Carries (host call channel stream) ((seatTalk call channel stream).carryOutAll plan)
      ((seatOf call channel stream).carryOutAll plan) := by
  induction plan with
  | nil => exact .pure ()
  | cons d rest ih => exact (carries_carryOut d).bind fun _ => ih

theorem carries_deliver :
    Carries (host call channel stream) (seatTalk call channel stream).deliver
      (seatOf call channel stream).deliver :=
  (Carries.hosted _).bind fun _ => (Carries.hosted _).bind fun _ => carries_carryOutAll _

/-- With the engine for the guest, the dialogue of a deed is the deed. -/
theorem code_carries (deed : Deed) :
    Carries (host call channel stream) (code call channel stream deed)
      (perform call channel stream deed) := by
  cases deed with
  | use u =>
    cases u with
    | push chunk => exact carries_modify _
    | listen event listener => exact (carries_modify _).bind fun _ => carries_deliver
    | finish => exact (carries_modify _).bind fun _ => carries_deliver
    | acknowledge reason =>
      cases reason with
      | none => exact (Carries.pure ()).bind fun _ => carries_deliver
      | some e => exact (carries_modify _).bind fun _ => carries_deliver
  | write chunk =>
    show Carries _ _ (writeChunk call channel stream chunk)
    rw [writeChunk_eq]
    exact (Carries.hosted _).bind fun p => .ask _

end
/-! ## Streams as scenes -/

/-- What the guest does to the world on its own: the channel is for the methods only. -/
def Untouched (channel : Nat) (_ : List Ask) (w w' : World) : Prop :=
  w'.channels[channel]? = w.channels[channel]?

/-- What a guest does while a stream is in use. -/
abbrev GuestMove (channel : Nat) := Move Deed World Ask Stop (Untouched channel)

abbrev StreamConf := Conf World Ask Stop Unit

/-- The listener calls among what happens. -/
def listenerCalls (events : List (Dialogue.Event Deed Ask Stop Unit)) :
    List (Value × Notice Value) :=
  events.filterMap fun
    | .asked (.listener listener notice) => some (listener, notice)
    | _ => none

theorem listenerCalls_append (es es' : List (Dialogue.Event Deed Ask Stop Unit)) :
    listenerCalls (es ++ es') = listenerCalls es ++ listenerCalls es' := List.filterMap_append

/-- The turns of a scene that a move stands for. -/
def turnsOf (channel : Nat) (stream : Ref) (c : StreamConf) :
    GuestMove channel → List (Turn Value Value)
  | .call (.use u) => [.use u]
  | .call (.write chunk) =>
    match (run c.state (readConsumer channel stream chunk)).1 with
    | .ok _ => [.wait]
    | .error _ => []
  | .answer (.ok _) => [.reply true]
  | .answer (.error _) => [.reply false]
  | .between _ _ => []

/-- Each call that waits goes on with a plan when it returns, the innermost with the first. -/
def GoesOnWith (c : StreamConf) (plans : List (List Delivery)) : Prop :=
  c.frames.map (·.next) =
    plans.map fun plan => Talk.resume ((seatTalk call channel stream).carryOutAll plan)

/-- The channel of the stream is that of the scene, and each call that waits goes on with the
calls that the scene has left for it. -/
structure Follows (s : Scene Value Value) (c : StreamConf) : Prop where
  sound : s.Sound
  held : c.state.channels[channel]? = some s.channel
  frames : GoesOnWith call channel stream c s.waiting

/-- What came of a scene's turns is what the guest sees. -/
def Agrees (calls : List (Stream.Made Value Value))
    (events : List (Dialogue.Event Deed Ask Stop Unit)) : Prop :=
  calls.map (·.told) = (listenerCalls events).map some

section
variable {call : Call} {channel : Nat} {stream : Ref}

theorem run_load {w : World} {c : Channel Value Value} (h : w.channels[channel]? = some c) :
    run w (seatOf call channel stream).load = (.ok c, w) := by
  show (Except.ok (w.channels[channel]?.getD {}), w) = _
  rw [h]
  rfl

/-- Showing a channel changes no channel. -/
theorem leaves_showChannel (stream : Ref) (c : Channel Value Value) :
    Guest.Leaves World.channels (showChannel stream c) := by
  refine leaves_heap.bind fun h => ?_
  split
  · refine (Leaves.forIn fun p _ => leaves_heap.bind fun h => ?_).bind fun _ => ?_
    · split
      · exact (leaves_channels_modifyObject _ _).bind fun _ => .pure _
      · exact .pure _
    · split
      · exact leaves_channels_modifyObject _ _
      · exact .pure ()
  · exact .pure ()

theorem run_store (call : Call) (stream : Ref) {w : World} {c : Channel Value Value}
    (h : w.channels[channel]? = some c) (c' : Channel Value Value) :
    ∃ w', run w ((seatOf call channel stream).store c') = (.ok (), w') ∧
      w'.channels[channel]? = some c' := by
  obtain ⟨hlt, -⟩ := Array.getElem?_eq_some_iff.mp h
  obtain ⟨a, w', hrun, hch⟩ :=
    leaves_showChannel stream c'
      { w with channels := w.channels.setIfInBounds channel c' }
  refine ⟨w', hrun, ?_⟩
  rw [hch]
  simp [hlt]

/-! ### What a use does to the world -/

theorem modify_run (call : Call) (stream : Ref) {w : World} {c : Channel Value Value}
    (h : w.channels[channel]? = some c) (f : Channel Value Value → Channel Value Value) :
    ∃ w', (seatTalk call channel stream).modify f w = .done (.ok ()) w' ∧
      w'.channels[channel]? = some (f c) := by
  obtain ⟨w', hrun, hheld⟩ := run_store call stream h (f c)
  exact ⟨w', (hosted_bind_run (run_load h) _).trans (hosted_run hrun), hheld⟩

theorem deliver_run (call : Call) (stream : Ref) {w : World} {c : Channel Value Value}
    (h : w.channels[channel]? = some c) :
    ∃ w', (seatTalk call channel stream).deliver w =
        (seatTalk call channel stream).carryOutAll c.due w' ∧
      w'.channels[channel]? = some c.marked := by
  obtain ⟨w', hrun, hheld⟩ := run_store call stream h c.marked
  exact ⟨w', (hosted_bind_run (run_load h) _).trans (hosted_bind_run hrun _), hheld⟩

/-- A use changes the channel and goes on with its plan. -/
theorem use_run (call : Call) (stream : Ref) {w : World} {c : Channel Value Value}
    (h : w.channels[channel]? = some c) (u : Use Value Value) :
    ∃ w', (seatTalk call channel stream).use u w =
        (seatTalk call channel stream).carryOutAll (u.plan c) w' ∧
      w'.channels[channel]? = some (u.after c) := by
  have change_deliver : ∀ f : Channel Value Value → Channel Value Value,
      ∃ w', ((seatTalk call channel stream).modify f >>= fun _ =>
          (seatTalk call channel stream).deliver) w =
          (seatTalk call channel stream).carryOutAll (f c).due w' ∧
        w'.channels[channel]? = some (f c).marked := by
    intro f
    obtain ⟨w1, h1, hheld⟩ := modify_run call stream h f
    obtain ⟨w2, h2, hheld⟩ := deliver_run call stream hheld
    refine ⟨w2, ?_, hheld⟩
    rw [Talk.bind_run, h1]
    exact h2
  cases u with
  | push chunk => exact modify_run call stream h _
  | listen event listener => exact change_deliver _
  | finish => exact change_deliver _
  | acknowledge reason =>
    cases reason with
    | none => exact deliver_run call stream h
    | some e => exact change_deliver _

/-- After the channel's part of a use, the scene is where the stream is, and what the use plans is
still to be carried out. -/
theorem Follows.used {s : Scene Value Value} {c : StreamConf}
    (h : Follows call channel stream s c) (u : Use Value Value) :
    ∃ w', (seatTalk call channel stream).use u c.state =
        (seatTalk call channel stream).carryOutAll (u.plan s.channel) w' ∧
      Follows call channel stream { s with channel := u.after s.channel }
        { c with state := w' } := by
  obtain ⟨w', hrun, hheld⟩ := use_run call stream h.held u
  refine ⟨w', hrun, ⟨Use.after_inStep h.sound.inStep u, fun p hm d hd => ?_⟩, hheld, h.frames⟩
  exact Use.after_has (h.sound.has p hm d hd) u

theorem carryOutAll_cons_run {w : World} {c : Channel Value Value}
    (h : w.channels[channel]? = some c) {d : Delivery} {told : Value × Notice Value}
    (hd : c.notice? d = some told) (rest : List Delivery) :
    (seatTalk call channel stream).carryOutAll (d :: rest) w =
      .ask (.listener told.1 told.2) w
        (Talk.resume ((seatTalk call channel stream).carryOutAll rest)) := by
  have hout : (seatTalk call channel stream).carryOut d w =
      Talk.ask (Ask.listener told.1 told.2) w := by
    refine (hosted_bind_run (run_load h) _).trans ?_
    rw [hd]
    rfl
  rw [← Talk.ask_bind_run, Talk.bind_run, ← hout]
  rfl

/-! ### Each move is a turn of the scene -/

theorem Follows.begin {s : Scene Value Value} {w : World}
    {frames : List (Dialogue.Frame World Ask Stop Unit)}
    (h : Follows call channel stream s ⟨w, frames⟩) {plan : List Delivery}
    (hp : ∀ d ∈ plan, s.channel.ledger.Has d) :
    Follows call channel stream (s.begin plan).1
        (Conf.settle frames ((seatTalk call channel stream).carryOutAll plan w) :
          StreamConf × Dialogue.Event Deed Ask Stop Unit).1 ∧
      Agrees (s.begin plan).2.toList
        [(Conf.settle frames ((seatTalk call channel stream).carryOutAll plan w)).2] := by
  cases plan with
  | nil => exact ⟨h, rfl⟩
  | cons d rest =>
    obtain ⟨told, htold⟩ := h.sound.inStep.notice (hp d List.mem_cons_self)
    rw [carryOutAll_cons_run h.held htold]
    refine ⟨⟨h.sound.begin hp, h.held, ?_⟩, ?_⟩
    · exact congrArg _ h.frames
    · simp [Agrees, Scene.begin, listenerCalls, Conf.settle, htold]

theorem Follows.answer {s : Scene Value Value} {c : StreamConf}
    (h : Follows call channel stream s c) {plan : List Delivery} {rest : List (List Delivery)}
    (hw : s.waiting = plan :: rest) :
    ∃ f frames, c.frames = f :: frames ∧
      f.next = Talk.resume ((seatTalk call channel stream).carryOutAll plan) ∧
      (∀ d ∈ plan, s.channel.ledger.Has d) ∧
      Follows call channel stream { s with waiting := rest } { c with frames := frames } := by
  have hframes := h.frames
  rw [GoesOnWith, hw, List.map_cons] at hframes
  obtain ⟨f, frames, hc, hf, hrest⟩ := List.map_eq_cons_iff.mp hframes
  have hs := h.sound.has
  rw [hw] at hs
  refine ⟨f, frames, hc, hf, hs plan List.mem_cons_self, ⟨?_, h.held, hrest⟩⟩
  exact ⟨h.sound.inStep, fun p hm => hs p (List.mem_cons_of_mem _ hm)⟩

/-- One move of the guest is the turns that it stands for. -/
theorem Follows.step {s : Scene Value Value} {c : StreamConf}
    (h : Follows call channel stream s c) (m : GuestMove channel) :
    Follows call channel stream (s.after (turnsOf channel stream c m))
        (c.step (code call channel stream) m).1 ∧
      Agrees (s.calls (turnsOf channel stream c m))
        (c.step (code call channel stream) m).2 := by
  cases m with
  | call deed =>
    cases deed with
    | use u =>
      obtain ⟨w', hrun, hused⟩ := h.used u
      have hbegin := hused.begin fun d => Use.plan_has (c := s.channel) (u := u)
      simp only [turnsOf, Scene.after, Scene.calls, List.append_nil, Conf.step, code, hrun]
      exact hbegin
    | write chunk =>
      have hspares := spares_readConsumer channel stream chunk c.state
      simp only [turnsOf, Conf.step, code]
      cases hread : run c.state (readConsumer channel stream chunk) with
      | mk r w' =>
        rw [hread] at hspares
        have hheld : w'.channels[channel]? = some s.channel := hspares ▸ h.held
        rw [Talk.bind_run, hosted_run hread]
        cases r with
        | ok p =>
          refine ⟨⟨h.sound.step .wait, hheld, ?_⟩, rfl⟩
          exact congrArg₂ List.cons Talk.resume_pure.symm h.frames
        | error e => exact ⟨⟨h.sound, hheld, h.frames⟩, rfl⟩
  | answer r =>
    cases hw : s.waiting with
    | nil =>
      have hnone : c.frames = [] := by simpa [GoesOnWith, hw] using h.frames
      cases r <;> simp [turnsOf, Scene.after, Scene.calls, Scene.step, hw, Conf.step, hnone, h,
        Agrees, listenerCalls]
    | cons plan rest =>
      obtain ⟨f, frames, hc, hf, hhas, hrest⟩ := h.answer hw
      cases r with
      | ok a =>
        have hbegin := hrest.begin hhas
        simp only [turnsOf, Scene.after, Scene.calls, Scene.step, hw, List.append_nil, Conf.step,
          hc, hf, Talk.resume, if_true]
        exact hbegin
      | error e =>
        simp only [turnsOf, Scene.after, Scene.calls, Scene.step, hw, List.append_nil, Conf.step,
          hc, hf, Talk.resume, Bool.false_eq_true, if_false]
        exact ⟨hrest, rfl⟩
  | between f spares => exact ⟨⟨h.sound, (spares _ _).trans h.held, h.frames⟩, rfl⟩

/-- The turns that a list of moves stands for. -/
def turns (call : Call) (channel : Nat) (stream : Ref) (c : StreamConf) :
    List (GuestMove channel) → List (Turn Value Value)
  | [] => []
  | m :: ms =>
    turnsOf channel stream c m ++
      turns call channel stream (c.step (code call channel stream) m).1 ms

/-- **Scenes.** Whatever the guest does, the stream is the scene of its turns, and its listeners
get the calls of that scene. -/
theorem Follows.after {s : Scene Value Value} {c : StreamConf}
    (h : Follows call channel stream s c) (ms : List (GuestMove channel)) :
    Follows call channel stream (s.after (turns call channel stream c ms))
        (c.after (code call channel stream) ms) ∧
      Agrees (s.calls (turns call channel stream c ms))
        (c.events (code call channel stream) ms) := by
  induction ms generalizing s c with
  | nil => exact ⟨h, rfl⟩
  | cons m ms ih =>
    obtain ⟨hstep, hnow⟩ := h.step m
    obtain ⟨hafter, hlater⟩ := ih hstep
    refine ⟨?_, ?_⟩
    · rw [turns, Scene.after_append]
      exact hafter
    · rw [turns, Scene.calls_append]
      unfold Agrees at hnow hlater ⊢
      rw [List.map_append, hnow, hlater, ← List.map_append, ← listenerCalls_append]
      rfl

end

/-- The calls of a scene are calls of error listeners exactly when what the guest sees are. -/
theorem Agrees.isError_iff {s : Scene Value Value} {ts : List (Turn Value Value)}
    {events : List (Dialogue.Event Deed Ask Stop Unit)} (h : Agrees (s.calls ts) events) :
    (∀ told ∈ listenerCalls events, told.2.isError = true) ↔
      ∀ call ∈ s.calls ts, ∃ l, call.delivery = .error l := by
  have htold : ∀ call ∈ s.calls ts, ∃ told ∈ listenerCalls events,
      (told.2.isError = true ↔ ∃ l, call.delivery = .error l) := by
    intro call hc
    obtain ⟨told, hm, ht⟩ := List.mem_map.mp (h ▸ List.mem_map_of_mem hc)
    obtain ⟨c, hn⟩ := Scene.calls_told hc
    exact ⟨told, hm, Channel.notice?_isError (hn.symm.trans ht.symm)⟩
  constructor
  · intro hall call hc
    obtain ⟨told, hm, hiff⟩ := htold call hc
    exact hiff.mp (hall told hm)
  · intro hall told hm
    obtain ⟨call, hc, ht⟩ := List.mem_map.mp (h.symm ▸ List.mem_map_of_mem hm)
    obtain ⟨c, hn⟩ := Scene.calls_told hc
    exact (Channel.notice?_isError (hn.symm.trans ht)).mpr (hall call hc)

/-! ## New streams -/

/-- A new stream has a channel of its own, behind those that there were. -/
theorem openStream_channels (w : World) (stream : Ref) :
    ∃ w', run w (openStream stream) = (.ok (), w') ∧ w'.channels = w.channels.push {} := by
  unfold openStream
  refine Leaves.run_bind (π := World.channels) ?_ fun lists w1 h1 => ?_
  · exact Leaves.mapM (fun p => ((leaves_channels_allocate _).map _).bind fun _ => .pure _) _
  refine (leaves_channels_makeRecord lists).run_bind fun r w2 h2 => ?_
  refine (leaves_channels_assign stream stateProperty _).run_bind fun _ w3 h3 => ?_
  rw [run_bind_ok (run_get w3), run_bind_ok (run_modify w3 _)]
  refine Leaves.run_bind (π := World.channels) (Leaves.forIn fun p _ => ?_) fun _ w4 h4 => ?_
  · refine (leaves_channels_allocate _).bind fun _ => ?_
    exact (leaves_channels_assign stream _ _).bind fun _ => .pure _
  · exact ⟨w4, rfl, h4.trans (congrArg (·.push {}) (h3.trans (h2.trans h1)))⟩

/-- A stream that has just been opened, before the guest does anything. -/
def opened (w : World) (stream : Ref) : StreamConf := ⟨(run w (openStream stream)).2, []⟩

/-- A new stream is a new scene. -/
theorem follows_opened (call : Call) (w : World) (stream : Ref) :
    Follows call w.channels.size stream {} (opened w stream) := by
  obtain ⟨w', hrun, hch⟩ := openStream_channels w stream
  rw [opened, hrun]
  exact ⟨Scene.sound_new, by simp [hch], rfl⟩

end GuestLint.Builtin

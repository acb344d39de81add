import Mathlib.Control.Monad.Basic
import GuestLint.Cli.Command
import GuestLint.Proofs.Json.Yields
import GuestLint.Proofs.Lint.Stages

/-!
# Time limits that end beyond the clock

The deadline of a run is the instant at which it starts and its time limit. Nothing bounds the
limit, but the clock has an end: a limit that ends behind it makes the run fail where it starts.
Any other limit is kept exactly.

* `start_limited`, `check_started`: the watchdog of a limited run.
* `startEngine_overflow_iff`, `lint_overflow`: the run behind it.
* `settle_timeout`: the limit that an option sets is that of the run.
* `Prepared`: a command that has come to its run.
* `ofText_timeout`: the limits that a file can set.
* `inTime_seconds`, `inTime_millis`: the limits of the command line and of a file.
* `limit_kept_iff`: all of it, for any context and any limit.
-/
namespace GuestLint.Lint

open Cli (LintArgs Invocation CommandError readConfig directoryOption bundleOption scriptOption
  timeoutOption runLint)
open Guest

/-! ## The watchdog of a limited run -/

/-- The limit ends at an instant that the clock can show. -/
def InTime (now : Instant) (limit : Duration) : Prop :=
  now + limit.nanoseconds < clockSeconds * 1000000000

instance (now : Instant) (limit : Duration) : Decidable (InTime now limit) :=
  inferInstanceAs (Decidable (_ < _))

theorem start_limited (now : Instant) (limit : Duration) (cancelled : Bool) :
    Watchdog.start now (some limit) cancelled =
      if InTime now limit then some ⟨some (now + limit.nanoseconds, limit), cancelled⟩ else none := by
  have hafter : Instant.after now limit =
      if InTime now limit then some (now + limit.nanoseconds) else none := rfl
  show (Instant.after now limit).map _ = _
  rw [hafter]
  split <;> rfl

theorem start_limited_eq_none_iff (now : Instant) (limit : Duration) (cancelled : Bool) :
    Watchdog.start now (some limit) cancelled = none ↔ ¬ InTime now limit := by
  rw [start_limited]
  split
  · next h => exact iff_of_false nofun (not_not_intro h)
  · next h => exact iff_of_true rfl h

theorem start_limited_eq_some {now : Instant} {limit : Duration} {cancelled : Bool}
    {watchdog : Watchdog} (h : Watchdog.start now (some limit) cancelled = some watchdog) :
    watchdog = ⟨some (now + limit.nanoseconds, limit), cancelled⟩ := by
  rw [start_limited] at h
  split at h
  · exact (Option.some.inj h).symm
  · cases h

/-- The watchdog tells an expired limit from the deadline on, unless it tells a cancellation. -/
theorem check_started {now t : Instant} {limit l : Duration} {cancelled : Bool}
    {watchdog : Watchdog} (h : Watchdog.start now (some limit) cancelled = some watchdog) :
    watchdog.check t = .error (.timeout l) ↔
      cancelled = false ∧ l = limit ∧ now + limit.nanoseconds ≤ t := by
  rw [start_limited_eq_some h]
  unfold Watchdog.check
  cases cancelled with
  | true => simp
  | false =>
    by_cases ht : now + limit.nanoseconds ≤ t
    · simp [ht, eq_comm]
    · simp [ht]

/-! ## The run behind it -/

section
variable {context : HostContext} {config : Config} {limit : Duration}

/-- The start of a run fails for its deadline exactly if the limit does not end in time. -/
theorem startEngine_overflow_iff (hlimit : config.timeout = some limit) (w : World) :
    (startEngine context config).run.run w = (.error deadlineOverflow, w) ↔
      ¬ InTime (context.clock 0) limit := by
  obtain ⟨r, hrun, hstarts⟩ := run_startEngine_starts context config w
  rw [hrun, ← start_limited_eq_none_iff _ _ (config.cancelled.getD false), ← hlimit]
  cases hstarts with
  | overflow hstart => exact iff_of_true rfl hstart
  | noMemory hstart => exact iff_of_false nofun (by rw [hstart]; nofun)
  | interrupted hstart => exact iff_of_false nofun (by rw [hstart]; nofun)
  | ready hstart => exact iff_of_false nofun (by rw [hstart]; nofun)

theorem lint_overflow {options : List LintOption} (hsettle : settle context options = .ok config)
    (hlimit : config.timeout = some limit) (h : ¬ InTime (context.clock 0) limit)
    (documents : List String) (ruleset : String) :
    lint context documents ruleset options =
      (.error deadlineOverflow, startWorld context (bundleLoader context.host config.dist)) := by
  unfold lint lintWithin
  rw [hsettle]
  show (runConfigWithin maxLooks context config documents ruleset).run.run _ = _
  unfold runConfigWithin
  rw [run_bind_stage, (startEngine_overflow_iff hlimit _).mpr h]

end

/-! ## The limits that a run is given -/

/-- Settling a run leaves the limit of its options. -/
theorem settle_eq_ok {context : HostContext} {options : List LintOption} {config : Config}
    (h : settle context options = .ok config) :
    ∃ given, Config.ofOptions options = .ok given ∧ config.timeout = given.timeout := by
  unfold settle at h
  cases hgiven : Config.ofOptions options with
  | error cause =>
    rw [hgiven] at h
    cases h
  | ok given =>
    rw [hgiven] at h
    refine ⟨given, rfl, ?_⟩
    obtain ⟨_, heq, h⟩ := Json.ok_of_bind h
    cases heq
    dsimp only at h
    split at h
    all_goals
      obtain ⟨directory, -, h⟩ := Json.ok_of_bind h
      cases h
      rfl

/-- The limit that comes last is that of the run. -/
theorem settle_timeout {context : HostContext} {earlier : List LintOption} {limit : Duration}
    {config : Config}
    (h : settle context (earlier ++ [LintOption.timeout limit]) = .ok config) :
    config.timeout = some limit := by
  obtain ⟨given, hgiven, htimeout⟩ := settle_eq_ok h
  rw [htimeout]
  rw [Config.ofOptions, List.foldlM_append] at hgiven
  obtain ⟨before, -, hlast⟩ := Json.ok_of_bind hgiven
  cases hlast
  rfl

/-- A number of milliseconds that has been read from a file fits 64 bits. -/
def BelowWord (millis : Option Nat) : Prop := ∀ n, millis = some n → n < Nat.pow 2 64

theorem millis_yields : Json.Yields BelowWord (Json.nullable FileConfig.word64) := by
  have hmax : Nat.pow 2 64 = 18446744073709551616 := by decide
  refine Json.nullable_yields ((Json.integerOf_yields "u64" 0 0xFFFFFFFFFFFFFFFF).bind
    fun n hn => .pure ?_)
  omega

theorem fieldsOf_yields (level : Nat) :
    Json.Yields (fun s => ∀ millis, s.timeoutMillis = some millis → BelowWord millis)
      (FileConfig.fieldsOf level) := by
  refine Json.recordOf_yields (fun level => ?_) (fun level rest => ?_) level
  · intro rest s rest' h
    obtain ⟨_, -, h⟩ := Json.ok_of_bind h
    obtain ⟨_, -, h⟩ := Json.ok_of_bind h
    obtain ⟨_, -, h⟩ := Json.ok_of_bind h
    obtain ⟨_, -, h⟩ := Json.ok_of_bind h
    obtain ⟨_, hmillis, h⟩ := Json.ok_of_bind h
    cases h
    exact Json.element_yields millis_yields false _ _ _ hmillis
  · refine Json.members_yields (fun s key hs => ?_) _ true (fun _ h => by cases h) rest
    intro rest s' rest' h
    unfold FileConfig.Fields.step at h
    split at h
    case h_5 =>
      obtain ⟨_, hmillis, h⟩ := Json.ok_of_bind h
      cases h
      exact Json.member_yields millis_yields _ _ _ _ _ hmillis
    case h_6 => cases h
    all_goals
      -- another field is taken in, and the number stays
      obtain ⟨_, -, h⟩ := Json.ok_of_bind h
      cases h
      exact hs

/-- A file that is accepted sets no limit, or one of a number of milliseconds of 64 bits that is not
zero. -/
theorem ofText_timeout {text : String} {file : FileConfig} {limit : Duration}
    (h : FileConfig.ofText text = .ok file) (hlimit : file.timeout = some limit) :
    ∃ n, 0 < n ∧ n < Nat.pow 2 64 ∧ limit = .ofMillis n := by
  obtain ⟨n, hn, rfl⟩ := Option.map_eq_some_iff.mp hlimit
  unfold FileConfig.ofText at h
  split at h
  · cases h
  · next fields hfields =>
    split at h
    · cases h
    · next hzero =>
      cases h
      have hread : fields.timeoutMillis = some (some n) := Option.join_eq_some_iff.mp hn
      refine ⟨n, Nat.pos_of_ne_zero fun h => hzero (h ▸ hn), ?_, rfl⟩
      exact Json.decode_yields (fieldsOf_yields _) hfields _ hread n rfl

/-- A command that has come to its run: what it needs has been read, and the settings are made. -/
structure Prepared (context : HostContext) (configPath : Option String) (args : LintArgs) where
  file : FileConfig
  directory : List LintOption
  dist : List LintOption
  script : List LintOption
  config : Config
  file_read : readConfig context.host configPath = .ok file
  documents_named :
    (if args.documents.isEmpty then file.documents else args.documents).isEmpty = false
  directory_made : directoryOption context args file = .ok directory
  dist_read : bundleOption context args file = .ok dist
  script_read : scriptOption context args = .ok script
  settled : settle context (directory ++ dist ++ script ++ timeoutOption args file) = .ok config

namespace Prepared

variable {context : HostContext} {configPath : Option String} {args : LintArgs}
  (p : Prepared context configPath args)

/-- The limit of the command line in seconds counts more than that of the file. -/
def limit : Option Duration := (args.timeout.map Duration.ofSeconds).or p.file.timeout

theorem config_timeout {limit : Duration} (h : p.limit = some limit) :
    p.config.timeout = some limit := by
  have hoption : timeoutOption args p.file = [LintOption.timeout limit] := by
    unfold Prepared.limit at h
    unfold timeoutOption
    rw [h]
  exact settle_timeout (hoption ▸ p.settled)

/-- A command ends with the error of its run. -/
theorem result_eq_error {e : LintError} {w : World}
    (h : ∀ documents ruleset, lint context documents ruleset
      (p.directory ++ p.dist ++ p.script ++ timeoutOption args p.file) = (.error e, w)) :
    (runLint context configPath args).result = .error (.lint e) := by
  unfold runLint
  simp only [p.file_read, p.documents_named, p.directory_made, p.dist_read, p.script_read, h, bind,
    Except.bind, pure, Except.pure, Bool.false_eq_true, if_false]

theorem result_overflow {limit : Duration} (hlimit : p.limit = some limit)
    (h : ¬ InTime (context.clock 0) limit) :
    (runLint context configPath args).result = .error (.lint deadlineOverflow) :=
  p.result_eq_error fun documents ruleset =>
    lint_overflow p.settled (p.config_timeout hlimit) h documents ruleset

end Prepared

/-! ## Both sides of the end -/

theorem inTime_seconds (now : Instant) (n : Nat) :
    InTime now (.ofSeconds n) ↔ now / 1000000000 + n < clockSeconds := by
  show now + n * 1000000000 < clockSeconds * 1000000000 ↔ _
  rw [← Nat.add_mul_div_right _ _ (by decide : 0 < 1000000000),
    Nat.div_lt_iff_lt_mul (by decide)]

/-- The limit of a file ends in time while the clock is 64 bits of milliseconds before its end. -/
theorem inTime_millis {now : Instant} {text : String} {file : FileConfig} {limit : Duration}
    (h : FileConfig.ofText text = .ok file) (hlimit : file.timeout = some limit)
    (hnow : now + Nat.pow 2 64 * 1000000 ≤ clockSeconds * 1000000000) : InTime now limit := by
  obtain ⟨n, -, hn, rfl⟩ := ofText_timeout h hlimit
  have hless : n * 1000000 < Nat.pow 2 64 * 1000000 := Nat.mul_lt_mul_of_pos_right hn (by decide)
  exact Nat.lt_of_lt_of_le (Nat.add_lt_add_left hless now) hnow

/-- What a time limit means for the runs of a context. -/
structure LimitKept (context : HostContext) (limit : Duration) : Prop where
  /-- There is a watchdog exactly if the limit ends in time. -/
  built : ∀ cancelled,
    (∃ watchdog, Watchdog.start (context.clock 0) (some limit) cancelled = some watchdog) ↔
      InTime (context.clock 0) limit
  /-- A watchdog tells that the time is up as soon as the limit has passed, and not before. -/
  expires : ∀ cancelled watchdog,
    Watchdog.start (context.clock 0) (some limit) cancelled = some watchdog →
    ∀ t l, watchdog.check t = .error (.timeout l) ↔
      cancelled = false ∧ l = limit ∧ context.clock 0 + limit.nanoseconds ≤ t
  /-- A run with this limit fails for its deadline exactly if the limit does not end in time. -/
  started : ∀ options config, settle context options = .ok config → config.timeout = some limit →
    ∀ w, (startEngine context config).run.run w = (.error deadlineOverflow, w) ↔
      ¬ InTime (context.clock 0) limit
  /-- Such a run ends there, before any code of the guest. -/
  ended : ∀ options config, settle context options = .ok config → config.timeout = some limit →
    ¬ InTime (context.clock 0) limit → ∀ documents ruleset,
      lint context documents ruleset options =
        (.error deadlineOverflow, startWorld context (bundleLoader context.host config.dist))
  /-- The option sets the limit of the run. -/
  option : ∀ earlier config, settle context (earlier ++ [LintOption.timeout limit]) = .ok config →
    config.timeout = some limit
  /-- The limit of a command is that of its run, and ends it in the same way. -/
  command : ∀ configPath args (p : Prepared context configPath args), p.limit = some limit →
    p.config.timeout = some limit ∧
    (¬ InTime (context.clock 0) limit →
      (runLint context configPath args).result = .error (.lint deadlineOverflow))
  /-- The limits of the command line, in seconds. -/
  seconds : ∀ n, limit = .ofSeconds n →
    (InTime (context.clock 0) limit ↔ context.clock 0 / 1000000000 + n < clockSeconds)
  /-- The limits of files, in milliseconds. -/
  millis : ∀ text file, FileConfig.ofText text = .ok file → file.timeout = some limit →
    context.clock 0 + Nat.pow 2 64 * 1000000 ≤ clockSeconds * 1000000000 →
    InTime (context.clock 0) limit

/-- **Limits.** Whichever way a limit is given, the run fails for it exactly if the limit ends
beyond the last instant of the clock. A limit that ends in time is kept to the instant. -/
theorem limit_kept_iff (context : HostContext) (limit : Duration) : LimitKept context limit where
  built := fun cancelled => by
    rw [← Option.ne_none_iff_exists', ne_eq, start_limited_eq_none_iff, not_not]
  expires := fun _ _ h _ _ => check_started h
  started := fun _ _ _ hlimit => startEngine_overflow_iff hlimit
  ended := fun _ _ hsettle hlimit h => lint_overflow hsettle hlimit h
  option := fun _ _ hsettle => settle_timeout hsettle
  command := fun _ _ p hlimit => ⟨p.config_timeout hlimit, p.result_overflow hlimit⟩
  seconds := fun n h => h ▸ inTime_seconds _ n
  millis := fun _ _ h hlimit hnow => inTime_millis h hlimit hnow

/-- A host without files, at the start of its clock. -/
def bareContext : HostContext where
  host :=
    { read := fun _ => .error .missing
      stat := fun _ => .error .missing
      lstat := fun _ => .error .missing }
  currentPath := .ok "/"

/-- A command with a limit of as many seconds as the clock has. -/
def patientArgs : LintArgs := { documents := ["a.yaml"], timeout := some 9223372036854775808 }

/-- The command comes to its run. -/
def patientRun : Prepared bareContext none patientArgs where
  file := {}
  directory := []
  dist := []
  script := []
  config :=
    { workingDirectory := "/"
      before := some (defaultBefore "/" none)
      timeout := some (.ofSeconds 9223372036854775808) }
  file_read := rfl
  documents_named := rfl
  directory_made := rfl
  dist_read := rfl
  script_read := rfl
  settled := rfl

/-- The number of seconds is accepted, and there is no watchdog for it: the run fails. -/
theorem accepted_limit_overflows :
    Invocation.ofArgs ["lint", "a.yaml", "--timeout", "9223372036854775808"] =
      .ok { command := .lint patientArgs } ∧
    Watchdog.start (bareContext.clock 0) (some (.ofSeconds 9223372036854775808)) false = none ∧
    (runLint bareContext none patientArgs).result = .error (.lint deadlineOverflow) := by
  have hlate : ¬ InTime (bareContext.clock 0) (.ofSeconds 9223372036854775808) := by decide
  exact ⟨by decide +kernel, (start_limited_eq_none_iff _ _ _).mpr hlate,
    patientRun.result_overflow rfl hlate⟩

end GuestLint.Lint

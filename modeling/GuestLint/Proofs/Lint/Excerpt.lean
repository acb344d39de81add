import Mathlib.Control.Monad.Basic
import GuestLint.Proofs.Guest.Stack
import GuestLint.Proofs.Lint.Stages

/-!
# Where excerpts come from

An exception of a lint run is shown with the line of source at the first place of its stack. The
line is looked up by the name of the file, among the texts that the run has recorded: those of the
bundle and of the modules, each when it is loaded, and that of the driver script.

* `Evaluates`: the texts that a run can evaluate, by the names of their files.
* `Recorded`: a run records no other text.
* `Evaluates.unique_iff`: only the name of the driver script can stand for two texts.
* `excerpt_source`: an excerpt is the line at the first place of the stack, in a text that the run
  can evaluate under the name of the file.
-/
namespace GuestLint.Lint

open Diagnostics (Captured Sources readStack)
open Guest

/-! ## What is recorded -/

/-- The texts that a run can evaluate under the name of a file: the driver script under its own
name, and what the loader gives for a name. -/
def Evaluates (context : HostContext) (config : Config) (file text : String) : Prop :=
  file = scriptName ∧ text = config.script ∨
    ∃ content, bundleLoader context.host config.dist file = .ok content ∧
      text = Utf8.decodeLossy content

/-- Only texts that the run can evaluate are recorded. -/
structure Recorded (context : HostContext) (config : Config) (g : Registry) : Prop where
  loader : g.loader = bundleLoader context.host config.dist
  texts : ∀ p ∈ g.sources.texts, Evaluates context config p.1 p.2

variable {context : HostContext} {config : Config} {documents : List String} {ruleset : String}
  {options : List LintOption} {captured : Captured}

theorem Recorded.record {g : Registry} {name text : String} (h : Recorded context config g)
    (htext : Evaluates context config name text) :
    Recorded context config (g.recordSource name text) := by
  refine ⟨h.loader, ?_⟩
  intro p hp
  rcases List.mem_cons.mp hp with rfl | hp
  · exact htext
  · exact h.texts p (List.mem_filter.mp hp).1

instance : Admits (Recorded context config) where
  record := by
    intro g g' name content hg hg' hcontent
    rw [hg.loader] at hcontent
    exact hg'.record (.inr ⟨content, hcontent, rfl⟩)
  register := by
    intro g name b hg
    exact ⟨hg.loader, hg.texts⟩

theorem recorded_start (context : HostContext) (config : Config) :
    Recorded context config
      (startWorld context (bundleLoader context.host config.dist)).registry := by
  refine ⟨rfl, ?_⟩
  intro p hp
  cases hp

theorem Recorded.line? {g : Registry} (h : Recorded context config g) {file line : String} {n : Nat}
    (hline : g.sources.line? file n = some line) :
    ∃ text, Evaluates context config file text ∧ 0 < n ∧
      (Text.lines text.toList)[n - 1]? = some line.toList := by
  unfold Sources.line? at hline
  cases htext : g.sources.text? file with
  | none => simp [htext] at hline
  | some text =>
    obtain ⟨newer, older, htexts, -⟩ := List.lookup_eq_some_iff.mp htext
    have hmem : (file, text) ∈ g.sources.texts := by simp [htexts]
    by_cases hn : n = 0
    · simp [htext, hn] at hline
    · simp only [htext, Option.bind_eq_bind, Option.bind_some, if_neg hn,
        Option.map_eq_some_iff] at hline
      obtain ⟨chars, hchars, rfl⟩ := hline
      exact ⟨text, h.texts _ hmem, Nat.pos_of_ne_zero hn, by rw [hchars, String.toList_ofList]⟩

/-! ## Excerpts -/

/-- Settings that are refused are no exception. -/
theorem settle_error {e : LintError} (h : settle context options = .error e) :
    e ≠ .evaluate captured := by
  rintro rfl
  unfold settle at h
  cases hconfig : Config.ofOptions options with
  | error cause =>
    rw [hconfig] at h
    cases h
  | ok config =>
    rw [hconfig] at h
    by_cases hdirectory : config.workingDirectory = ""
    · cases hpath : context.currentPath with
      | error cause => simp [Except.mapError, bind, Except.bind, hdirectory, hpath] at h
      | ok path =>
        simp [Except.mapError, bind, Except.bind, pure, Except.pure, hdirectory, hpath] at h
    · simp [Except.mapError, bind, Except.bind, pure, Except.pure, hdirectory] at h

/-- An exception that ends a run is captured with what the run has recorded. -/
theorem lint_captured
    (h : (lint context documents ruleset options).1 = .error (.evaluate captured)) :
    ∃ config, settle context options = .ok config ∧
      (captured = interrupted ∨ ∃ g text stack missing, Recorded context config g ∧
        captured = .ofThrown g.sources text stack missing) := by
  unfold lint lintWithin at h
  cases hsettle : settle context options with
  | error e =>
    rw [hsettle] at h
    exact absurd (Except.error.inj h) (settle_error hsettle)
  | ok config =>
    rw [hsettle] at h
    have hstart := recorded_start context config
    have hscript : ∀ g, Recorded context config g →
        Recorded context config (g.recordSource scriptName config.script) := by
      intro g hg
      exact hg.record (.inl ⟨rfl, rfl⟩)
    have hcaptures := captures_runConfig maxLooks context config documents ruleset hscript
    have hkept := hcaptures.keeps _ hstart
    refine ⟨config, rfl, ?_⟩
    rcases hcaptures.sources _ captured _ hstart (Prod.ext h rfl) with
      hend | ⟨text, stack, missing, hend⟩
    · exact .inl hend
    · exact .inr ⟨_, text, stack, missing, hkept, hend⟩

/-- Where an excerpt comes from: the first place of the exception's stack is a line of a file, and
the excerpt is that line of a text that the run can evaluate under the name of the file. It is the
place at which code has raised an exception with this stack. -/
structure Excerpt (context : HostContext) (config : Config) (captured : Captured)
    (line file : String) (n : Nat) (text : String) : Prop where
  evaluated : Evaluates context config file text
  line_of_text : 0 < n ∧ (Text.lines text.toList)[n - 1]? = some line.toList
  first_place : ∃ stack frame outer,
    captured.stack = String.ofList (Text.trimEnd stack.toList) ∧
    readStack stack = frame :: outer ∧ frame.file = some file ∧ frame.line = some n ∧
    ∀ place : Frame, place.Readable → RaisedAt place stack → place.file = file ∧ place.line = n

/-- No other source has the name of the driver script. -/
def NamedApart (context : HostContext) (config : Config) : Prop :=
  ∀ content, bundleLoader context.host config.dist scriptName = .ok content →
    Utf8.decodeLossy content = config.script

/-- Only the name of the driver script can stand for two texts. -/
theorem Evaluates.unique_iff {file text : String} (h : Evaluates context config file text) :
    (∀ other, Evaluates context config file other → other = text) ↔
      (file = scriptName → NamedApart context config) := by
  constructor
  · rintro hunique rfl content hcontent
    exact (hunique _ (.inr ⟨content, hcontent, rfl⟩)).trans (hunique _ (.inl ⟨rfl, rfl⟩)).symm
  · intro hapart other hother
    rcases h with ⟨hfile, rfl⟩ | ⟨content, hcontent, rfl⟩ <;>
      rcases hother with ⟨hfile', rfl⟩ | ⟨content', hcontent', rfl⟩
    · rfl
    · subst hfile
      exact hapart rfl content' hcontent'
    · subst hfile'
      exact (hapart rfl content hcontent).symm
    · rw [hcontent] at hcontent'
      cases hcontent'
      rfl

theorem sourceLine_ofThrown {sources : Sources} {text stack missing : Option String} {line : String}
    (h : (Captured.ofThrown sources text stack missing).sourceLine = some line) :
    ∃ frame outer file n, readStack (stack.getD "") = frame :: outer ∧ frame.file = some file ∧
      frame.line = some n ∧ sources.line? file n = some line := by
  have hdetail : Captured.detailOf sources (stack.getD "") missing = .excerpt line := by
    unfold Captured.ofThrown Captured.sourceLine at h
    cases hd : Captured.detailOf sources (stack.getD "") missing with
    | excerpt text =>
      simp only [hd, Option.some.injEq] at h
      rw [h]
    | _ => simp [hd] at h
  unfold Captured.detailOf at hdetail
  cases hstack : readStack (stack.getD "") with
  | nil => simp [hstack] at hdetail
  | cons frame outer =>
    simp only [hstack] at hdetail
    split at hdetail
    · cases missing <;> cases hdetail
    · split at hdetail
      · rename_i file n hfile hn
        refine ⟨frame, outer, file, n, rfl, hfile, hn, ?_⟩
        split at hdetail
        · rename_i text htext
          rw [htext]
          exact congrArg some (Diagnostics.Detail.excerpt.inj hdetail)
        · cases hdetail
      · cases hdetail

/-- **Excerpts.** When a run ends in an exception that is shown with a line of source, it is the
line at the first place of the exception's stack, in a text that the run can evaluate under the
name of that file. There is no other such text, and the excerpt is never taken from another source,
exactly when the place is not in the driver script or no other source has its name. -/
theorem excerpt_source {line : String}
    (hlint : (lint context documents ruleset options).1 = .error (.evaluate captured))
    (hline : captured.sourceLine = some line) :
    ∃ config file n text, settle context options = .ok config ∧
      Excerpt context config captured line file n text ∧
      ((∀ other, Evaluates context config file other → other = text) ↔
        (file = scriptName → NamedApart context config)) := by
  obtain ⟨config, hsettle, rfl | ⟨g, exception, stack, missing, hrecorded, rfl⟩⟩ :=
    lint_captured hlint
  · cases hline
  obtain ⟨frame, outer, file, n, hstack, hfile, hn, hlookup⟩ := sourceLine_ofThrown hline
  obtain ⟨text, hevaluates, hpos, htext⟩ := hrecorded.line? hlookup
  refine ⟨config, file, n, text, hsettle, ⟨hevaluates, ⟨hpos, htext⟩, ?_⟩, hevaluates.unique_iff⟩
  refine ⟨stack.getD "", frame, outer, rfl, hstack, hfile, hn, ?_⟩
  intro place hplace hraised
  obtain ⟨places, hshown⟩ := raise_shows_place hplace hraised
  obtain ⟨rfl, -⟩ := List.cons.inj (hshown.symm.trans hstack)
  exact ⟨Option.some.inj hfile, Option.some.inj hn⟩

/-! ### Two runs -/

/-- A host with one file: a module that has the name of the driver script. -/
def namesakeContext : HostContext where
  host :=
    { read := fun path =>
        if path = scriptName then .ok (Utf8.encode "disk:1\ndisk:2\ndisk:3") else .error .missing
      stat := fun _ => .error .missing
      lstat := fun _ => .error .missing }
  currentPath := .ok "/"
  programs :=
    [("bundle:1", [.idle]), ("bundle:1\nbundle:2", [.idle, .throwError "Error" "boom"]),
      ("disk:1\ndisk:2\ndisk:3", [.idle, .idle, .idle]),
      ("driver:1\ndriver:2", [.require scriptName none, .throwError "Error" "boom"])]

/-- Runs a bundle and a driver script without builtin modules. -/
def namesakeOptions (bundle : String) : List LintOption :=
  [.dist (Utf8.encode bundle), .script "driver:1\ndriver:2", .before fun _ => .ok .skip]

/-- The driver script requires the module of its own name, and then raises an exception in its
second line, as the only code that raises any. The excerpt is the second line of the module. -/
theorem excerpt_from_namesake :
    (lint namesakeContext [] "r" (namesakeOptions "bundle:1")).1 =
      .error (.evaluate
        ⟨"Error: boom", "    at <anonymous> (script.js:2)", .excerpt "disk:2"⟩) ∧
    (Text.lines "driver:1\ndriver:2".toList)[1]? = some "driver:2".toList ∧
    namesakeContext.surroundings.compile "driver:1\ndriver:2" =
      some [.require scriptName none, .throwError "Error" "boom"] ∧
    namesakeContext.surroundings.compile "disk:1\ndisk:2\ndisk:3" = some [.idle, .idle, .idle] ∧
    namesakeContext.surroundings.compile "bundle:1" = some [.idle] := by
  refine ⟨by decide +kernel, by decide +kernel, rfl, rfl, rfl⟩

/-- The exception of a bundle, with the place in the bundle before that of its `require`. -/
def bundleException : Captured :=
  ⟨"Error: boom",
    "    at <anonymous> (./dist/built.js:2)\n    at require (node:internal/require:12)",
    .excerpt "bundle:2"⟩

/-- A bundle that raises an exception in its second line is shown with that line, although there
are two sources for the name of the driver script. -/
theorem excerpt_source_bundle :
    (lint namesakeContext [] "r" (namesakeOptions "bundle:1\nbundle:2")).1 =
      .error (.evaluate bundleException) ∧
    bundleException.sourceLine = some "bundle:2" ∧
    ∃ config file n text,
      settle namesakeContext (namesakeOptions "bundle:1\nbundle:2") = .ok config ∧
      Excerpt namesakeContext config bundleException "bundle:2" file n text ∧
      ((∀ other, Evaluates namesakeContext config file other → other = text) ↔
        (file = scriptName → NamedApart namesakeContext config)) := by
  have hlint : (lint namesakeContext [] "r" (namesakeOptions "bundle:1\nbundle:2")).1 =
      .error (.evaluate bundleException) := by
    decide +kernel
  exact ⟨hlint, rfl, excerpt_source hlint rfl⟩

end GuestLint.Lint

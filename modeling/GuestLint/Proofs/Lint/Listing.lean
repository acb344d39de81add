import Mathlib.Data.List.Basic
import GuestLint.Lint.Listing
import GuestLint.Proofs.Bytes.Utf8
import GuestLint.Proofs.Lint.Report

/-!
# What the text form of a report lists

The text form groups the violations by their sources and counts their places from one in 32 bits.
A place that is the last one of 32 bits has no successor there, and a report that holds such a
place has no text form: the listing ends at the first violation with such a place, and what it has
printed by then are the lines in front of it.

* `Report.lines`: all lines of a listing, for a report whose places can be counted.
* `Report.CutShort`: the lines in front of the first violation that cannot be counted.
* `shown_text_eq_ok`, `shown_text_eq_error`: the text form, and what is left of it when there is none.
* `sources_ascending`, `mem_sources`: the sources that a report's scan has gathered.
* `perm_flatMap_filter`: lists that are picked out by keys make up the whole again.
* `places_shown_iff`: exactly the countable reports are shown, with all places counted from one.
* `report_listed`: the groups and the summary that are shown.
-/
namespace GuestLint.Lint

/-! ## Places that can be counted -/

/-- The first place of the violation has a line and a character that can be counted from one. -/
def Violation.Countable (v : Violation) : Prop :=
  v.range.start.line < 0xFFFFFFFF ∧ v.range.start.character < 0xFFFFFFFF

instance : DecidablePred Violation.Countable :=
  fun _ => inferInstanceAs (Decidable (_ ∧ _))

/-- The line of a violation with its place counted from one, as if numbers had no end. -/
def Violation.row (v : Violation) : String :=
  "  " ++ toString (v.range.start.line.toNat + 1) ++ ":" ++
    toString (v.range.start.character.toNat + 1) ++ " " ++ v.severity.word ++ " " ++
    v.code ++ " " ++ v.message ++ " (" ++ String.intercalate "." v.path ++ ")"

theorem ordinal_eq (n : UInt32) :
    ordinal n = if n < 0xFFFFFFFF then some (n.toNat + 1) else none := by
  have hiff : n.toNat + 1 < Nat.pow 2 32 ↔ n < 0xFFFFFFFF := by
    rw [UInt32.lt_iff_toNat_lt]
    exact Nat.succ_lt_succ_iff
  exact ite_congr (propext hiff) (fun _ => rfl) fun _ => rfl

theorem line_eq (v : Violation) :
    v.line = if v.Countable then some v.row else none := by
  rw [Violation.line, ordinal_eq, ordinal_eq]
  by_cases hline : v.range.start.line < 0xFFFFFFFF
  · by_cases hcharacter : v.range.start.character < 0xFFFFFFFF
    · rw [if_pos hline, if_pos hcharacter, if_pos ⟨hline, hcharacter⟩]
      rfl
    · rw [if_pos hline, if_neg hcharacter, if_neg fun h : v.Countable => hcharacter h.2]
      rfl
  · rw [if_neg hline, if_neg fun h : v.Countable => hline h.1]
    rfl

theorem map_line {violations : List Violation} (h : ∀ v ∈ violations, v.Countable) :
    violations.map Violation.line = (violations.map Violation.row).map some := by
  rw [List.map_map]
  exact List.map_congr_left fun v hv => (line_eq v).trans (if_pos (h v hv))

/-! ## The groups of a listing -/

/-- The violations of one source. -/
structure Group where
  source : String
  violations : List Violation
  deriving Repr, DecidableEq

/-- A blank line, the headline, and a line for each violation. -/
def Group.lines (g : Group) : List String :=
  "" :: headline g.source :: g.violations.map Violation.row

def Report.groups (report : Report) : List Group :=
  report.sources.map fun source => ⟨source, report.ofSource source⟩

/-- The lines of a listing, with all places counted as if numbers had no end. -/
def Report.lines (report : Report) : List String :=
  report.groups.flatMap Group.lines ++ ["", report.summary]

/-- The lines of a group, as far as they can be made. -/
def Group.listed (g : Group) : List (Option String) :=
  some "" :: some (headline g.source) :: g.violations.map Violation.line

theorem listing_eq (report : Report) :
    report.listing = report.groups.flatMap Group.listed ++ [some "", some report.summary] := by
  rw [Report.groups, List.flatMap_map]
  rfl

/-- Groups whose places can be counted have all their lines. -/
theorem flatMap_listed {groups : List Group}
    (h : ∀ v ∈ groups.flatMap Group.violations, v.Countable) :
    groups.flatMap Group.listed = (groups.flatMap Group.lines).map some := by
  rw [List.map_flatMap]
  refine List.flatMap_congr fun g hg => ?_
  rw [Group.listed, map_line fun v hv => h v (List.mem_flatMap.mpr ⟨g, hg, hv⟩)]
  rfl

/-! ## The sources of a report -/

@[simp] theorem mem_insertSource {source s : String} {sources : List String} :
    s ∈ insertSource source sources ↔ s = source ∨ s ∈ sources := by
  induction sources with
  | nil => simp [insertSource]
  | cons first rest ih =>
    rw [insertSource]
    split
    · next heq =>
      subst heq
      simp
    · split
      · simp
      · simp [ih, or_left_comm]

theorem insertSource_ascending {sources : List String} (h : sources.Pairwise (· < ·))
    (source : String) : (insertSource source sources).Pairwise (· < ·) := by
  induction sources with
  | nil => exact List.pairwise_singleton _ _
  | cons first rest ih =>
    obtain ⟨hfirst, hrest⟩ := List.pairwise_cons.mp h
    rw [insertSource]
    split
    · exact h
    · next hne =>
      split
      · next hlt =>
        refine List.pairwise_cons.mpr ⟨fun s hs => ?_, h⟩
        rcases List.mem_cons.mp hs with rfl | hs
        · exact hlt
        · exact String.lt_trans hlt (hfirst s hs)
      · next hnot =>
        have hbelow : first < source :=
          Classical.byContradiction fun hge => hne (String.le_antisymm hge hnot)
        refine List.pairwise_cons.mpr ⟨fun s hs => ?_, ih hrest⟩
        rcases mem_insertSource.mp hs with rfl | hs
        · exact hbelow
        · exact hfirst s hs

/-- A scan of the report that starts with some sources adds those of the report, and keeps their
order. -/
theorem scan_sources (report : Report) {sources : List String} (h : sources.Pairwise (· < ·)) :
    (report.foldl (fun sources v => insertSource v.source sources) sources).Pairwise (· < ·) ∧
    ∀ s, s ∈ report.foldl (fun sources v => insertSource v.source sources) sources ↔
      s ∈ sources ∨ ∃ v ∈ report, v.source = s := by
  induction report generalizing sources with
  | nil => exact ⟨h, fun s => by simp⟩
  | cons v report ih =>
    obtain ⟨hascending, hmem⟩ := ih (insertSource_ascending h v.source)
    refine ⟨hascending, fun s => (hmem s).trans ?_⟩
    simp only [mem_insertSource, List.mem_cons, exists_eq_or_imp, @eq_comm _ s]
    rw [or_assoc, or_left_comm]

theorem sources_ascending (report : Report) : report.sources.Pairwise (· < ·) :=
  (scan_sources report List.Pairwise.nil).1

theorem mem_sources {report : Report} {s : String} :
    s ∈ report.sources ↔ ∃ v ∈ report, v.source = s :=
  ((scan_sources report List.Pairwise.nil).2 s).trans (or_iff_right List.not_mem_nil)

/-- The parts of a list by its keys, one part for each key, make up the list. -/
theorem perm_flatMap_filter {α κ : Type} [DecidableEq κ] (key : α → κ) {keys : List κ}
    (hkeys : keys.Nodup) {as : List α} (has : ∀ a ∈ as, key a ∈ keys) :
    (keys.flatMap fun k => as.filter fun a => key a = k).Perm as := by
  induction keys generalizing as with
  | nil =>
    have hnil : as = [] := List.eq_nil_iff_forall_not_mem.mpr fun a ha =>
      List.not_mem_nil (has a ha)
    rw [hnil, List.flatMap_nil]
  | cons k keys ih =>
    obtain ⟨hk, hkeys⟩ := List.nodup_cons.mp hkeys
    let others := as.filter fun a => !decide (key a = k)
    -- the other keys pick the same out of what the first key leaves
    have hpick : ∀ l ∈ keys, (as.filter fun a => key a = l) = others.filter fun a => key a = l := by
      intro l hl
      rw [List.filter_filter]
      refine List.filter_congr fun a _ => ?_
      by_cases hal : key a = l
      · have hne : key a ≠ k := fun hak => hk (hak ▸ hal ▸ hl)
        simp [hal, hal ▸ hne]
      · simp [hal]
    have hparts : (keys.flatMap fun l => as.filter fun a => key a = l) =
        keys.flatMap fun l => others.filter fun a => key a = l := by
      rw [List.flatMap_def, List.flatMap_def, List.map_congr_left hpick]
    have hothers : ∀ a ∈ others, key a ∈ keys := by
      intro a ha
      obtain ⟨ha, hne⟩ := List.mem_filter.mp ha
      rcases List.mem_cons.mp (has a ha) with h | h
      · simp [h] at hne
      · exact h
    rw [List.flatMap_cons, hparts]
    exact ((ih hkeys hothers).append_left _).trans (List.filter_append_perm _ as)

theorem groups_perm (report : Report) : (report.groups.flatMap Group.violations).Perm report := by
  rw [Report.groups, List.flatMap_map]
  refine perm_flatMap_filter Violation.source ?_ fun v hv => mem_sources.mpr ⟨v, hv, rfl⟩
  refine (sources_ascending report).imp fun {s t} hlt (heq : s = t) => ?_
  exact String.lt_irrefl t (heq ▸ hlt)

/-! ## The text form -/

theorem mem_groups {report : Report} {v : Violation} :
    v ∈ report.groups.flatMap Group.violations ↔ v ∈ report :=
  (groups_perm report).mem_iff

theorem printLines_some (printed : String) (lines : List String) (rest : List (Option String)) :
    printLines printed (lines.map some ++ rest) =
      printLines (printed ++ String.join (lines.map (· ++ "\n"))) rest := by
  induction lines generalizing printed with
  | nil => simp
  | cons line lines ih =>
    rw [List.map_cons, List.cons_append, printLines, ih, List.map_cons, String.join_cons]
    simp only [String.append_assoc]

/-- What a listing has printed when it comes to the first violation that cannot be counted: the
groups before that of the violation, and in its group the headline and the rows before it. -/
def Report.CutShort (report : Report) (printed : String) : Prop :=
  ∃ (before after : List Group) (source : String) (done rest : List Violation) (v : Violation),
    report.groups = before ++ ⟨source, done ++ v :: rest⟩ :: after ∧
    (∀ u ∈ before.flatMap Group.violations ++ done, u.Countable) ∧ ¬ v.Countable ∧
    printed =
      String.join ((before.flatMap Group.lines ++ Group.lines ⟨source, done⟩).map (· ++ "\n"))

theorem Report.CutShort.shown {report : Report} {printed : String} (h : report.CutShort printed) :
    report.shown .text = .error (.positionOverflow printed) := by
  obtain ⟨before, after, source, done, rest, v, hgroups, hcountable, hv, rfl⟩ := h
  obtain ⟨hbefore, hdone⟩ := List.forall_mem_append.mp hcountable
  have hcut : report.listing =
      (before.flatMap Group.lines ++ Group.lines ⟨source, done⟩).map some ++ none ::
        (rest.map Violation.line ++ after.flatMap Group.listed ++
          [some "", some report.summary]) := by
    rw [listing_eq, hgroups, List.flatMap_append, List.flatMap_cons, flatMap_listed hbefore,
      Group.listed, List.map_append, List.map_cons, map_line hdone, line_eq, if_neg hv]
    simp [Group.lines]
  rw [Report.shown, hcut, printLines_some, String.empty_append]
  rfl

/-- A list with an element that fails a test has a first one. -/
theorem exists_first {α : Type} {p : α → Prop} {as : List α} (h : ∃ a ∈ as, ¬ p a) :
    ∃ (done rest : List α) (a : α), as = done ++ a :: rest ∧ (∀ b ∈ done, p b) ∧ ¬ p a := by
  classical
  have hsome : (as.find? fun a => ¬ p a).isSome := by simpa [List.find?_isSome] using h
  obtain ⟨a, hfirst⟩ := Option.isSome_iff_exists.mp hsome
  obtain ⟨ha, done, rest, heq, hdone⟩ := List.find?_eq_some_iff_append.mp hfirst
  exact ⟨done, rest, a, heq, fun b hb => by simpa using hdone b hb, by simpa using ha⟩

/-- The first violation that cannot be counted cuts a listing short. -/
theorem Report.exists_cutShort {report : Report} (h : ∃ v ∈ report, ¬ v.Countable) :
    ∃ printed, report.CutShort printed := by
  obtain ⟨v, hv, hnot⟩ := h
  obtain ⟨g, hg, hvg⟩ := List.mem_flatMap.mp (mem_groups.mpr hv)
  obtain ⟨before, after, g, hgroups, hbefore, hgroup⟩ :=
    exists_first (p := fun g : Group => ∀ u ∈ g.violations, u.Countable)
      ⟨g, hg, fun hall => hnot (hall v hvg)⟩
  obtain ⟨done, rest, v, hviolations, hdone, hv⟩ := exists_first (by simpa using hgroup)
  obtain ⟨source, violations⟩ := g
  subst hviolations
  refine ⟨_, before, after, source, done, rest, v, hgroups, ?_, hv, rfl⟩
  refine List.forall_mem_append.mpr ⟨fun u hu => ?_, hdone⟩
  obtain ⟨g, hg, hug⟩ := List.mem_flatMap.mp hu
  exact hbefore g hg u hug

/-- The text form of a report whose places can be counted, each line of which ends in a line
feed. -/
theorem shown_text {report : Report} (h : ∀ v ∈ report, v.Countable) :
    report.shown .text = .ok (String.join (report.lines.map (· ++ "\n"))) := by
  have hlines : report.listing = report.lines.map some ++ [] := by
    rw [listing_eq, flatMap_listed fun v hv => h v (mem_groups.mp hv), Report.lines,
      List.map_append, List.append_nil]
    rfl
  rw [Report.shown, hlines, printLines_some, String.empty_append]
  rfl

theorem shown_text_eq_ok {report : Report} {shown : String} :
    report.shown .text = .ok shown ↔
      (∀ v ∈ report, v.Countable) ∧ shown = String.join (report.lines.map (· ++ "\n")) := by
  by_cases h : ∀ v ∈ report, v.Countable
  · rw [shown_text h, Except.ok.injEq, eq_comm]
    exact (and_iff_right h).symm
  · obtain ⟨printed, hcut⟩ := Report.exists_cutShort (by simpa using h)
    rw [hcut.shown]
    exact iff_of_false nofun fun hshown => h hshown.1

theorem shown_text_eq_error {report : Report} {printed : String} :
    report.shown .text = .error (.positionOverflow printed) ↔ report.CutShort printed := by
  refine ⟨fun hshown => ?_, Report.CutShort.shown⟩
  have hnot : ¬ ∀ v ∈ report, v.Countable := fun h => by cases (shown_text h).symm.trans hshown
  obtain ⟨printed', hcut⟩ := Report.exists_cutShort (by simpa using hnot)
  cases hcut.shown.symm.trans hshown
  exact hcut

/-- The rows of the violations stand among the lines, group after group. -/
theorem rows_sublist (report : Report) :
    ((report.groups.flatMap Group.violations).map Violation.row).Sublist report.lines := by
  have hgroups : ∀ groups : List Group,
      ((groups.flatMap Group.violations).map Violation.row).Sublist
        (groups.flatMap Group.lines) := by
    intro groups
    induction groups with
    | nil => exact List.Sublist.refl _
    | cons g groups ih =>
      rw [List.flatMap_cons, List.map_append, List.flatMap_cons]
      exact (((List.Sublist.refl _).cons _).cons _).append ih
  exact (hgroups report.groups).trans (List.sublist_append_left _ _)

/-- A violation that starts at a place. -/
def violationAt (place : Position) : Violation := ⟨"", "c", [], "m", .warning, ⟨place, ⟨0, 0⟩⟩⟩

theorem decode_violationAt (place : Position) :
    Report.decode (Report.compact [violationAt place]) = .ok [violationAt place] := by
  refine (Report.readsBack_of_regular fun v hv code hcode => ?_).1
  rw [List.mem_singleton.mp hv] at hcode
  cases hcode

/-- **Places.** A report has a text form exactly if no violation starts at the last line or the
last character of 32 bits. Otherwise the counting overflows, behind the lines of all that is listed
before the first violation with such a place. In the text form each violation has its row, in which
its line and its character are the numbers of the report and one more. There is no place that an
accepted text could not name. -/
theorem places_shown_iff (report : Report) :
    ((∃ shown, report.shown .text = .ok shown) ↔ ∀ v ∈ report, v.Countable) ∧
    ((∃ printed, report.shown .text = .error (.positionOverflow printed)) ↔
      ∃ v ∈ report, ¬ v.Countable) ∧
    (∀ printed, report.shown .text = .error (.positionOverflow printed) ↔
      report.CutShort printed) ∧
    (∀ shown, report.shown .text = .ok shown →
      ∃ (violations : List Violation) (lines : List String), violations.Perm report ∧
        (violations.map Violation.row).Sublist lines ∧
        shown = String.join (lines.map (· ++ "\n"))) ∧
    ∀ place : Position, ∃ text accepted, Report.decode text = .ok accepted ∧
      ∃ v ∈ accepted, v.range.start = place := by
  refine ⟨?_, ?_, fun _ => shown_text_eq_error, ?_, ?_⟩
  · exact ⟨fun ⟨_, hshown⟩ => (shown_text_eq_ok.mp hshown).1,
      fun h => ⟨_, shown_text_eq_ok.mpr ⟨h, rfl⟩⟩⟩
  · constructor
    · rintro ⟨printed, hshown⟩
      obtain ⟨before, after, source, done, rest, v, hgroups, -, hv, -⟩ :=
        shown_text_eq_error.mp hshown
      refine ⟨v, mem_groups.mp ?_, hv⟩
      rw [hgroups]
      simp
    · intro h
      obtain ⟨printed, hcut⟩ := Report.exists_cutShort h
      exact ⟨printed, hcut.shown⟩
  · intro shown hshown
    exact ⟨_, _, groups_perm report, rows_sublist report, (shown_text_eq_ok.mp hshown).2⟩
  · intro place
    exact ⟨_, _, decode_violationAt place, _, List.mem_singleton_self _, rfl⟩

/-- A violation in the last line of 32 bits. -/
def lastLine : Violation := violationAt ⟨0xFFFFFFFF, 3⟩

def lastLineText : String :=
  "[\x7b\"source\":\"\",\"code\":\"c\",\"path\":[],\"message\":\"m\",\"severity\":1,\"range\":" ++
    "\x7b\"start\":\x7b\"line\":4294967295,\"character\":3\x7d," ++
    "\"end\":\x7b\"line\":0,\"character\":0\x7d\x7d\x7d]"

/-- The text is accepted, and what it holds cannot be shown: the program ends behind the headline. -/
theorem last_line_not_shown :
    Report.decode lastLineText = .ok [lastLine] ∧
    Report.shown [lastLine] .text = .error (.positionOverflow "\n<ruleset>:\n") ∧
    ¬ ∀ text report, Report.decode text = .ok report → ∃ shown, report.shown .text = .ok shown := by
  have htext : Report.compact [lastLine] = lastLineText := by decide +kernel
  have hdecode : Report.decode lastLineText = .ok [lastLine] := htext ▸ decode_violationAt _
  have hshown : Report.shown [lastLine] .text = .error (.positionOverflow "\n<ruleset>:\n") :=
    shown_text_eq_error.mpr
      ⟨[], [], "", [], [], lastLine, by decide, by simp, by decide, by decide +kernel⟩
  refine ⟨hdecode, hshown, fun hall => ?_⟩
  obtain ⟨shown, h⟩ := hall _ _ hdecode
  rw [hshown] at h
  cases h

/-! ## Groups and summary -/

/-- The groups of a report: their sources are those of the report, each once and in the order of
their bytes, and each group has the violations of its source as they come in the report. Together
they have each violation of the report once. -/
structure Report.Grouped (report : Report) (groups : List Group) : Prop where
  ascending : groups.Pairwise fun g h => Utf8.encode g.source < Utf8.encode h.source
  sources : ∀ source, (∃ g ∈ groups, g.source = source) ↔ ∃ v ∈ report, v.source = source
  violations : ∀ g ∈ groups, g.violations = report.filter fun v => v.source = g.source
  once : (groups.flatMap Group.violations).Perm report

theorem groups_grouped (report : Report) : report.Grouped report.groups where
  ascending := List.pairwise_map.mpr ((sources_ascending report).imp Utf8.encode_lt)
  sources := fun source => by
    rw [← mem_sources]
    constructor
    · rintro ⟨g, hg, rfl⟩
      obtain ⟨source, hsource, rfl⟩ := List.mem_map.mp hg
      exact hsource
    · exact fun h => ⟨_, List.mem_map_of_mem h, rfl⟩
  violations := fun g hg => by
    obtain ⟨source, -, rfl⟩ := List.mem_map.mp hg
    rfl
  once := groups_perm report

theorem hasErrors_iff (report : Report) : report.hasErrors = true ↔ report.errorCount ≠ 0 := by
  rw [Report.hasErrors, List.any_eq_true, Report.errorCount, ne_eq, List.length_eq_zero_iff,
    List.filter_eq_nil_iff]
  simp [Severity.isError]

/-- A text shows the groups of a report and then how many of its violations are errors and how many
are not. -/
def Report.ListedAs (report : Report) (shown : String) : Prop :=
  ∃ (groups : List Group) (errors others : Nat),
    report.Grouped groups ∧
    errors = report.countP (fun v => v.severity = .error) ∧
    errors + others = report.length ∧
    (report.hasErrors = true ↔ errors ≠ 0) ∧
    shown = String.join ((groups.flatMap Group.lines ++
      ["", "Found " ++ toString report.length ++ " problems (" ++ toString errors ++
        " errors, " ++ toString others ++ " other)"]).map (· ++ "\n"))

/-- **Groups.** A report whose places can be counted is shown with one group for each source, in
the order of the sources' bytes, and in the groups each violation of the report once. The numbers of
the summary make up the number of violations, and the report has errors exactly if the first of
them is not zero. -/
theorem report_listed (report : Report) (h : ∀ v ∈ report, v.Countable) :
    ∃ shown, report.shown .text = .ok shown ∧ report.ListedAs shown := by
  refine ⟨_, shown_text_eq_ok.mpr ⟨h, rfl⟩, report.groups, report.errorCount,
    report.length - report.errorCount, groups_grouped report, List.countP_eq_length_filter.symm,
    ?_, hasErrors_iff report, rfl⟩
  exact Nat.add_sub_cancel' (List.length_filter_le _ _)

/-- Violations of three sources in turn; the second one is of the ruleset. -/
def interleaved : Report :=
  let place : Range := ⟨⟨0, 0⟩, ⟨0, 0⟩⟩
  [⟨"b", "c", ["x", "0"], "first", .error, place⟩,
   ⟨"", "d", [], "second", .other 7, ⟨⟨0xFFFFFFFE, 1⟩, ⟨0, 0⟩⟩⟩,
   ⟨"a", "c", [], "third", .hint, place⟩,
   ⟨"b", "c", [], "fourth", .warning, place⟩]

def interleavedText : String :=
  "\n<ruleset>:\n  4294967295:2 unknown d second ()\n" ++
  "\na:\n  1:1 hint c third ()\n" ++
  "\nb:\n  1:1 error c first (x.0)\n  1:1 warning c fourth ()\n" ++
  "\nFound 4 problems (1 errors, 3 other)\n"

theorem report_listed_interleaved :
    (∀ v ∈ interleaved, v.Countable) ∧ interleaved.shown .text = .ok interleavedText ∧
      interleaved.ListedAs interleavedText := by
  have hcountable : ∀ v ∈ interleaved, v.Countable := by decide
  have htext : String.join (interleaved.lines.map (· ++ "\n")) = interleavedText := by
    decide +kernel
  have hshown := shown_text_eq_ok.mpr ⟨hcountable, htext.symm⟩
  obtain ⟨shown, hok, hlisted⟩ := report_listed interleaved hcountable
  obtain rfl : interleavedText = shown := Except.ok.inj (hshown.symm.trans hok)
  exact ⟨hcountable, hshown, hlisted⟩

end GuestLint.Lint

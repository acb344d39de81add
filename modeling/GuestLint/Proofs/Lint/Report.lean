import GuestLint.Lint.Listing
import GuestLint.Proofs.Json.Reading
import GuestLint.Proofs.Json.Yields

/-!
# Reports are read back as they were written

A report that was read, or that was made with severities that the reader could have found, is read
back from each of its written forms. What reading loses (numbers in paths become texts, and a source
may be missing) is lost the first time only.

* `Severity.Regular`: a code without a name is none of the codes that have one.
* `reads_position`, `reads_range`, `reads_violation`: the records of a report, in any style.
* `violationOf_yields`: the severities that the reader finds.
* `report_round_trip`: for all texts and all reports.
-/
namespace GuestLint.Lint

open Json (Parser Document Style Reads Takes TakesAll Yields write quote)

/-! ## Severities -/

namespace Severity

/-- A severity that an integer of 32 bits stands for: one with a name, or another code. -/
def Regular (s : Severity) : Prop :=
  ∀ code, s = other code → (code < 0 ∨ 3 < code) ∧ -0x80000000 ≤ code ∧ code ≤ 0x7FFFFFFF

theorem ofCode_regular {code : Int} (h : -0x80000000 ≤ code ∧ code ≤ 0x7FFFFFFF) :
    (ofCode code).Regular := by
  intro other hother
  unfold ofCode at hother
  split at hother
  · cases hother
  split at hother
  · cases hother
  split at hother
  · cases hother
  split at hother
  · cases hother
  · cases hother
    exact ⟨by omega, h⟩

theorem Regular.ofCode_code {s : Severity} (h : s.Regular) : ofCode s.code = s := by
  cases s with
  | other code =>
    have hcode := (h code rfl).1
    show ofCode code = other code
    unfold ofCode
    rw [if_neg (by omega), if_neg (by omega), if_neg (by omega), if_neg (by omega)]
  | _ => rfl

theorem Regular.code_range {s : Severity} (h : s.Regular) :
    -0x80000000 ≤ s.code ∧ s.code ≤ 0x7FFFFFFF := by
  cases s with
  | other code => exact (h code rfl).2
  | _ => exact ⟨by decide, by decide⟩

end Severity

/-! ## Written parts are read back -/

section
variable (style : Style) (depth : Nat)

theorem write_integer (n : Int) :
    write style depth (.integer n) = (toString n).toList := by
  rw [Document.integer, write]

theorem reads_word32 (n : UInt32) :
    Reads word32 (write style depth (.integer (Int.ofNat n.toNat))) n := by
  have hn : n.toNat < 4294967296 := n.toNat_lt
  have hmax : Json.maxSignificand = 18446744073709551615 := by decide
  have hback : UInt32.ofNat (Int.ofNat n.toNat).toNat = n := UInt32.ofNat_toNat
  have hinteger : Reads (Json.integerOf "u32" 0 0xFFFFFFFF) (toString (Int.ofNat n.toNat)).toList
      (Int.ofNat n.toNat) := by
    refine Json.reads_integer "u32" (Int.natCast_nonneg _) ?_ ?_ ?_
    · show ((n.toNat : Nat) : Int) ≤ 0xFFFFFFFF
      omega
    · exact Int.le_trans (Int.neg_nonpos_of_nonneg (Int.natCast_nonneg _)) (Int.natCast_nonneg _)
    · exact Int.ofNat_le.mpr (by omega)
  have h := hinteger.map fun n => UInt32.ofNat n.toNat
  rw [hback] at h
  rw [write_integer]
  exact h

theorem reads_severity {s : Severity} (hs : s.Regular) :
    Reads severityOf (write style depth (.integer s.code)) s := by
  obtain ⟨hlow, hhigh⟩ := hs.code_range
  have hmin : Nat.pow 2 63 = 9223372036854775808 := by decide
  have hmax : Json.maxSignificand = 18446744073709551615 := by decide
  have h := (Json.reads_integer "i32" hlow hhigh (by rw [hmin]; omega) (by rw [hmax]; omega)).map
    Severity.ofCode
  rw [hs.ofCode_code] at h
  rw [write_integer]
  exact h

theorem reads_text (text : String) :
    Reads Json.stringOf (write style depth (.string text)) text := by
  rw [write]
  exact Json.reads_string text

/-- A name in a path is read back as a name. -/
theorem reads_segment (level : Nat) (name : String) :
    Reads (segmentOf level) (write style depth (.string name)) name := by
  rw [write]
  refine ⟨Json.opens_quote name, fun {blanks rest} hb _ => ?_⟩
  have hvalue : ∀ fuel, Json.anyValue (fuel + 1) level (blanks ++ (quote name ++ rest)) =
      .ok (.string name, rest) := by
    intro fuel
    rw [Json.quote_append, Json.anyValue, hb.skip_cons (by decide)]
    show (Json.stringBody _ >>= _) = _
    rw [Json.stringBody_quoted]
    show Except.ok (Json.Shape.string (String.ofList name.toList), rest) = _
    rw [String.ofList_toList]
  show (Json.anyValue _ level _ >>= _) = _
  rw [hvalue]
  rfl

end

section
variable {style : Style} (hstyle : style.Spaced)
include hstyle

/-- A field that is empty so far takes in what its parser reads. -/
theorem takes_of_reads {α σ : Type} {p : Parser α} {text : List Char} {a : α}
    (step : σ → String → Parser σ) (name : String) (s : σ) (set : Option α → σ)
    (hstep : ∀ rest, step s name rest = (do
      let (o, rest) ← Json.member name none p rest
      pure (set o, rest)))
    (h : Reads p text a) : Takes style step name text s (set (some a)) := by
  intro rest hrest
  rw [hstep, h.member hstyle name hrest]
  rfl

theorem reads_position (depth level : Nat) (p : Position) :
    Reads (positionOf (level + 2)) (write style depth p.document) p := by
  have hline := takes_of_reads hstyle PositionFields.step "line" {} (fun line => { line })
    (fun _ => rfl) (reads_word32 style (depth + 1) p.line)
  have hcharacter := takes_of_reads hstyle PositionFields.step "character" ⟨some p.line, none⟩
    (fun character => ⟨some p.line, character⟩) (fun _ => rfl)
    (reads_word32 style (depth + 1) p.character)
  exact Json.reads_record hstyle (fun _ => rfl) (.next hline (.next hcharacter (.none _)))
    fun _ => rfl

theorem reads_range (depth level : Nat) (r : Range) :
    Reads (rangeOf (level + 3)) (write style depth r.document) r := by
  have hstart := takes_of_reads hstyle (RangeFields.step (level + 2)) "start" {}
    (fun start => { start }) (fun _ => rfl) (reads_position hstyle (depth + 1) level r.start)
  have hend := takes_of_reads hstyle (RangeFields.step (level + 2)) "end" ⟨some r.start, none⟩
    (fun last => ⟨some r.start, last⟩) (fun _ => rfl)
    (reads_position hstyle (depth + 1) level r.end)
  exact Json.reads_record hstyle (fun _ => rfl) (.next hstart (.next hend (.none _)))
    fun _ => rfl

theorem reads_path (depth level : Nat) (path : List String) :
    Reads (Json.listOf segmentOf (level + 2)) (write style depth (.array (path.map .string)))
      path :=
  Json.reads_array hstyle fun name _ => reads_segment style (depth + 1) (level + 1) name

theorem reads_violation (depth level : Nat) {v : Violation} (hv : v.severity.Regular) :
    Reads (violationOf (level + 4)) (write style depth v.document) v := by
  let step := ViolationFields.step (level + 3)
  have hsource := takes_of_reads hstyle step "source" {} (fun source => { source })
    (fun _ => rfl) (reads_text style (depth + 1) v.source)
  have hcode := takes_of_reads hstyle step "code" { source := some v.source }
    (fun code => { source := some v.source, code }) (fun _ => rfl)
    (reads_text style (depth + 1) v.code)
  have hpath := takes_of_reads hstyle step "path" { source := some v.source, code := some v.code }
    (fun path => { source := some v.source, code := some v.code, path }) (fun _ => rfl)
    (reads_path hstyle (depth + 1) (level + 1) v.path)
  have hmessage := takes_of_reads hstyle step "message"
    { source := some v.source, code := some v.code, path := some v.path }
    (fun message => { source := some v.source, code := some v.code, path := some v.path, message })
    (fun _ => rfl) (reads_text style (depth + 1) v.message)
  have hseverity := takes_of_reads hstyle step "severity"
    ⟨some v.source, some v.code, some v.path, some v.message, none, none⟩
    (fun severity =>
      ⟨some v.source, some v.code, some v.path, some v.message, severity, none⟩)
    (fun _ => rfl) (reads_severity style (depth + 1) hv)
  have hrange := takes_of_reads hstyle step "range"
    ⟨some v.source, some v.code, some v.path, some v.message, some v.severity, none⟩
    (fun range =>
      ⟨some v.source, some v.code, some v.path, some v.message, some v.severity, range⟩)
    (fun _ => rfl) (reads_range hstyle (depth + 1) level v.range)
  exact Json.reads_record hstyle (fun _ => rfl)
    (.next hsource (.next hcode (.next hpath (.next hmessage (.next hseverity
      (.next hrange (.none _)))))))
    fun _ => rfl

end

/-! ## What the reader finds -/

theorem severityOf_yields : Yields Severity.Regular severityOf :=
  (Json.integerOf_yields "i32" _ _).bind fun _ hcode => .pure (Severity.ofCode_regular hcode)

/-- The severity that has been read so far, if it has, is a regular one. -/
def ViolationFields.Regular (s : ViolationFields) : Prop :=
  ∀ severity, s.severity = some severity → severity.Regular

theorem ViolationFields.step_regular (level : Nat) (s : ViolationFields) (key : String)
    (hs : s.Regular) : Yields ViolationFields.Regular (s.step level key) := by
  intro rest s' rest' h
  unfold ViolationFields.step at h
  split at h
  case h_5 =>
    obtain ⟨⟨severity, middle⟩, hseverity, h⟩ := Json.ok_of_bind h
    cases h
    exact Json.member_yields severityOf_yields _ _ _ _ _ hseverity
  case h_7 => exact Json.ignoreMember_yields hs _ _ _ h
  all_goals
    -- another field is taken in, and the severity stays
    obtain ⟨_, -, h⟩ := Json.ok_of_bind h
    cases h
    exact hs

theorem ViolationFields.finish_regular {s : ViolationFields} (hs : s.Regular) :
    Yields (fun v => v.severity.Regular) s.finish :=
  .required fun _ _ => .required fun _ _ => .required fun _ _ => .required fun severity h =>
    .required fun _ _ => .pure (hs severity h)

theorem listed_yields {α : Type} {P : α → Prop} {item : Parser α} (hitem : Yields P item)
    (index : Nat) (expected : String) : Yields P (listed index expected item) := by
  intro rest a rest' h
  obtain ⟨⟨o, middle⟩, ho, h⟩ := Json.ok_of_bind h
  cases o with
  | none => cases h
  | some b =>
    cases h
    exact Json.element_yields hitem _ _ _ _ ho a rfl

/-- The severity of a violation that was read is a regular one, whichever way it was written. -/
theorem violationOf_yields (level : Nat) :
    Yields (fun v => v.severity.Regular) (violationOf level) := by
  refine Json.recordOf_yields (fun level => ?_) (fun level => ?_) level
  · intro rest v rest' h
    obtain ⟨_, -, h⟩ := Json.ok_of_bind h
    obtain ⟨_, -, h⟩ := Json.ok_of_bind h
    obtain ⟨_, -, h⟩ := Json.ok_of_bind h
    obtain ⟨_, -, h⟩ := Json.ok_of_bind h
    obtain ⟨⟨severity, middle⟩, hseverity, h⟩ := Json.ok_of_bind h
    obtain ⟨_, -, h⟩ := Json.ok_of_bind h
    cases h
    exact listed_yields severityOf_yields _ _ _ _ _ hseverity
  · intro rest v rest' h
    obtain ⟨⟨s, middle⟩, hs, h⟩ := Json.ok_of_bind h
    have hregular : s.Regular := Json.members_yields (ViolationFields.step_regular level) _ _
      (fun _ hnone => by cases hnone) _ _ _ hs
    exact ViolationFields.finish_regular hregular _ _ _ h

/-! ## Round trip -/

/-- Every written form of a report is read back as the report. -/
def Report.ReadsBack (report : Report) : Prop :=
  Report.decode report.compact = .ok report ∧ Report.decode report.pretty = .ok report ∧
    ∃ shown, report.shown .json = .ok shown ∧ Report.decode shown = .ok report

theorem Report.readsBack_of_regular {report : Report} (h : ∀ v ∈ report, v.severity.Regular) :
    report.ReadsBack := by
  have hreads : ∀ {style : Style}, style.Spaced →
      Reads (Json.listOf violationOf Json.maxDepth) (write style 0 report.document) report :=
    fun hstyle => Json.reads_array hstyle fun v hv => reads_violation hstyle 1 123 (h v hv)
  have hline : String.ofList ['\n'] = "\n" := rfl
  have hbreak : Json.Blank ['\n'] := by simp [Json.Blank, Json.isSpace]
  have hcompact := Json.decode_of_reads (hreads Json.spaced_compact) Json.blank_nil
  have hpretty := Json.decode_of_reads (hreads Json.spaced_pretty) Json.blank_nil
  have hshown := Json.decode_of_reads (hreads Json.spaced_pretty) hbreak
  rw [List.append_nil] at hcompact hpretty
  refine ⟨hcompact, hpretty, report.pretty ++ "\n", rfl, ?_⟩
  rw [Report.pretty, Json.pretty, ← hline, ← String.ofList_append]
  exact hshown

/-- **Round trip.** Any report that was read from a text, and any report whose codes without a name
are integers of 32 bits other than the codes that have one, is read back exactly: from its compact
form, from its pretty form, and from what the JSON format shows of it. -/
theorem report_round_trip :
    (∀ text report, Report.decode text = .ok report → report.ReadsBack) ∧
    (∀ report : Report, (∀ v ∈ report, v.severity.Regular) → report.ReadsBack) := by
  refine ⟨fun text report h => ?_, fun report h => Report.readsBack_of_regular h⟩
  exact Report.readsBack_of_regular
    (Json.decode_yields (Json.listOf_yields violationOf_yields Json.maxDepth) h)

/-- A violation without a source, with a number in its path, an escape in its message, a code
without a name, and a range that is written as a list. -/
def looseText : String :=
  "[ \x7b\"code\": \"c\", \"path\": [0, \"x\"], \"message\": \"a\\u0009b\", \"severity\": 7,
    \"range\": [[1, 2], [3, 4]]\x7d ]"

def looseReport : Report :=
  [⟨"", "c", ["0", "x"], "a\tb", .other 7, ⟨⟨1, 2⟩, ⟨3, 4⟩⟩⟩]

theorem report_round_trip_loose :
    Report.decode looseText = .ok looseReport ∧ (∀ v ∈ looseReport, v.severity.Regular) ∧
      looseReport.ReadsBack := by
  obtain ⟨hread, -⟩ := report_round_trip
  have hreport : (Report.decode looseText).toOption = some looseReport := by decide +kernel
  have hdecode : Report.decode looseText = .ok looseReport := by
    cases h : Report.decode looseText with
    | error e =>
      rw [h] at hreport
      cases hreport
    | ok report =>
      rw [h] at hreport
      exact congrArg Except.ok (Option.some.inj hreport)
  refine ⟨hdecode, fun v hv code hcode => ?_, hread _ _ hdecode⟩
  rw [looseReport, List.mem_singleton] at hv
  subst hv
  cases hcode
  decide

end GuestLint.Lint

import Mathlib.Data.List.Induction
import GuestLint.Diagnostics.Stack
import GuestLint.Proofs.Text.Basic

/-!
# Stacks are read line by line

A stack is read at its line feeds, each line on its own, and blanks around a line make no
difference. A line is cut from its right end: first at the last blank with an opening parenthesis,
then at the last colons that numerals stand behind. So the name of a function may hold parentheses
and the name of a file may hold colons.

* `readStack_append_break`, `readStack_intercalate`: the frames of a stack are those of its lines.
* `readStack_blanks`: blanks around a stack.
* `cutLastOpen_location`: the parenthesis that opens the location.
* `Locates.read`: a location, with and without a column.
* `Spells.readFrame`: a line, in all the forms that there are.
* `stack_read_back`: a stack gives the frames that its lines spell, and no other line has a say.
-/
namespace GuestLint.Diagnostics

/-! ## Lines -/

theorem readFrame_eq_none {line : List Char} (h : ¬ "at ".toList <+: Text.trim line) :
    readFrame line = none := by
  unfold readFrame
  cases hstrip : Text.strip? "at ".toList (Text.trim line) with
  | none => rfl
  | some call => exact absurd ⟨call, (Text.strip?_eq_some_iff.mp hstrip).symm⟩ h

theorem readFrame_congr {line line' : List Char} (h : Text.trim line = Text.trim line') :
    readFrame line = readFrame line' := by
  unfold readFrame
  rw [h]

/-- The carriage returns at line ends and an empty last line hold no frames. -/
theorem readStack_eq (stack : String) :
    readStack stack = (stack.toList.splitOn '\n').filterMap readFrame := by
  have hreturns : ∀ lines : List (List Char),
      (lines.map Text.dropReturn).filterMap readFrame = lines.filterMap readFrame := by
    intro lines
    rw [List.filterMap_map]
    exact congrArg (List.filterMap · lines)
      (funext fun line => readFrame_congr (Text.trim_dropReturn line))
  unfold readStack Text.lines
  cases hsplit : (stack.toList.splitOn '\n').reverse with
  | nil => exact absurd (List.reverse_eq_nil_iff.mp hsplit) (List.splitOn_ne_nil _ _)
  | cons last closed =>
    rw [List.reverse_eq_cons_iff.mp hsplit, List.filterMap_append]
    dsimp only
    split
    · rename_i hempty
      rw [List.isEmpty_iff.mp hempty, hreturns]
      exact (List.append_nil _).symm
    · rw [List.filterMap_append, hreturns]

/-- The frames of a stack stand before and behind a line feed. -/
theorem readStack_append_break (before after : List Char) :
    readStack (String.ofList (before ++ '\n' :: after)) =
      readStack (String.ofList before) ++ readStack (String.ofList after) := by
  simp only [readStack_eq, String.toList_ofList, List.splitOn_append_cons_self,
    List.filterMap_append]

theorem readStack_line {line : List Char} (h : '\n' ∉ line) :
    readStack (String.ofList line) = (readFrame line).toList := by
  rw [readStack_eq, String.toList_ofList, List.splitOn_eq_singleton h, List.filterMap_cons]
  cases readFrame line <;> rfl

/-- The frames of a stack are those of its lines. -/
theorem readStack_intercalate (lines : List String) :
    readStack ("\n".intercalate lines) = lines.flatMap readStack := by
  induction lines with
  | nil => rfl
  | cons line lines ih =>
    cases lines with
    | nil => rw [String.intercalate_singleton, List.flatMap_cons, List.flatMap_nil, List.append_nil]
    | cons next lines =>
      have hbreak : "\n".intercalate (line :: next :: lines) =
          String.ofList (line.toList ++ '\n' :: ("\n".intercalate (next :: lines)).toList) := by
        rw [String.intercalate_cons_cons, ← String.toList_inj]
        simp
      rw [hbreak, readStack_append_break, String.ofList_toList, String.ofList_toList, ih,
        List.flatMap_cons (x := line)]

/-! ## Blanks -/

theorem readStack_cons_blank {c : Char} (h : Text.isBlank c = true) (text : List Char) :
    readStack (String.ofList (c :: text)) = readStack (String.ofList text) := by
  rw [readStack_eq, readStack_eq, String.toList_ofList, String.toList_ofList,
    List.splitOn_cons_eq_if_modifyHead]
  split
  · rfl
  · cases hsplit : text.splitOn '\n' with
    | nil => rfl
    | cons line lines =>
      rw [List.modifyHead_cons, List.filterMap_cons, List.filterMap_cons,
        readFrame_congr (Text.trim_cons h line)]

theorem readStack_append_blank {c : Char} (h : Text.isBlank c = true) (text : List Char) :
    readStack (String.ofList (text ++ [c])) = readStack (String.ofList text) := by
  have hblank : ∀ d ∈ [c], Text.isBlank d = true := fun d hd => List.mem_singleton.mp hd ▸ h
  by_cases hc : c = '\n'
  · rw [hc, readStack_append_break]
    exact List.append_nil _
  · have hline : ∀ line : List Char, '\n' ∉ line →
        readStack (String.ofList (line ++ [c])) = readStack (String.ofList line) := by
      intro line hfree
      rw [readStack_line (by simpa [hfree] using Ne.symm hc), readStack_line hfree,
        readFrame_congr (Text.trim_append hblank)]
    rcases Text.cutLast_cases '\n' text with ⟨hfree, -⟩ | ⟨before, after, rfl, hfree, -⟩
    · exact hline text hfree
    · rw [List.append_assoc, List.cons_append, readStack_append_break, readStack_append_break,
        hline after hfree]

/-- Blanks around a stack make no difference, line feeds among them included. -/
theorem readStack_blanks {indent trail : List Char} (hindent : ∀ c ∈ indent, Text.isBlank c = true)
    (text : List Char) (htrail : ∀ c ∈ trail, Text.isBlank c = true) :
    readStack (String.ofList (indent ++ text ++ trail)) = readStack (String.ofList text) := by
  induction indent with
  | nil =>
    rw [List.nil_append]
    induction trail using List.reverseRecOn with
    | nil => rw [List.append_nil]
    | append_singleton trail c ih =>
      rw [← List.append_assoc, readStack_append_blank (htrail c (by simp)),
        ih fun d hd => htrail d (List.mem_append_left _ hd)]
  | cons c indent ih =>
    rw [List.cons_append, List.cons_append, readStack_cons_blank (hindent c List.mem_cons_self),
      ih fun d hd => hindent d (List.mem_cons_of_mem c hd)]

/-! ## The parenthesis that opens the location -/

theorem cutLastOpen_cons {c : Char} {rest : List Char} (h : cutLastOpen rest = none) :
    cutLastOpen (c :: rest) =
      if c = ' ' ∧ rest.head? = some '(' then some ([], rest.tail) else none := by
  unfold cutLastOpen
  rw [h]
  cases rest with
  | nil => simp
  | cons d rest =>
    by_cases hc : c = ' '
    · by_cases hd : d = '('
      · subst hc hd
        rfl
      · simp [hc, hd]
    · simp [hc]

theorem cutLastOpen_cons_none {c : Char} {rest : List Char} :
    cutLastOpen (c :: rest) = none ↔
      cutLastOpen rest = none ∧ ¬(c = ' ' ∧ rest.head? = some '(') := by
  cases h : cutLastOpen rest with
  | none => simp [cutLastOpen_cons h]
  | some cut => simp [cutLastOpen, h]

/-- Nothing is cut exactly when no blank has an opening parenthesis behind it. -/
theorem cutLastOpen_eq_none_iff (text : List Char) :
    cutLastOpen text = none ↔ ¬ " (".toList <:+: text := by
  induction text with
  | nil => simp [cutLastOpen]
  | cons c rest ih =>
    have hhead : " (".toList <+: c :: rest ↔ c = ' ' ∧ rest.head? = some '(' := by
      cases rest <;> simp [List.cons_prefix_cons, eq_comm]
    rw [cutLastOpen_cons_none, ih, List.infix_cons_iff, not_or, hhead, and_comm]

theorem cutLastOpen_none {text : List Char} (h : '(' ∉ text) : cutLastOpen text = none :=
  (cutLastOpen_eq_none_iff text).mpr fun hopen => h (hopen.subset (by simp))

theorem cutLastOpen_append {text after : List Char} (htext : cutLastOpen text = none)
    (hafter : '(' ∉ after) : cutLastOpen (text ++ after) = none := by
  induction text with
  | nil => exact cutLastOpen_none hafter
  | cons c rest ih =>
    obtain ⟨hrest, hopen⟩ := cutLastOpen_cons_none.mp htext
    refine cutLastOpen_cons_none.mpr ⟨ih hrest, ?_⟩
    rintro ⟨hc, hhead⟩
    cases rest with
    | nil => exact hafter (List.mem_of_mem_head? hhead)
    | cons d rest => exact hopen ⟨hc, hhead⟩

/-- The parenthesis that opens the location is the last one that opens. -/
theorem cutLastOpen_location (function : List Char) {location : List Char}
    (h : cutLastOpen location = none) :
    cutLastOpen (function ++ ' ' :: '(' :: location) = some (function, location) := by
  have hopen : cutLastOpen ('(' :: location) = none := by
    refine cutLastOpen_cons_none.mpr ⟨h, ?_⟩
    rintro ⟨hblank, -⟩
    exact absurd hblank (by decide)
  induction function with
  | nil => simp [cutLastOpen_cons hopen]
  | cons c rest ih =>
    rw [List.cons_append]
    unfold cutLastOpen
    rw [ih]

/-- A function with a location in parentheses behind it. -/
theorem splitCall_location (function : List Char) {location : List Char}
    (h : cutLastOpen location = none) :
    splitCall (function ++ " (".toList ++ location ++ [')']) = (function, location) := by
  have hcut : cutLastOpen (function ++ " (".toList ++ location ++ [')']) =
      some (function, location ++ [')']) := by
    have hclose : '(' ∉ [')'] := by decide
    simpa using cutLastOpen_location function (cutLastOpen_append h hclose)
  have hend : Text.stripEnd? [')'] (function ++ " (".toList ++ location ++ [')']) =
      some (function ++ " (".toList ++ location) := Text.stripEnd?_eq_some_iff.mpr rfl
  unfold splitCall
  rw [hcut, hend]
  dsimp only
  rw [List.dropLast_concat]

/-- Without a parenthesis at the end, all is location. -/
theorem splitCall_bare {front : List Char} {last : Char} (h : last ≠ ')') :
    splitCall (front ++ [last]) = ("<anonymous>".toList, front ++ [last]) := by
  have hend : Text.stripEnd? [')'] (front ++ [last]) = none := by
    cases hstrip : Text.stripEnd? [')'] (front ++ [last]) with
    | none => rfl
    | some rest =>
      have heq := List.append_inj_right' (Text.stripEnd?_eq_some_iff.mp hstrip) rfl
      exact absurd (List.cons.inj heq).1 h
  unfold splitCall
  rw [hend]
  cases cutLastOpen (front ++ [last]) <;> rfl

/-! ## Locations -/

/-- A decimal numeral of a number that fits 64 bits; it may have leading zeros. -/
def Denotes (numeral : List Char) (n : Nat) : Prop :=
  numeral ≠ [] ∧ (∀ c ∈ numeral, c.isDigit = true) ∧ Nat.ofDigitChars 10 numeral 0 = n ∧
    n < Nat.pow 2 64

instance (numeral : List Char) (n : Nat) : Decidable (Denotes numeral n) :=
  decidable_of_iff (numeral ≠ [] ∧ numeral.all Char.isDigit = true ∧
    Nat.ofDigitChars 10 numeral 0 = n ∧ n < Nat.pow 2 64) (by simp [Denotes])

/-- A text that ends in a colon and digits, so that more digits behind it read as a column. -/
def EndsAsPosition (text : List Char) : Prop :=
  ∃ before numeral, text = before ++ ':' :: numeral ∧ numeral ≠ [] ∧
    ∀ c ∈ numeral, c.isDigit = true

/-- How a file with a line, and perhaps a column, is written. -/
inductive Locates : List Char → String → Nat → Option Nat → Prop where
  | column {file : String} {lineText columnText : List Char} {line column : Nat}
    (hfile : '\n' ∉ file.toList) (hline : Denotes lineText line)
    (hcolumn : Denotes columnText column) :
    Locates (file.toList ++ ':' :: lineText ++ ':' :: columnText) file line (some column)
  | line {file : String} {lineText : List Char} {line : Nat} (hfile : '\n' ∉ file.toList)
    (hend : ¬ EndsAsPosition file.toList) (hline : Denotes lineText line) :
    Locates (file.toList ++ ':' :: lineText) file line none

namespace Denotes

variable {numeral : List Char} {n : Nat}

theorem read (h : Denotes numeral n) :
    Text.isNumeral numeral = true ∧ position? numeral = some n := by
  obtain ⟨hne, hdigits, hvalue, hfits⟩ := h
  refine ⟨Text.isNumeral_iff.mpr ⟨hne, hdigits⟩, ?_⟩
  unfold position?
  rw [Text.numeralValue_eq, hvalue]
  exact if_pos hfits

theorem not_mem (h : Denotes numeral n) {c : Char} (hc : c.isDigit = false) : c ∉ numeral :=
  fun hmem => Bool.eq_false_iff.mp hc (h.2.1 c hmem)

/-- The last character is a digit. -/
theorem last (h : Denotes numeral n) :
    ∃ front c, numeral = front ++ [c] ∧ c.isDigit = true := by
  obtain ⟨hne, hdigits, -⟩ := h
  refine ⟨numeral.dropLast, numeral.getLast hne, (List.dropLast_concat_getLast hne).symm, ?_⟩
  exact hdigits _ (List.getLast_mem hne)

end Denotes

namespace Locates

variable {location : List Char} {file : String} {line : Nat} {column : Option Nat}

/-- **Locations.** What stands behind the last two colons is a line and a column if both are
numerals, else what stands behind the last colon is a line. -/
theorem read (h : Locates location file line column) :
    readLocation location = (file, some line, column) := by
  cases h with
  | column hfile hline hcolumn =>
    obtain ⟨hnumeral, hposition⟩ := hline.read
    obtain ⟨hnumeral', hposition'⟩ := hcolumn.read
    unfold readLocation
    rw [Text.cutLast_append _ (hcolumn.not_mem rfl)]
    dsimp only
    rw [if_pos hnumeral', Text.cutLast_append _ (hline.not_mem rfl)]
    dsimp only
    rw [if_pos hnumeral, String.ofList_toList, hposition, hposition']
  | line hfile hend hline =>
    obtain ⟨hnumeral, hposition⟩ := hline.read
    unfold readLocation
    rw [Text.cutLast_append _ (hline.not_mem rfl)]
    dsimp only
    rw [if_pos hnumeral, hposition, String.ofList_toList]
    rcases Text.cutLast_cases ':' file.toList with ⟨-, hcut⟩ | ⟨before, middle, hfile, -, hcut⟩
    · rw [hcut]
    · have hmiddle : ¬ Text.isNumeral middle = true := fun hnumeral' =>
        hend ⟨before, middle, hfile, Text.isNumeral_iff.mp hnumeral'⟩
      rw [hcut]
      dsimp only
      rw [if_neg hmiddle]

theorem colon_mem (h : Locates location file line column) : ':' ∈ location := by
  cases h <;> simp

theorem no_break (h : Locates location file line column) : '\n' ∉ location := by
  cases h with
  | column hfile hline hcolumn =>
    simp [hfile, hline.not_mem (c := '\n') rfl, hcolumn.not_mem (c := '\n') rfl]
  | line hfile hend hline => simp [hfile, hline.not_mem (c := '\n') rfl]

/-- The parenthesis that opens no location in the name of a file opens none in the location. -/
theorem no_open (h : Locates location file line column) (hfile : ¬ " (".toList <:+: file.toList) :
    cutLastOpen location = none := by
  have hnone := (cutLastOpen_eq_none_iff file.toList).mpr hfile
  cases h with
  | column _ hline hcolumn =>
    rw [List.append_assoc]
    refine cutLastOpen_append hnone ?_
    simp [hline.not_mem (c := '(') rfl, hcolumn.not_mem (c := '(') rfl]
  | line _ _ hline =>
    refine cutLastOpen_append hnone ?_
    simp [hline.not_mem (c := '(') rfl]

/-- The last character of a location is a digit. -/
theorem last (h : Locates location file line column) :
    ∃ front c, location = front ++ [c] ∧ c.isDigit = true := by
  cases h with
  | column _ _ hcolumn =>
    obtain ⟨front, c, rfl, hc⟩ := hcolumn.last
    exact ⟨_, c, (List.append_assoc _ (':' :: front) [c]).symm, hc⟩
  | line _ _ hline =>
    obtain ⟨front, c, rfl, hc⟩ := hline.last
    exact ⟨_, c, (List.append_assoc _ (':' :: front) [c]).symm, hc⟩

end Locates

/-! ## Calls -/

/-- How a frame is written behind `at `: with a function or without, native or in a file. -/
inductive Spells : List Char → StackFrame → Prop where
  | native {function : String} (hfunction : '\n' ∉ function.toList) :
    Spells (function.toList ++ " (native)".toList) ⟨function, none, none, none⟩
  | inFunction {function file : String} {location : List Char} {line : Nat} {column : Option Nat}
    (hfunction : '\n' ∉ function.toList) (hplace : Locates location file line column)
    (hopen : ¬ " (".toList <:+: file.toList) :
    Spells (function.toList ++ " (".toList ++ location ++ [')'])
      ⟨function, some file, some line, column⟩
  | bare {file : String} {location : List Char} {line : Nat} {column : Option Nat}
    (hplace : Locates location file line column) :
    Spells location ⟨"<anonymous>", some file, some line, column⟩

namespace Spells

variable {call : List Char} {frame : StackFrame}

theorem no_break (h : Spells call frame) : '\n' ∉ call := by
  cases h with
  | native hfunction => simp [hfunction]
  | inFunction hfunction hplace _ => simp [hfunction, hplace.no_break]
  | bare hplace => exact hplace.no_break

/-- A call ends in a digit or in a parenthesis, so no blank is trimmed from it. -/
theorem last (h : Spells call frame) :
    ∃ front c, call = front ++ [c] ∧ Text.isBlank c = false := by
  have hdigit : ∀ c : Char, c.isDigit = true → Text.isBlank c = false := by
    intro c hc
    simp only [Char.isDigit, Bool.and_eq_true, decide_eq_true_eq, UInt32.le_iff_toNat_le] at hc
    simp only [Text.isBlank, Char.toNat]
    grind
  cases h with
  | @native function _ =>
    exact ⟨function.toList ++ " (native".toList, ')', by simp, by decide⟩
  | inFunction _ _ _ => exact ⟨_, ')', rfl, by decide⟩
  | bare hplace =>
    obtain ⟨front, c, rfl, hc⟩ := hplace.last
    exact ⟨front, c, rfl, hdigit c hc⟩

/-- **Calls.** In whatever form a frame is written, it is read back. -/
theorem readFrame (h : Spells call frame) :
    Diagnostics.readFrame ("at ".toList ++ call) = some frame := by
  have hstrip : Text.strip? "at ".toList (Text.trim ("at ".toList ++ call)) = some call := by
    obtain ⟨front, c, rfl, hc⟩ := h.last
    have hfirst : Text.isBlank 'a' = false := by decide
    have htrim := Text.trim_between hfirst ("t ".toList ++ front) hc
    rw [List.append_assoc] at htrim
    exact Text.strip?_eq_some_iff.mpr htrim
  unfold Diagnostics.readFrame
  rw [hstrip]
  dsimp only
  have hnative : ∀ {location file line column}, Locates location file line column →
      location ≠ "native".toList := by
    rintro location file line column hplace rfl
    exact absurd hplace.colon_mem (by decide)
  cases h with
  | @native function hfunction =>
    have hsplit : splitCall (function.toList ++ " (native)".toList) =
        (function.toList, "native".toList) := by
      have hnone : cutLastOpen "native".toList = none := by decide
      simpa using splitCall_location function.toList hnone
    rw [hsplit]
    refine (if_pos rfl).trans ?_
    rw [String.ofList_toList]
  | inFunction hfunction hplace hopen =>
    rw [splitCall_location _ (hplace.no_open hopen)]
    dsimp only
    rw [if_neg (hnative hplace), hplace.read, String.ofList_toList]
  | bare hplace =>
    have hsplit : splitCall call = ("<anonymous>".toList, call) := by
      obtain ⟨front, c, rfl, hc⟩ := hplace.last
      refine splitCall_bare ?_
      rintro rfl
      cases hc
    rw [hsplit]
    dsimp only
    rw [if_neg (hnative hplace), hplace.read, String.ofList_toList]

end Spells

/-! ## Stacks -/

/-- A line that shows no frame, whatever else it holds. -/
def Idle (line : String) : Prop :=
  '\n' ∉ line.toList ∧ ¬ "at ".toList <+: Text.trim line.toList

/-- The lines of a stack and the frames that they spell, among lines that show none. -/
inductive Shows : List String → List StackFrame → Prop where
  | nil : Shows [] []
  | frame {indent call trail : List Char} {frame : StackFrame} {lines : List String}
    {frames : List StackFrame} (hindent : ∀ c ∈ indent, Text.isBlank c = true)
    (hcall : Spells call frame) (htrail : ∀ c ∈ trail, Text.isBlank c = true)
    (hlines : Shows lines frames) :
    Shows (String.ofList (indent ++ ("at ".toList ++ call) ++ trail) :: lines) (frame :: frames)
  | idle {line : String} {lines : List String} {frames : List StackFrame} (hline : Idle line)
    (hlines : Shows lines frames) : Shows (line :: lines) frames

instance (line : String) : Decidable (Idle line) := inferInstanceAs (Decidable (_ ∧ _))

theorem Idle.readStack {line : String} (h : Idle line) : readStack line = [] := by
  have hread := readStack_line h.1
  rw [String.ofList_toList, readFrame_eq_none h.2] at hread
  exact hread

/-- **Stacks.** The frames that the lines of a stack spell are read back, all of them and in order.
And in any stack at all, a line that shows no frame can be put in and taken out. -/
theorem stack_read_back {lines : List String} {frames : List StackFrame} (h : Shows lines frames) :
    readStack ("\n".intercalate lines) = frames ∧
    ∀ (before after : List String) (line : String), Idle line →
      readStack ("\n".intercalate (before ++ line :: after)) =
        readStack ("\n".intercalate (before ++ after)) := by
  constructor
  · rw [readStack_intercalate]
    induction h with
    | nil => rfl
    | frame hindent hcall htrail _ ih =>
      have hbreak : '\n' ∉ "at ".toList ++ _ :=
        List.not_mem_append (by decide) hcall.no_break
      rw [List.flatMap_cons, readStack_blanks hindent _ htrail, readStack_line hbreak,
        hcall.readFrame, ih]
      rfl
    | idle hline _ ih =>
      rw [List.flatMap_cons, hline.readStack, ih]
      rfl
  · intro before after line hline
    simp only [readStack_intercalate, List.flatMap_append, List.flatMap_cons, hline.readStack,
      List.nil_append]

/-- Colons in the names of files, a parenthesis in the name of a function, a column with a leading
zero, and other lines around them. -/
theorem stack_read_back_colons :
    ∃ lines, Shows lines [⟨"a (b", some "node:internal/require", some 10, some 19⟩,
        ⟨"load", none, none, none⟩, ⟨"<anonymous>", some "C:\\x:3y", some 4, none⟩] ∧
      "\n".intercalate lines = "Error: at (boom)\n    at a (b (node:internal/require:10:019)\r\n" ++
        " at load (native)\nat C:\\x:3y:4\n" ∧
      readStack ("Error: at (boom)\n    at a (b (node:internal/require:10:019)\r\n" ++
          " at load (native)\nat C:\\x:3y:4\n") =
        [⟨"a (b", some "node:internal/require", some 10, some 19⟩, ⟨"load", none, none, none⟩,
          ⟨"<anonymous>", some "C:\\x:3y", some 4, none⟩] := by
  have hend : ¬ EndsAsPosition "C:\\x:3y".toList := by
    rintro ⟨before, numeral, htext, hne, hdigits⟩
    have hlast : ("C:\\x:3y".toList).getLast? = some (numeral.getLast hne) := by
      rw [htext, List.getLast?_append, List.getLast?_cons, List.getLast?_eq_some_getLast hne]
      rfl
    have heq : numeral.getLast hne = 'y' :=
      Option.some.inj (hlast.symm.trans (by decide +kernel))
    exact absurd (heq ▸ hdigits _ (List.getLast_mem hne)) (by decide +kernel)
  have hten : Denotes "10".toList 10 := by decide +kernel
  have hnineteen : Denotes "019".toList 19 := by decide +kernel
  have hfour : Denotes "4".toList 4 := by decide +kernel
  have hrequire : Spells _ ⟨"a (b", some "node:internal/require", some 10, some 19⟩ :=
    .inFunction (by decide +kernel) (.column (by decide +kernel) hten hnineteen) (by decide +kernel)
  have hload : Spells _ ⟨"load", none, none, none⟩ := .native (by decide +kernel)
  have hbare : Spells _ ⟨"<anonymous>", some "C:\\x:3y", some 4, none⟩ :=
    .bare (.line (by decide +kernel) hend hfour)
  have hmessage : Idle "Error: at (boom)" := by decide +kernel
  have hnothing : Idle "" := by decide +kernel
  have hindent : ∀ c ∈ "    ".toList, Text.isBlank c = true := List.all_eq_true.mp (by decide)
  have hblank : ∀ c ∈ " ".toList, Text.isBlank c = true := List.all_eq_true.mp (by decide)
  have hreturn : ∀ c ∈ "\r".toList, Text.isBlank c = true := List.all_eq_true.mp (by decide)
  have hnone : ∀ c ∈ ([] : List Char), Text.isBlank c = true := List.forall_mem_nil _
  have hshows := Shows.idle hmessage (.frame hindent hrequire hreturn
    (.frame hblank hload hnone (.frame hnone hbare hnone (.idle hnothing .nil))))
  refine ⟨_, hshows, by decide +kernel, ?_⟩
  exact (congrArg readStack (by decide +kernel)).trans (stack_read_back hshows).1

end GuestLint.Diagnostics

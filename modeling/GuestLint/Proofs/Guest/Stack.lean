import GuestLint.Proofs.Guest.Heap
import GuestLint.Proofs.Diagnostics.Stack

/-!
# Stacks are read back

The engine writes the places where running code stands into the stack of an error, one line for
each of them. A line is read back as the place that it was written for, unless the names in it
hold what a reader of stacks takes for something else.

* `Frame.Readable.spells`: what the engine writes for a place spells that place.
* `readStack_cons`: the first line of a stack, whatever stands behind it.
* `RaisedAt`, `raise_shows_place`: an exception shows the place that it was raised at.
-/
namespace GuestLint.Guest

open Diagnostics (StackFrame Spells Locates Denotes readStack cutLastOpen)
open Text (digits)

/-- What a reader of stacks makes of a line is what the line was written for: no name breaks the
line, and the name of the file opens no parenthesis and does not end like a position. -/
structure Frame.Readable (f : Frame) : Prop where
  function_line : '\n' ∉ f.function.toList
  file_line : '\n' ∉ f.file.toList
  no_open : cutLastOpen f.file.toList = none
  no_position : ∀ before last, Text.cutLast ':' f.file.toList = some (before, last) →
    Text.isNumeral last = false
  line_fits : f.line < Nat.pow 2 64

/-- A place in a file, as it is written: the name and the number of the line. -/
def locationText (f : Frame) : List Char :=
  f.file.toList ++ ':' :: digits 10 f.line

/-- What stands behind `at` in the line of a stack for a place. -/
def callText (f : Frame) : List Char :=
  f.function.toList ++ ' ' :: '(' :: (locationText f ++ [')'])

/-- The line of a stack for a place, without its line feed. -/
def frameLine (f : Frame) : List Char :=
  ' ' :: ' ' :: ' ' :: ' ' :: 'a' :: 't' :: ' ' :: callText f

/-- The place as a reader of stacks shows it. -/
def Frame.shown (f : Frame) : StackFrame :=
  ⟨f.function, some f.file, some f.line, none⟩

theorem stackText_cons (f : Frame) (outer : List Frame) :
    (stackText (f :: outer)).toList = frameLine f ++ '\n' :: (stackText outer).toList := by
  have hline : stackText (f :: outer) = "    at " ++ f.function ++ " (" ++ f.file ++ ":" ++
      String.ofList (digits 10 f.line) ++ ")\n" ++ stackText outer := by
    unfold stackText
    rw [List.map_cons, String.join_cons]
  rw [hline]
  simp [frameLine, callText, locationText]

/-! ## One line -/

variable {f : Frame}

theorem denotes_digits {n : Nat} (h : n < Nat.pow 2 64) : Denotes (digits 10 n) n :=
  ⟨Nat.toDigits_ne_nil, fun _ => Text.isDigit_digits, Nat.ofDigitChars_ten_toDigits, h⟩

theorem Frame.Readable.locates (h : f.Readable) :
    Locates (locationText f) f.file f.line none := by
  refine .line h.file_line ?_ (denotes_digits h.line_fits)
  rintro ⟨before, numeral, hfile, hnumeral⟩
  have hcolon : ':' ∉ numeral := fun hmem => absurd (hnumeral.2 ':' hmem) (by decide)
  have hlast := h.no_position before numeral (hfile ▸ Text.cutLast_append before hcolon)
  rw [Text.isNumeral_iff.mpr hnumeral] at hlast
  cases hlast

/-- The line of a stack spells the place that it was written for. -/
theorem Frame.Readable.spells (h : f.Readable) : Spells (callText f) f.shown := by
  have hspells := Spells.inFunction h.function_line h.locates
    ((Diagnostics.cutLastOpen_eq_none_iff _).mp h.no_open)
  simpa [callText, Frame.shown] using hspells

/-! ## Stacks -/

/-- The first place of a stack is read back, whatever stands behind it. -/
theorem readStack_cons (h : f.Readable) (outer : List Frame) :
    readStack (stackText (f :: outer)) = f.shown :: readStack (stackText outer) := by
  have hbreak : '\n' ∉ "at ".toList ++ callText f :=
    List.not_mem_append (by decide) h.spells.no_break
  have hline : readStack (String.ofList (frameLine f)) = [f.shown] := by
    have hindent : ∀ c ∈ "    ".toList, Text.isBlank c = true := List.all_eq_true.mp (by decide)
    have hblanks := Diagnostics.readStack_blanks hindent ("at ".toList ++ callText f)
      (List.forall_mem_nil _)
    rw [Diagnostics.readStack_line hbreak, h.spells.readFrame, List.append_nil] at hblanks
    exact hblanks
  rw [← String.ofList_toList (s := stackText (f :: outer)), stackText_cons,
    Diagnostics.readStack_append_break, hline, String.ofList_toList]
  rfl

/-! ## Exceptions -/

theorem run_atPlace_error {α : Type} {w w' : World} {x : Machine α} {e : Stop} (place : Frame)
    (h : run { w with frames := place :: w.frames } x = (.error e, w')) :
    run w (atPlace place x) = (.error e, { w' with frames := w.frames }) := by
  unfold atPlace
  rw [run_bind_ok (run_get w), run_bind_ok (run_modify w _), run_bind]
  have htry : ∀ handler : Stop → Machine α, run { w with frames := place :: w.frames }
      (tryCatchThe Stop x handler) = run w' (handler e) := by
    intro handler
    rw [run_tryCatch, h]
  rw [show ∀ handler, run _ (tryCatch x handler) = run w' (handler e) from htry]
  rfl

/-- An exception that code has raised at a place has this stack. -/
def RaisedAt (place : Frame) (stack : String) : Prop :=
  ∃ (w w' : World) (name message : String) (r : Ref),
    run w (atPlace place (raise name message : Machine Unit)) =
      (.error (.thrown (.object r)), w') ∧
    w'.heap.find r "stack" = some (.text stack)

theorem run_raise_at {α : Type} (w : World) (place : Frame) (name message : String) :
    run w (atPlace place (raise name message : Machine α)) =
      (.error (.thrown (.object w.heap.size)),
        { w with heap := w.heap.push (errorAt (place :: w.frames) name message) }) :=
  run_atPlace_error place (run_raise _ name message)

theorem find_stack (h : Heap) (frames : List Frame) (name message : String) :
    Heap.find (h.push (errorAt frames name message)) h.size "stack" =
      some (.text (stackText frames)) := by
  refine Heap.find_of_own _ ?_
  simp [Heap.own?, Heap.at_push, errorAt, hidden, List.lookup_cons]

/-- The stack has the place first, and then those that the code was called from. -/
theorem raisedAt_iff {place : Frame} {stack : String} :
    RaisedAt place stack ↔ ∃ outer, stack = stackText (place :: outer) := by
  constructor
  · rintro ⟨w, w', name, message, r, hrun, hstack⟩
    rw [run_raise_at] at hrun
    cases hrun
    rw [find_stack] at hstack
    cases hstack
    exact ⟨w.frames, rfl⟩
  · rintro ⟨outer, rfl⟩
    let w : World := { surroundings := bareSurroundings, frames := outer }
    exact ⟨w, _, "Error", "", _, run_raise_at w place "Error" "", find_stack ..⟩

/-- **Places of exceptions.** The exception that code raises at a place shows this place first. -/
theorem raise_shows_place {place : Frame} (h : place.Readable) {stack : String}
    (hraised : RaisedAt place stack) : ∃ outer, readStack stack = place.shown :: outer := by
  obtain ⟨outer, rfl⟩ := raisedAt_iff.mp hraised
  exact ⟨_, readStack_cons h outer⟩

end GuestLint.Guest

import Mathlib.Algebra.Group.Int.Defs
import GuestLint.Builtin.Util
import GuestLint.Proofs.Guest.Machine
import GuestLint.Proofs.Number.Notation
import GuestLint.Proofs.Text.Template

/-!
# Messages that guests have formatted

A guest gives a template and arguments for its directives. The message of two templates with their
arguments is the two messages one after another, as long as the first template keeps its arguments
to itself; and every argument is rendered once, in order.

* `format_append`: a message in parts, whatever the conversions of its arguments do.
* `Quiet.format`: where each rendered argument stands in a message.
* `format_in_parts`: messages in parts, and texts that no directive is read in.
* `integers_shown_iff`: which integers the numeric directives show, and which of them look alike.
-/
namespace GuestLint.Builtin

open Guest
open Text (Template Directive pieces kinds percentsAtEnd shares weave doubled)
open Number (Numeral clamped)

variable {call : Call} {w w' : World}

/-! ## Formatting in parts -/

/-- What has no directive is rendered as a directive shows it. -/
theorem format_text (template : String) (args : List Value) :
    format call (.text template :: args) =
      Text.fill (render call) (render call .shown) (pieces template.toList) args := rfl

theorem run_format {args : List Value} {text : String}
    (h : run w (format call args) = (.ok text, w')) :
    run w (runUtil call .format args) = (.ok (.text text), w') := by
  show run w (Value.text <$> format call args) = _
  rw [← bind_pure_comp, run_bind_ok h]
  rfl

/-- A template that has a directive for each of its arguments is formatted on its own, before
everything behind it. -/
theorem format_append {front : String} {n : Nat} (hfront : Template front.toList n) (back : String)
    {args : List Value} (others : List Value) (hargs : args.length = n) :
    format call (.text (front ++ back) :: (args ++ others)) = (do
      let first ← format call (.text front :: args)
      let second ← format call (.text back :: others)
      pure (first ++ second)) := by
  rw [format_text, String.toList_append, hfront.pieces_append,
    Text.fill_append _ _ _ _ _ _ (hfront.kinds_length.trans hargs.symm)]
  rfl

theorem format_doubled (text : String) :
    format call [.text (String.ofList (doubled text.toList))] = pure text := by
  have hfill : ∀ cs : List Char, Text.fill (render call) (render call .shown)
      (cs.map .literal) [] = (pure (String.ofList cs) : Machine String) := by
    intro cs
    induction cs with
    | nil => rfl
    | cons c cs ih =>
      rw [List.map_cons, Text.fill, ih, pure_bind]
      show (pure (String.singleton c ++ String.ofList cs) : Machine String) = _
      rw [← String.ofList_cons]
  rw [format_text, String.toList_ofList, Text.pieces_doubled, hfill, String.ofList_toList]

/-! ## Conversions without effects -/

/-- The conversions that a message needs give texts, and nothing else happens in them. -/
def Quiet (call : Call) (w : World) (template : String) (args : List Value) : Prop :=
  ∀ share ∈ shares (pieces template.toList) args,
    ∃ text, run w (render call share.1 share.2) = (.ok text, w)

/-- Each argument is rendered by its directive, or shown when it has none, and stands where
`weave` puts it. -/
theorem Quiet.format {template : String} {args : List Value} (h : Quiet call w template args) :
    ∃ rendered : Directive × Value → String,
      (∀ share ∈ shares (pieces template.toList) args,
        run w (render call share.1 share.2) = (.ok (rendered share), w)) ∧
      run w (format call (.text template :: args)) =
        (.ok (weave (pieces template.toList)
          ((shares (pieces template.toList) args).map rendered)), w) := by
  have hchoice : ∀ share, ∃ text, share ∈ shares (pieces template.toList) args →
      run w (render call share.1 share.2) = (.ok text, w) := by
    intro share
    by_cases hshare : share ∈ shares (pieces template.toList) args
    · obtain ⟨text, htext⟩ := h share hshare
      exact ⟨text, fun _ => htext⟩
    · exact ⟨"", fun hmem => absurd hmem hshare⟩
  obtain ⟨rendered, hrendered⟩ := Classical.axiomOfChoice hchoice
  refine ⟨rendered, hrendered, ?_⟩
  rw [format_text, Text.fill_eq, run_bind_ok (run_mapM hrendered)]
  rfl

/-- **Messages in parts.** When the first of two templates does not end in an unescaped percent
sign and has a directive for each of its arguments, the message of both templates with all the
arguments is the message of the first with its arguments and then the message of the second with
the others. Such first templates are the texts that end in an even number of percent signs, with
the directives that are read in them. A text with its percent signs doubled is its own message. And
every argument of a message is rendered once, in order, by the directive that it goes to, or shown
behind the rest of the message after a blank. -/
theorem format_in_parts (call : Call) :
    (∀ front n, Template front n ↔
      percentsAtEnd front % 2 = 0 ∧ (kinds (pieces front)).length = n) ∧
    (∀ front n, Template front.toList n → ∀ back args others, args.length = n →
      ∀ w, Quiet call w front args → Quiet call w back others → ∃ first second,
        run w (runUtil call .format (.text front :: args)) = (.ok (.text first), w) ∧
        run w (runUtil call .format (.text back :: others)) = (.ok (.text second), w) ∧
        run w (runUtil call .format (.text (front ++ back) :: (args ++ others))) =
          (.ok (.text (first ++ second)), w)) ∧
    (∀ text w, run w (runUtil call .format [.text (String.ofList (doubled text.toList))]) =
      (.ok (.text text), w)) ∧
    (∀ template args w, Quiet call w template args → ∃ rendered : Directive × Value → String,
      (∀ share ∈ shares (pieces template.toList) args,
        run w (render call share.1 share.2) = (.ok (rendered share), w)) ∧
      run w (runUtil call .format (.text template :: args)) =
        (.ok (.text (weave (pieces template.toList)
          ((shares (pieces template.toList) args).map rendered))), w)) := by
  refine ⟨fun _ _ => Text.template_iff, ?_, ?_, ?_⟩
  · intro front n hfront back args others hargs w hquiet hothers
    obtain ⟨first, -, hfirst⟩ := hquiet.format
    obtain ⟨second, -, hsecond⟩ := hothers.format
    refine ⟨_, _, run_format hfirst, run_format hsecond, run_format ?_⟩
    rw [format_append hfront back others hargs, run_bind_ok hfirst, run_bind_ok hsecond]
    rfl
  · intro text w
    exact run_format (by rw [format_doubled]; rfl)
  · intro template args w hquiet
    obtain ⟨rendered, hall, hrun⟩ := hquiet.format
    exact ⟨rendered, hall, run_format hrun⟩

/-- A world without objects. -/
def emptyWorld : World := { heap := #[], surroundings := bareSurroundings }

/-- An escape and a directive in front, and behind them a directive, a percent sign that stands for
itself and an argument without a directive. -/
theorem format_in_parts_escaped :
    Template "100%% of %s".toList 1 ∧ Quiet idleCall emptyWorld "100%% of %s" [.text "it%d"] ∧
    Quiet idleCall emptyWorld " in %i%" [.text "3.5", .null] ∧ ∃ first second,
      run emptyWorld (runUtil idleCall .format [.text "100%% of %s", .text "it%d"]) =
        (.ok (.text first), emptyWorld) ∧
      run emptyWorld (runUtil idleCall .format [.text " in %i%", .text "3.5", .null]) =
        (.ok (.text second), emptyWorld) ∧
      run emptyWorld (runUtil idleCall .format
          [.text ("100%% of %s" ++ " in %i%"), .text "it%d", .text "3.5", .null]) =
        (.ok (.text (first ++ second)), emptyWorld) := by
  obtain ⟨hwhich, hparts, -, -⟩ := format_in_parts idleCall
  have htemplate : Template "100%% of %s".toList 1 :=
    (hwhich _ _).mpr ⟨by decide, by decide +kernel⟩
  have hquiet : Quiet idleCall emptyWorld "100%% of %s" [.text "it%d"] := by
    intro share hshare
    obtain rfl : share = (.shown, .text "it%d") := List.mem_singleton.mp hshare
    exact ⟨_, rfl⟩
  have hothers : Quiet idleCall emptyWorld " in %i%" [.text "3.5", .null] := by
    intro share hshare
    have hcases : share ∈ [(Directive.integer, Value.text "3.5"), (.shown, .null)] := hshare
    simp only [List.mem_cons, List.not_mem_nil, or_false] at hcases
    rcases hcases with rfl | rfl
    · exact ⟨_, rfl⟩
    · exact ⟨_, rfl⟩
  exact ⟨htemplate, hquiet, hothers, hparts _ _ htemplate _ _ _ rfl _ hquiet hothers⟩

/-! ## Numbers in messages -/

theorem render_number (x : Double) :
    render call .number (.number x) = pure (Number.placeholderText x) := by
  simp [render, toNumber]

theorem render_integer (x : Double) :
    render call .integer (.number x) = pure (Number.placeholderText x.trunc) := by
  simp [render, toNumber]

/-- A template that is one directive. -/
theorem run_format_directive {letter : Char} {kind : Directive} {v : Value} {text : String}
    (hkind : Directive.ofLetter? letter = some kind)
    (h : run w (render call kind v) = (.ok text, w')) :
    run w (runUtil call .format [.text (String.ofList ['%', letter]), v]) =
      (.ok (.text text), w') := by
  have hletter : letter ∈ Text.directiveLetters :=
    Text.isSome_ofLetter?.mp (Option.isSome_of_eq_some hkind)
  obtain ⟨kind', hkind', hpieces⟩ := Text.pieces_directive hletter
  obtain rfl : kind = kind' := Option.some.inj (hkind.symm.trans hkind')
  refine run_format ?_
  rw [format_text, String.toList_ofList, hpieces, Text.fill, run_bind_ok h]
  show (Except.ok (text ++ ""), w') = _
  rw [String.append_empty]

/-- The directives for numbers show an integer below `10 ^ 21` as the nearest signed 64-bit
integer. -/
theorem run_format_integer {letter : Char} {x : Double} {n : Int}
    (hletter : letter ∈ ['d', 'i', 'f']) (h : x.integer? = some n) (hn : n.natAbs < 10 ^ 21) :
    run w (runUtil call .format [.text (String.ofList ['%', letter]), .number x]) =
      (.ok (.text (toString (clamped n))), w) := by
  have hnumber : run w (render call .number (.number x)) = (.ok (toString (clamped n)), w) := by
    rw [render_number, Number.placeholderText_of_integer? h hn]
    rfl
  have hinteger : run w (render call .integer (.number x)) = (.ok (toString (clamped n)), w) := by
    rw [render_integer, Double.trunc_of_integer? h, Number.placeholderText_of_integer? h hn]
    rfl
  simp only [List.mem_cons, List.not_mem_nil, or_false] at hletter
  rcases hletter with rfl | rfl | rfl
  · exact run_format_directive (by decide) hnumber
  · exact run_format_directive (by decide) hinteger
  · exact run_format_directive (by decide) hnumber

/-- **Integers in messages.** A directive for numbers shows every integer below `10 ^ 21` as a
decimal numeral. It is a numeral of this integer if and only if the integer fits into 64 bits, and
of the nearest one that does otherwise. Two integers are shown as the same text if and only if they
are the same, or both lie beyond the same end of that range. -/
theorem integers_shown_iff (call : Call) (w : World) {x y : Double} {n k : Int}
    {letter other : Char} (hletter : letter ∈ ['d', 'i', 'f']) (hother : other ∈ ['d', 'i', 'f'])
    (hx : x.integer? = some n) (hn : n.natAbs < 10 ^ 21)
    (hy : y.integer? = some k) (hk : k.natAbs < 10 ^ 21) :
    ∃ text text',
      run w (runUtil call .format [.text (String.ofList ['%', letter]), .number x]) =
        (.ok (.text text), w) ∧
      run w (runUtil call .format [.text (String.ofList ['%', other]), .number y]) =
        (.ok (.text text'), w) ∧
      Numeral text.toList (clamped n) ∧
      (Numeral text.toList n ↔ -0x8000000000000000 ≤ n ∧ n ≤ 0x7FFFFFFFFFFFFFFF) ∧
      (text = text' ↔ n = k ∨ (0x7FFFFFFFFFFFFFFF ≤ n ∧ 0x7FFFFFFFFFFFFFFF ≤ k) ∨
        (n ≤ -0x8000000000000000 ∧ k ≤ -0x8000000000000000)) := by
  have hnumeral : Numeral (toString (clamped n)).toList (clamped n) :=
    Number.numeral_toString (clamped n)
  refine ⟨_, _, run_format_integer hletter hx hn, run_format_integer hother hy hk, hnumeral, ?_, ?_⟩
  · rw [← Number.clamped_eq_self_iff]
    constructor
    · exact hnumeral.unique
    · intro hsame
      rw [hsame]
      exact Number.numeral_toString n
  · rw [← Number.clamped_eq_iff]
    constructor
    · intro htext
      rw [htext] at hnumeral
      exact hnumeral.unique (Number.numeral_toString (clamped k))
    · exact congrArg toString

/-- The ends of the range are apart: the lowest 64-bit integer, and the greatest double below the
other end. -/
theorem integers_shown_iff_ends :
    (Double.mk 0xC3E0000000000000).integer? = some (-0x8000000000000000) ∧
    (Double.mk 0x43DFFFFFFFFFFFFF).integer? = some 0x7FFFFFFFFFFFFC00 ∧
    ∃ text text',
      run emptyWorld (runUtil idleCall .format
          [.text (String.ofList ['%', 'd']), .number ⟨0xC3E0000000000000⟩]) =
        (.ok (.text text), emptyWorld) ∧
      run emptyWorld (runUtil idleCall .format
          [.text (String.ofList ['%', 'i']), .number ⟨0x43DFFFFFFFFFFFFF⟩]) =
        (.ok (.text text'), emptyWorld) ∧
      Numeral text.toList (-0x8000000000000000) ∧ text ≠ text' := by
  have hlow : (Double.mk 0xC3E0000000000000).integer? = some (-0x8000000000000000) := by decide
  have hhigh : (Double.mk 0x43DFFFFFFFFFFFFF).integer? = some 0x7FFFFFFFFFFFFC00 := by decide
  obtain ⟨text, text', hrun, hrun', -, hnumeral, hsame⟩ :=
    integers_shown_iff idleCall emptyWorld (show 'd' ∈ ['d', 'i', 'f'] by decide)
      (show 'i' ∈ ['d', 'i', 'f'] by decide) hlow (by decide) hhigh (by decide)
  refine ⟨hlow, hhigh, text, text', hrun, hrun', hnumeral.mpr (by decide), ?_⟩
  rw [Ne, hsame]
  decide

/-- Ten to the power of twenty, and twice as much, are both shown as the greatest 64-bit integer. -/
theorem large_integers_alike :
    (Double.mk 0x4415AF1D78B58C40).integer? = some (10 ^ 20) ∧
    (Double.mk 0x4425AF1D78B58C40).integer? = some (2 * 10 ^ 20) ∧
    (∀ x ∈ [Double.mk 0x4415AF1D78B58C40, Double.mk 0x4425AF1D78B58C40],
      run emptyWorld (runUtil idleCall .format [.text "%d", .number x]) =
        (.ok (.text "9223372036854775807"), emptyWorld)) ∧
    ¬ ∀ (x : Double) (n : Int) (text : String), x.integer? = some n → n.natAbs < 10 ^ 21 →
      run emptyWorld (runUtil idleCall .format [.text "%d", .number x]) =
        (.ok (.text text), emptyWorld) → Numeral text.toList n := by
  have hshown : ∀ x ∈ [Double.mk 0x4415AF1D78B58C40, Double.mk 0x4425AF1D78B58C40],
      run emptyWorld (runUtil idleCall .format [.text "%d", .number x]) =
        (.ok (.text "9223372036854775807"), emptyWorld) := by
    intro x hx
    simp only [List.mem_cons, List.not_mem_nil, or_false] at hx
    rcases hx with rfl | rfl
    · rfl
    · rfl
  refine ⟨by decide, by decide, hshown, fun hall => ?_⟩
  have hclaimed := hall ⟨0x4415AF1D78B58C40⟩ (10 ^ 20) _ (by decide) (by decide)
    (hshown _ List.mem_cons_self)
  have hwritten : Numeral "9223372036854775807".toList 9223372036854775807 :=
    Number.numeral_toString 9223372036854775807
  exact absurd (hclaimed.unique hwritten) (by decide)

end GuestLint.Builtin

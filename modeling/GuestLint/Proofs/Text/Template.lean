import Mathlib.Data.List.TakeWhile
import GuestLint.Text.Template

/-!
# Templates one after another

A template is read from left to right, and a percent sign looks at the character behind it. So a
template that does not end in an unescaped percent sign is read the same whatever follows, and one
that has a directive for each of its arguments is filled in without regard to what follows.

* `template_iff`: which texts are templates of their own, and with how many directives.
* `Template.pieces_append`, `fill_append`: reading and filling in, part by part.
* `pieces_doubled`: a text with its percent signs doubled stands for itself.
* `fill_eq`: every argument is rendered once, in order, and put into its place.
-/
namespace GuestLint.Text

/-! ## Templates -/

/-- The letters behind a percent sign that take an argument. -/
def directiveLetters : List Char := ['s', 'd', 'i', 'f', 'j', 'o', 'O', 'c']

/-- A text is a template with a number of directives. Two percent signs are an escape, and a text
that ends in an unescaped percent sign is none: it would read what is put behind it. -/
inductive Template : List Char → Nat → Prop
  | nil : Template [] 0
  | literal {c text n} (hc : c ≠ '%') (rest : Template text n) : Template (c :: text) n
  | escape {text n} (rest : Template text n) : Template ('%' :: '%' :: text) n
  | directive {letter text n} (hletter : letter ∈ directiveLetters) (rest : Template text n) :
      Template ('%' :: letter :: text) (n + 1)
  /-- A percent sign in front of anything else. -/
  | percent {d text n} (hd : d ≠ '%') (hother : d ∉ directiveLetters)
      (rest : Template (d :: text) n) : Template ('%' :: d :: text) n

theorem isSome_ofLetter? {letter : Char} :
    (Directive.ofLetter? letter).isSome = true ↔ letter ∈ directiveLetters := by
  simp only [Directive.ofLetter?, directiveLetters, List.mem_cons, List.not_mem_nil, or_false]
  grind

theorem ne_percent {letter : Char} (h : letter ∈ directiveLetters) : letter ≠ '%' := by
  rintro rfl
  exact absurd h (by decide)

theorem pieces_literal {c : Char} (hc : c ≠ '%') (text : List Char) :
    pieces (c :: text) = .literal c :: pieces text := by
  cases text with
  | nil => rfl
  | cons d text => rw [pieces, if_neg hc]

theorem pieces_escape (text : List Char) :
    pieces ('%' :: '%' :: text) = .literal '%' :: pieces text := by
  rw [pieces, if_pos rfl, if_pos rfl]

theorem pieces_directive {letter : Char} (h : letter ∈ directiveLetters) :
    ∃ kind, Directive.ofLetter? letter = some kind ∧ ∀ text,
      pieces ('%' :: letter :: text) = .directive letter kind :: pieces text := by
  obtain ⟨kind, hkind⟩ := Option.isSome_iff_exists.mp (isSome_ofLetter?.mpr h)
  refine ⟨kind, hkind, fun text => ?_⟩
  rw [pieces, if_pos rfl, if_neg (ne_percent h), hkind]

theorem pieces_percent {d : Char} (hd : d ≠ '%') (hother : d ∉ directiveLetters)
    (text : List Char) : pieces ('%' :: d :: text) = .literal '%' :: pieces (d :: text) := by
  have hnone : Directive.ofLetter? d = none := by
    rw [← Option.not_isSome_iff_eq_none, isSome_ofLetter?]
    exact hother
  rw [pieces, if_pos rfl, if_neg hd, hnone]

/-! ## Which texts are templates -/

/-- How many percent signs a text ends in. -/
def percentsAtEnd (text : List Char) : Nat := (text.reverse.takeWhile (· == '%')).length

theorem percentsAtEnd_cons_of_ne {c : Char} (hc : c ≠ '%') (text : List Char) :
    percentsAtEnd (c :: text) = percentsAtEnd text := by
  unfold percentsAtEnd
  rw [List.reverse_cons, List.takeWhile_append]
  split
  · rename_i hall
    simp [hc, hall]
  · rfl

theorem percentsAtEnd_percent {d : Char} (hd : d ≠ '%') (text : List Char) :
    percentsAtEnd ('%' :: d :: text) = percentsAtEnd (d :: text) := by
  have hstop : ((d :: text).reverse.takeWhile (· == '%')).length ≠ (d :: text).reverse.length := by
    intro hall
    have hmem : d ∈ (d :: text).reverse.takeWhile (· == '%') := by
      rw [(List.takeWhile_prefix _).eq_of_length hall]
      simp
    exact hd (by simpa using List.mem_takeWhile_imp hmem)
  unfold percentsAtEnd
  rw [List.reverse_cons, List.takeWhile_append, if_neg hstop]

theorem percentsAtEnd_escape (text : List Char) :
    percentsAtEnd ('%' :: '%' :: text) % 2 = percentsAtEnd text % 2 := by
  unfold percentsAtEnd
  rw [List.reverse_cons, List.reverse_cons, List.append_assoc, List.takeWhile_append]
  split
  · rename_i hall
    simp [hall]
  · rfl

/-- A text is a template unless it ends in an odd number of percent signs. -/
theorem exists_template_iff {text : List Char} :
    (∃ n, Template text n) ↔ percentsAtEnd text % 2 = 0 := by
  constructor
  · rintro ⟨n, h⟩
    induction h with
    | nil => rfl
    | literal hc _ ih => rw [percentsAtEnd_cons_of_ne hc, ih]
    | escape _ ih => rw [percentsAtEnd_escape, ih]
    | directive hletter _ ih =>
      have hne := ne_percent hletter
      rw [percentsAtEnd_percent hne, percentsAtEnd_cons_of_ne hne, ih]
    | percent hd _ _ ih => rw [percentsAtEnd_percent hd, ih]
  · intro h
    induction text using pieces.induct with
    | case1 => exact ⟨0, .nil⟩
    | case2 c =>
      have hc : c ≠ '%' := by
        rintro rfl
        exact absurd h (by decide)
      exact ⟨0, .literal hc .nil⟩
    | case3 text ih =>
      obtain ⟨n, htext⟩ := ih (percentsAtEnd_escape text ▸ h)
      exact ⟨n, .escape htext⟩
    | case4 d text hd kind hkind ih =>
      rw [percentsAtEnd_percent hd, percentsAtEnd_cons_of_ne hd] at h
      obtain ⟨n, htext⟩ := ih h
      exact ⟨n + 1, .directive (isSome_ofLetter?.mp (Option.isSome_of_eq_some hkind)) htext⟩
    | case5 d text hd hnone ih =>
      rw [percentsAtEnd_percent hd] at h
      obtain ⟨n, htext⟩ := ih h
      have hother : d ∉ directiveLetters := by
        rw [← isSome_ofLetter?, hnone]
        exact Bool.false_ne_true
      exact ⟨n, .percent hd hother htext⟩
    | case6 c d text hc ih =>
      rw [percentsAtEnd_cons_of_ne hc] at h
      obtain ⟨n, htext⟩ := ih h
      exact ⟨n, .literal hc htext⟩

/-! ## Reading templates -/

/-- The directives of a template, in order. -/
def kinds (ps : List Piece) : List Directive :=
  ps.filterMap fun
    | .literal _ => none
    | .directive _ kind => some kind

@[simp] theorem kinds_literal (c : Char) (ps : List Piece) : kinds (.literal c :: ps) = kinds ps :=
  rfl

@[simp] theorem kinds_directive (letter : Char) (kind : Directive) (ps : List Piece) :
    kinds (.directive letter kind :: ps) = kind :: kinds ps := rfl

/-- A template is read the same, whatever stands behind it. -/
theorem Template.pieces_append {text : List Char} {n : Nat} (h : Template text n)
    (rest : List Char) : pieces (text ++ rest) = pieces text ++ pieces rest := by
  induction h with
  | nil => rfl
  | literal hc _ ih =>
    rw [List.cons_append, pieces_literal hc, pieces_literal hc, ih, List.cons_append]
  | escape _ ih =>
    rw [List.cons_append, List.cons_append, pieces_escape, pieces_escape, ih, List.cons_append]
  | directive hletter _ ih =>
    obtain ⟨kind, -, hpieces⟩ := pieces_directive hletter
    rw [List.cons_append, List.cons_append, hpieces, hpieces, ih, List.cons_append]
  | percent hd hother _ ih =>
    rw [List.cons_append, List.cons_append, pieces_percent hd hother, pieces_percent hd hother,
      ← List.cons_append, ih, List.cons_append]

theorem Template.kinds_length {text : List Char} {n : Nat} (h : Template text n) :
    (kinds (pieces text)).length = n := by
  induction h with
  | nil => rfl
  | literal hc _ ih => rw [pieces_literal hc, kinds_literal, ih]
  | escape _ ih => rw [pieces_escape, kinds_literal, ih]
  | directive hletter _ ih =>
    obtain ⟨kind, -, hpieces⟩ := pieces_directive hletter
    rw [hpieces, kinds_directive, List.length_cons, ih]
  | percent hd hother _ ih => rw [pieces_percent hd hother, kinds_literal, ih]

/-- **Templates.** A text that does not end in an unescaped percent sign is a template, with as many
directives as are read in it. -/
theorem template_iff {text : List Char} {n : Nat} :
    Template text n ↔ percentsAtEnd text % 2 = 0 ∧ (kinds (pieces text)).length = n := by
  constructor
  · exact fun h => ⟨exists_template_iff.mp ⟨n, h⟩, h.kinds_length⟩
  · rintro ⟨heven, rfl⟩
    obtain ⟨k, h⟩ := exists_template_iff.mpr heven
    exact h.kinds_length.symm ▸ h

/-- A text with every percent sign written twice. -/
def doubled (text : List Char) : List Char :=
  text.flatMap fun c => if c = '%' then ['%', '%'] else [c]

theorem pieces_doubled (text : List Char) : pieces (doubled text) = text.map .literal := by
  induction text with
  | nil => rfl
  | cons c text ih =>
    show pieces ((if c = '%' then ['%', '%'] else [c]) ++ doubled text) = _
    split
    · rename_i hc
      rw [List.cons_append, List.cons_append, List.nil_append, pieces_escape, ih, hc, List.map_cons]
    · rename_i hc
      rw [List.cons_append, List.nil_append, pieces_literal hc, ih, List.map_cons]

/-! ## Filling templates in -/

/-- The directive that each argument goes to; an argument without one is shown. -/
def shares {α : Type} (ps : List Piece) (args : List α) : List (Directive × α) :=
  args.mapIdx fun i a => ((kinds ps)[i]?.getD .shown, a)

/-- Puts rendered arguments into their places: into the directives in order, and those without one
behind everything else, each after a blank. A directive without an argument stays as it is. -/
def weave : List Piece → List String → String
  | [], rendered => String.join (rendered.map fun s => " " ++ s)
  | .literal c :: ps, rendered => String.singleton c ++ weave ps rendered
  | .directive letter _ :: ps, [] => String.ofList ['%', letter] ++ weave ps []
  | .directive _ _ :: ps, s :: rendered => s ++ weave ps rendered

variable {m : Type → Type} [Monad m] [LawfulMonad m] {α : Type}

/-- A template that has a directive for each of its arguments is filled in on its own. -/
theorem fill_append (render : Directive → α → m String) (view : α → m String)
    (front back : List Piece) (args others : List α) (h : (kinds front).length = args.length) :
    fill render view (front ++ back) (args ++ others) = (do
      let first ← fill render view front args
      let second ← fill render view back others
      pure (first ++ second)) := by
  induction front generalizing args with
  | nil =>
    obtain rfl : args = [] := List.length_eq_zero_iff.mp h.symm
    simp only [List.nil_append, fill, trailing, pure_bind, String.empty_append, bind_pure]
  | cons piece front ih =>
    cases piece with
    | literal c =>
      simp only [List.cons_append, fill, ih args h, bind_assoc, pure_bind, String.append_assoc]
    | directive letter kind =>
      cases args with
      | nil => simp at h
      | cons a args =>
        have hargs : (kinds front).length = args.length := by simpa using h
        simp only [List.cons_append, fill, ih args hargs, bind_assoc, pure_bind,
          String.append_assoc]

theorem trailing_eq (view : α → m String) (args : List α) :
    trailing view args = (do
      let rendered ← args.mapM view
      pure (String.join (rendered.map fun s => " " ++ s))) := by
  induction args with
  | nil => simp [trailing]
  | cons a args ih => simp [trailing, ih, String.append_assoc]

/-- Every argument is rendered once, in order, and put into its place. -/
theorem fill_eq (render : Directive → α → m String) (ps : List Piece) (args : List α) :
    fill render (render .shown) ps args = (do
      let rendered ← (shares ps args).mapM fun share => render share.1 share.2
      pure (weave ps rendered)) := by
  induction ps generalizing args with
  | nil =>
    have hshares : shares [] args = args.map fun a => (Directive.shown, a) := by
      apply List.ext_getElem <;> simp [shares, kinds]
    rw [hshares, List.mapM_map]
    exact trailing_eq (render .shown) args
  | cons piece ps ih =>
    cases piece with
    | literal c => simp [fill, ih, weave, shares]
    | directive letter kind =>
      cases args with
      | nil => simp [fill, ih, weave, shares]
      | cons a args => simp [fill, ih, weave, shares, List.mapIdx_cons]

end GuestLint.Text

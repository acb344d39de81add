import GuestLint.Proofs.Path.Lexical
import GuestLint.Proofs.Text.Basic

/-!
# The pieces of a path

A path is cut into its directory and its last element. Separators at the end and between the two
belong to neither of them, and where there is no directory to name, the root or the place where the
path is read stands for it. The last element is cut once more at its last dot.

* `IsCut`: the ways in which a path is made of a directory and a last element.
* `isCut_pieces`: every path is made of the two that are read off it.
* `IsCut.join_eq_clean`: put together again, they are the path.
* `ending_cases`: the ending of the last element.
* `pieces_fit`: the pieces of a path fit together.
-/
namespace GuestLint.Path

/-! ## Cuts -/

/-- Nothing but separators. -/
def separators (n : Nat) : String := String.ofList (List.replicate n '/')

/-- A path with its directory and its last element. -/
inductive IsCut : String → String → String → Prop
  | empty : IsCut "" "." ""
  | root (n : Nat) : IsCut (separators (n + 1)) "/" ""
  | alone {base : String} (n : Nat) (hne : base ≠ "") (hflat : IsFlat base) :
    IsCut (base ++ separators n) "." base
  | belowRoot {base : String} (k n : Nat) (hne : base ≠ "") (hflat : IsFlat base) :
    IsCut (separators (k + 1) ++ base ++ separators n) "/" base
  | below {dir base : String} (k n : Nat) (hdir : dir ≠ "") (hne : base ≠ "")
    (hflat : IsFlat base) : IsCut (dir ++ separators (k + 1) ++ base ++ separators n) dir base

theorem basename_none (path : String) :
    basename path none = String.ofList (lastElement path.toList) := rfl

theorem eq_ofList {path : String} {text : List Char} (h : path.toList = text) :
    path = String.ofList text := by
  rw [← h, String.ofList_toList]

theorem isFlat_ofList {text : List Char} (h : '/' ∉ text) : IsFlat (String.ofList text) := by
  rwa [IsFlat, String.toList_ofList]

/-- The directory of a path that is more than separators. -/
theorem dirname_trimmed {path : String} (h : Text.trimEndOf '/' path.toList ≠ []) :
    dirname path = match Text.cutLast '/' (Text.trimEndOf '/' path.toList) with
      | none => "."
      | some (front, _) =>
        if Text.trimEndOf '/' front = [] then "/" else String.ofList (Text.trimEndOf '/' front) := by
  have hne : path ≠ "" := by
    rintro rfl
    exact h rfl
  rw [dirname, if_neg hne]
  cases htrimmed : Text.trimEndOf '/' path.toList with
  | nil => exact absurd htrimmed h
  | cons c rest =>
    cases hcut : Text.cutLast '/' (c :: rest) with
    | none => simp only [hcut]
    | some cut =>
      simp only [hcut]
      cases hfront : Text.trimEndOf '/' cut.1 with
      | nil => rfl
      | cons d dir => rfl

theorem toList_separators (n : Nat) : (separators n).toList = List.replicate n '/' :=
  String.toList_ofList

theorem ofList_ne_empty {text : List Char} (h : text ≠ []) : String.ofList text ≠ "" := fun heq =>
  h (by rw [← String.toList_ofList (l := text), heq, String.toList_empty])

theorem separators_ne_empty (n : Nat) : separators (n + 1) ≠ "" :=
  ofList_ne_empty (List.cons_ne_nil '/' (List.replicate n '/'))

/-- Every path is made of the directory and the last element that are read off it. -/
theorem isCut_pieces (path : String) : IsCut path (dirname path) (basename path none) := by
  obtain ⟨n, hpath⟩ := Text.eq_trimEndOf_append '/' path.toList
  rw [basename_none, lastElement]
  by_cases htrimmed : Text.trimEndOf '/' path.toList = []
  · rw [htrimmed, List.nil_append] at hpath
    rw [htrimmed]
    cases n with
    | zero =>
      obtain rfl : path = "" := String.toList_eq_nil_iff.mp hpath
      exact .empty
    | succ n =>
      obtain rfl : path = separators (n + 1) := eq_ofList hpath
      rw [dirname, if_neg (separators_ne_empty n), htrimmed]
      exact .root n
  · have hend := Text.trimEndOf_ne_append '/' path.toList
    rw [dirname_trimmed htrimmed]
    generalize Text.trimEndOf '/' path.toList = trimmed at hpath htrimmed hend ⊢
    rcases Text.cutLast_cases '/' trimmed with ⟨hflat, hcut⟩ | ⟨front, base, rfl, hflat, hcut⟩
    · obtain rfl : path = String.ofList trimmed ++ separators n :=
        String.toList_inj.mp (by simp [hpath, toList_separators])
      simp only [hcut]
      exact .alone n (ofList_ne_empty htrimmed) (isFlat_ofList hflat)
    · have hbase : base ≠ [] := by
        rintro rfl
        exact hend front rfl
      obtain ⟨k, hfront⟩ := Text.eq_trimEndOf_append '/' front
      simp only [hcut]
      generalize Text.trimEndOf '/' front = dir at hfront ⊢
      subst hfront
      obtain rfl : path = String.ofList dir ++ separators (k + 1) ++ String.ofList base ++
          separators n := String.toList_inj.mp
        (by simp [hpath, toList_separators, List.replicate_succ'])
      split
      · rename_i hdir
        rw [hdir, String.ofList_nil, String.empty_append]
        exact .belowRoot k n (ofList_ne_empty hbase) (isFlat_ofList hflat)
      · rename_i hdir
        exact .below k n (ofList_ne_empty hdir) (ofList_ne_empty hbase) (isFlat_ofList hflat)

/-! ## Putting a path together again -/

section
variable {rooted : Bool} {stack : List String}

/-- Separators at the end say nothing. -/
theorem foldl_segments_separators (text : String) (n : Nat) :
    (segments (text ++ separators n)).foldl (step rooted) stack =
      (segments text).foldl (step rooted) stack := by
  induction n with
  | zero => rw [separators, List.replicate_zero, String.ofList_nil, String.append_empty]
  | succ n ih =>
    have hlast : text ++ separators (n + 1) = text ++ separators n ++ "/" ++ "" :=
      String.toList_inj.mp (by simp [toList_separators, List.replicate_succ'])
    rw [hlast, segments_append, List.foldl_append, ih, foldl_segments_empty]

/-- Separators inside a path are one separator. -/
theorem foldl_segments_append (front back : String) (k n : Nat) :
    (segments (front ++ separators (k + 1) ++ back ++ separators n)).foldl (step rooted) stack =
      (segments back).foldl (step rooted) ((segments front).foldl (step rooted) stack) := by
  have hmiddle : front ++ separators (k + 1) ++ back = front ++ separators k ++ "/" ++ back :=
    String.toList_inj.mp (by simp [toList_separators, List.replicate_succ'])
  rw [foldl_segments_separators, hmiddle, segments_append, List.foldl_append,
    foldl_segments_separators]

end

theorem isAbsolute_separators (n : Nat) : isAbsolute (separators (n + 1)) = true := by
  rw [isAbsolute, toList_separators]
  rfl

/-- Segments of a directory and behind them those of an element are what is left of the path. -/
theorem join_eq_clean_of_foldl {path dir base : String} (hroot : isAbsolute path = isAbsolute dir)
    (hrel : isAbsolute base = false)
    (hfold : ∀ rooted : Bool, (segments path).foldl (step rooted) [] =
      (segments base).foldl (step rooted) ((segments dir).foldl (step rooted) [])) :
    join [dir, base] = clean path := by
  rw [join_pair dir hrel, clean, hroot, cleanParts, reduce_append, reduce, reduce,
    List.foldl_append, hfold]

theorem foldl_segments_root {rooted : Bool} {stack : List String} :
    (segments "/").foldl (step rooted) stack = stack :=
  (foldl_segments_separators "" 1).trans foldl_segments_empty

/-- A path is its directory and its last element. -/
theorem IsCut.join_eq_clean {path dir base : String} (h : IsCut path dir base) :
    join [dir, base] = clean path := by
  cases h with
  | empty => decide
  | root n =>
    refine join_eq_clean_of_foldl (isAbsolute_separators n) rfl fun rooted => ?_
    rw [foldl_segments_root, foldl_segments_empty, ← String.empty_append (s := separators (n + 1)),
      foldl_segments_separators, foldl_segments_empty]
  | alone n hne hflat =>
    refine join_eq_clean_of_foldl ?_ (isAbsolute_flat hflat) fun rooted => ?_
    · rw [isAbsolute_append hne, isAbsolute_flat hflat]
      rfl
    · have hdot : (segments ".").foldl (step rooted) [] = [] := by cases rooted <;> decide
      rw [foldl_segments_separators, hdot]
  | belowRoot k n hne hflat =>
    refine join_eq_clean_of_foldl ?_ (isAbsolute_flat hflat) fun rooted => ?_
    · rw [String.append_assoc, isAbsolute_append (separators_ne_empty k), isAbsolute_separators]
      rfl
    · have hfold := @foldl_segments_append rooted [] "" base k n
      rw [String.empty_append] at hfold
      rw [hfold, foldl_segments_empty, foldl_segments_root]
  | below k n hdir hne hflat =>
    refine join_eq_clean_of_foldl ?_ (isAbsolute_flat hflat) fun _ => foldl_segments_append _ _ k n
    rw [String.append_assoc, String.append_assoc, isAbsolute_append hdir]

theorem IsCut.flat {path dir base : String} (h : IsCut path dir base) : IsFlat base := by
  cases h with
  | empty | root => simp [IsFlat]
  | alone _ _ hflat | belowRoot _ _ _ hflat | below _ _ _ _ hflat => exact hflat

/-! ## Endings -/

/-- The last element has no ending, or it is cut at its last dot, and something stands before the
dot. -/
theorem ending_cases (path : String) :
    extname path = "" ∨ ∃ name ending, name ≠ "" ∧ '.' ∉ ending.toList ∧
      extname path = "." ++ ending ∧ basename path none = name ++ extname path := by
  rw [basename_none]
  unfold extname
  rcases Text.cutLast_cases '.' (lastElement path.toList) with
    ⟨-, hcut⟩ | ⟨front, ending, hbase, hfree, hcut⟩
  · exact .inl (by rw [hcut])
  · cases front with
    | nil => exact .inl (by rw [hcut])
    | cons c front =>
      refine .inr ⟨String.ofList (c :: front), String.ofList ending,
        ofList_ne_empty (List.cons_ne_nil c front), by rwa [String.toList_ofList], ?_, ?_⟩
      · rw [hcut]
        exact String.toList_inj.mp (by simp)
      · rw [hcut]
        exact String.toList_inj.mp (by simp [hbase])

/-- An ending comes off, unless it is the whole element. -/
theorem basename_ending {path name ending : String} (hname : name ≠ "") (hending : ending ≠ "")
    (h : basename path none = name ++ ending) : basename path (some ending) = name := by
  have hbase : lastElement path.toList = name.toList ++ ending.toList := by
    rw [← String.toList_append, ← h, basename_none, String.toList_ofList]
  have hpart : ¬ (ending = "" ∨ ending.toList = lastElement path.toList) := by
    rw [hbase, List.self_eq_append_left, String.toList_eq_nil_iff]
    exact fun hor => hor.elim hending hname
  have hstrip : Text.stripEnd? ending.toList (lastElement path.toList) = some name.toList :=
    Text.stripEnd?_eq_some_iff.mpr hbase
  unfold basename
  simp only [hpart, if_false, hstrip, Option.getD_some, String.ofList_toList]

/-- **Pieces of a path.** Every path is its directory joined with its last element, and the last
element is what stands before its ending and the ending. An ending is empty, or a dot with neither
a dot nor a separator behind it; and the last element holds no separator. -/
theorem pieces_fit (path : String) :
    join [dirname path, basename path none] = clean path ∧
    basename path (some (extname path)) ++ extname path = basename path none ∧
    (extname path = "" ∨ ∃ ending : String,
      extname path = "." ++ ending ∧ '.' ∉ ending.toList ∧ '/' ∉ ending.toList) ∧
    '/' ∉ (basename path none).toList := by
  have hcut := isCut_pieces path
  refine ⟨hcut.join_eq_clean, ?_, ?_, hcut.flat⟩
  · rcases ending_cases path with hnone | ⟨name, ending, hname, -, hext, hbase⟩
    · rw [hnone, String.append_empty]
      rfl
    · have hsome : extname path ≠ "" := by simp [hext]
      rw [basename_ending hname hsome hbase, hbase]
  · rcases ending_cases path with hnone | ⟨name, ending, -, hfree, hext, hbase⟩
    · exact .inl hnone
    · refine .inr ⟨ending, hext, hfree, fun hmem => hcut.flat ?_⟩
      rw [hbase, hext]
      simp [hmem]

example : dirname "//a///..//" = "//a" ∧ basename "//a///..//" none = ".." ∧
    extname "//a///..//" = "." ∧ basename "//a///..//" (some ".") = "." := by decide +kernel

end GuestLint.Path

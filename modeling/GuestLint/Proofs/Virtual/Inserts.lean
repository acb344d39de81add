import Mathlib.Data.List.Induction
import GuestLint.Proofs.Path.Meaning
import GuestLint.Proofs.Virtual.Memory

/-!
# What inserts leave behind

Of all inserts to one key only the last can be seen, and inserts to different keys do not see each
other. So what a file system in memory answers is told by one function, from keys to the contents
that were stored last.

* `Enters`, `isValid_clean_iff`: the paths that inserts take, by what the paths say.
* `latest`, `lookup_ofInserts`: what was stored last under a key is what is stored.
* `Sound.eq_of_lookup`: files in order are known from their contents by key.
* `Reflects`: answers that are told by a function from keys to contents.
* `inserts_reflected`: inserts succeed for the paths that enter, and leave what was stored last.
-/
namespace GuestLint.Virtual

open GuestLint.Path (IsName meaning clean cleanParts isAbsolute render segments)
open Host (Failure)

/-! ## Paths that enter -/

/-- The path leads below the place where it is read: in its shortest spelling it is not rooted and
does not start by going up. -/
def Enters (path : String) : Prop :=
  isAbsolute (clean path) = false ∧ (segments (clean path)).head? ≠ some ".."

instance : DecidablePred Enters := fun _ => inferInstanceAs (Decidable (_ ∧ _))

theorem forall_isName_iff (path : String) :
    (∀ part ∈ cleanParts path, IsName part) ↔ (meaning path).climbs = 0 := by
  rw [Path.cleanParts_eq_meaning]
  constructor
  · intro h
    by_contra hclimbs
    exact (h ".." (by simp [hclimbs])).ne_up rfl
  · intro hclimbs part hp
    rw [hclimbs, List.replicate_zero, List.nil_append] at hp
    exact (meaning path).named part hp

/-- A path enters when it says that it is not rooted and does not climb. -/
theorem enters_iff (path : String) :
    Enters path ↔ isAbsolute path = false ∧ (meaning path).climbs = 0 := by
  unfold Enters
  rw [Path.isAbsolute_clean]
  refine and_congr_right fun hroot => ?_
  rw [Path.clean_eq, hroot]
  by_cases hne : cleanParts path = []
  · have hclimbs := (forall_isName_iff path).mp (by simp [hne])
    have hhead : (segments (render false [])).head? ≠ some ".." := by decide
    simp [hne, hclimbs, hhead]
  · rw [Path.render_unrooted hne,
      Path.segments_unsegment hne fun part hp => (Path.cleanParts_solid hp).flat,
      Path.cleanParts_eq_meaning]
    cases hclimbs : (meaning path).climbs with
    | zero =>
      have hhead : (meaning path).names.head? ≠ some ".." := fun hup =>
        ((meaning path).named ".." (List.mem_of_head? hup)).ne_up rfl
      simp [hhead]
    | succ n => simp [List.replicate_succ]

theorem isValid_clean_iff (path : String) : isValid (clean path) = true ↔ Enters path := by
  rw [isValid_iff, enters_iff, ← forall_isName_iff]
  constructor
  · rintro ⟨names, hnames, hclean⟩
    obtain ⟨hroot, hparts⟩ :=
      (Path.render_inj (fun _ => Path.cleanParts_solid) hnames.solid).mp hclean
    exact ⟨hroot, fun part hp => (hnames part (hparts ▸ hp)).1⟩
  · rintro ⟨hroot, hnames⟩
    refine ⟨cleanParts path, fun part hp => ⟨hnames part hp, (Path.cleanParts_solid hp).flat⟩, ?_⟩
    rw [Path.clean_eq, hroot]

/-! ## What was stored last -/

/-- What was stored last under a key. -/
def latest (inserts : List (String × Bytes)) (key : String) : Option Bytes :=
  (inserts.reverse.find? fun file => decide (Enters file.1 ∧ clean file.1 = key)).map Prod.snd

theorem latest_append (inserts : List (String × Bytes)) (file : String × Bytes) (key : String) :
    latest (inserts ++ [file]) key =
      if Enters file.1 ∧ clean file.1 = key then some file.2 else latest inserts key := by
  unfold latest
  rw [List.reverse_append, List.reverse_singleton, List.singleton_append, List.find?_cons]
  by_cases h : Enters file.1 ∧ clean file.1 = key <;> simp [h]

/-- What was stored last under a key is known from the inserts to this key. -/
theorem latest_filter (inserts : List (String × Bytes)) (key : String) :
    latest inserts key =
      ((inserts.filter fun file => clean file.1 = key).reverse.find? fun file =>
        decide (Enters file.1)).map Prod.snd := by
  unfold latest
  rw [← List.filter_reverse, List.find?_filter]
  congr 2
  funext file
  simp [Bool.and_comm]

namespace Memory

/-! ## Inserts -/

theorem insert_eq (m : Memory) (path : String) (content : Bytes) :
    m.insert path content =
      if Enters path then .ok ⟨insertSorted (clean path) content m.files⟩
      else .error ⟨clean path⟩ := by
  unfold Memory.insert
  simp only [isValid_clean_iff]

theorem insert_ok_iff (m : Memory) (path : String) (content : Bytes) :
    (∃ m', m.insert path content = .ok m') ↔ Enters path := by
  rw [insert_eq]
  split
  · rename_i h
    simp [h]
  · rename_i h
    simp [h]

theorem put_of_ok {m m' : Memory} {file : String × Bytes}
    (h : m.insert file.1 file.2 = .ok m') : m.put file = m' := by
  unfold put
  rw [h]

theorem put_of_error {m : Memory} {file : String × Bytes} {e : InvalidPath}
    (h : m.insert file.1 file.2 = .error e) : m.put file = m := by
  unfold put
  rw [h]

theorem put_eq (m : Memory) (file : String × Bytes) :
    m.put file =
      if Enters file.1 then ⟨insertSorted (clean file.1) file.2 m.files⟩ else m := by
  have hinsert := insert_eq m file.1 file.2
  by_cases henters : Enters file.1
  · rw [if_pos henters] at hinsert ⊢
    exact put_of_ok hinsert
  · rw [if_neg henters] at hinsert ⊢
    exact put_of_error hinsert

theorem ofInserts_append (inserts : List (String × Bytes)) (file : String × Bytes) :
    ofInserts (inserts ++ [file]) = (ofInserts inserts).put file := by
  rw [ofInserts, List.foldl_append]
  rfl

/-- What is stored under a key is what was stored last there. -/
theorem lookup_ofInserts (inserts : List (String × Bytes)) (key : String) :
    (ofInserts inserts).files.lookup key = latest inserts key := by
  induction inserts using List.reverseRecOn with
  | nil => rfl
  | append_singleton inserts file ih =>
    rw [ofInserts_append, latest_append, put_eq]
    by_cases henters : Enters file.1
    · simp only [henters, if_true, true_and, lookup_insertSorted, ih, eq_comm]
    · simp only [henters, if_false, false_and, ih]

theorem holds_ofInserts_iff (inserts : List (String × Bytes)) (key : String) (content : Bytes) :
    (ofInserts inserts).Holds key content ↔ latest inserts key = some content := by
  rw [← (ofInserts_sound inserts).lookup_iff, lookup_ofInserts]

/-- Files in order are known from their contents by key. -/
theorem Sound.eq_of_lookup {m m' : Memory} (h : m.Sound) (h' : m'.Sound)
    (heq : ∀ key, m.files.lookup key = m'.files.lookup key) : m = m' := by
  have hmem : ∀ file, file ∈ m.files ↔ file ∈ m'.files := by
    rintro ⟨key, content⟩
    exact (h.lookup_iff key content).symm.trans (heq key ▸ h'.lookup_iff key content)
  have hnodup : ∀ {m : Memory}, m.Sound → m.files.Nodup := fun hs =>
    hs.sorted.imp fun hlt heq => by
      rw [heq, before_irrefl] at hlt
      cases hlt
  have hperm : m.files.Perm m'.files :=
    (List.perm_ext_iff_of_nodup (hnodup h) (hnodup h')).mpr hmem
  have hfiles : m.files = m'.files :=
    hperm.eq_of_pairwise (fun a b _ _ hab hba => by
      rw [before_asymm hab] at hba
      cases hba) h.sorted h'.sorted
  cases m
  cases m'
  exact congrArg _ hfiles

/-! ## Answers -/

/-- Why nothing is found at a path. -/
def refusal (path : String) : Failure :=
  if isValid path then .missingVirtual path else .invalidVirtual path

theorem refusal_kind (path : String) : (refusal path).kind = .notFound := by
  unfold refusal
  split <;> rfl

/-- A path that is a directory wherever no file is stored at it: the root, or what a key starts
with. -/
def LiesAbove (stored : String → Option Bytes) (path : String) : Prop :=
  path = "." ∨ ∃ key content, stored key = some content ∧ (path ++ "/").toList <+: key.toList

/-- Answers that are told by the contents under all keys. A valid path that is a key is a file with
its content; where no file is, what lies above a key is a directory; and nothing else is found. -/
structure Reflects (stored : String → Option Bytes) (m : Memory) : Prop where
  read_file : ∀ path content, isValid path = true → stored path = some content →
    m.read path = .ok content
  read_other : ∀ path, ¬ (isValid path = true ∧ (stored path).isSome = true) →
    m.read path = .error (refusal path) ∧ (refusal path).kind = .notFound
  metadata_file : ∀ path content, isValid path = true → stored path = some content →
    m.metadata path = .ok ⟨false, content.length⟩
  metadata_directory : ∀ path, ¬ (isValid path = true ∧ (stored path).isSome = true) →
    LiesAbove stored path → m.metadata path = .ok ⟨true, 0⟩
  metadata_other : ∀ path, ¬ (isValid path = true ∧ (stored path).isSome = true) →
    ¬ LiesAbove stored path →
    m.metadata path = .error (refusal path) ∧ (refusal path).kind = .notFound

section
variable (inserts : List (String × Bytes)) (path : String)

theorem liesAbove_latest_iff :
    LiesAbove (latest inserts) path ↔ path = "." ∨ (ofInserts inserts).HasBelow path := by
  refine or_congr_right ⟨?_, ?_⟩
  · rintro ⟨key, content, hstored, hstart⟩
    exact ⟨(key, content), (holds_ofInserts_iff inserts key content).mpr hstored, hstart⟩
  · rintro ⟨file, hfile, hstart⟩
    exact ⟨file.1, file.2, (holds_ofInserts_iff inserts file.1 file.2).mp hfile, hstart⟩

theorem read_refused (h : ¬ (isValid path = true ∧ (latest inserts path).isSome = true)) :
    (ofInserts inserts).read path = .error (refusal path) := by
  unfold Memory.read refusal
  by_cases hvalid : isValid path = true
  · have hnone : latest inserts path = none := by simpa [hvalid] using h
    rw [if_pos hvalid, if_pos hvalid, lookup_ofInserts, hnone]
  · rw [if_neg hvalid, if_neg hvalid]

theorem metadata_refused (h : ¬ (isValid path = true ∧ (latest inserts path).isSome = true))
    (habove : ¬ LiesAbove (latest inserts) path) :
    (ofInserts inserts).metadata path = .error (refusal path) := by
  have hfree : ¬ (ofInserts inserts).isDirectory path = true := fun hdir =>
    habove ((liesAbove_latest_iff inserts path).mpr
      ((isDirectory_iff (ofInserts_sound inserts) path).mp hdir))
  unfold Memory.metadata refusal
  by_cases hvalid : isValid path = true
  · have hnone : latest inserts path = none := by simpa [hvalid] using h
    rw [if_pos hvalid, if_pos hvalid, lookup_ofInserts, hnone]
    simp only [if_neg hfree]
  · rw [if_neg hvalid, if_neg hvalid]

/-- What inserts build answers with what was stored last. -/
theorem ofInserts_reflects : Reflects (latest inserts) (ofInserts inserts) := by
  have hsound := ofInserts_sound inserts
  have hstored : ∀ path content, latest inserts path = some content →
      (ofInserts inserts).Holds path content := fun path content =>
    (holds_ofInserts_iff inserts path content).mpr
  refine ⟨?_, ?_, ?_, ?_, ?_⟩
  · intro path content _ hlatest
    exact (read_ok_iff hsound path content).mpr (hstored path content hlatest)
  · exact fun path h => ⟨read_refused inserts path h, refusal_kind path⟩
  · intro path content _ hlatest
    exact (metadata_ok_iff hsound path _).mpr (.file (hstored path content hlatest))
  · intro path h habove
    have hdir := (liesAbove_latest_iff inserts path).mp habove
    refine (metadata_ok_iff hsound path _).mpr (.directory hdir fun content hm => h ⟨?_, ?_⟩)
    · exact hsound.valid _ hm
    · rw [(holds_ofInserts_iff inserts path content).mp hm]
      rfl
  · exact fun path h habove => ⟨metadata_refused inserts path h habove, refusal_kind path⟩

end

/-- Inserts build the same if they store the same last. -/
theorem ofInserts_eq_iff (inserts others : List (String × Bytes)) :
    ofInserts others = ofInserts inserts ↔ ∀ key, latest others key = latest inserts key := by
  constructor
  · intro h key
    rw [← lookup_ofInserts, h, lookup_ofInserts]
  · intro h
    refine Sound.eq_of_lookup (ofInserts_sound others) (ofInserts_sound inserts) fun key => ?_
    rw [lookup_ofInserts, h, lookup_ofInserts]

/-- **Inserts.** After any inserts, one more succeeds exactly when its path enters, and one that
fails changes nothing. All answers are told by what was stored last under each key: inserts build
the same if and only if these are the same, so only the order among inserts to one key counts. -/
theorem inserts_reflected (inserts : List (String × Bytes)) :
    (∀ path content,
      ((∃ m, (ofInserts inserts).insert path content = .ok m) ↔ Enters path) ∧
      (∀ m, (ofInserts inserts).insert path content = .ok m →
        ofInserts (inserts ++ [(path, content)]) = m) ∧
      (∀ e, (ofInserts inserts).insert path content = .error e →
        e = ⟨clean path⟩ ∧ ofInserts (inserts ++ [(path, content)]) = ofInserts inserts)) ∧
    Reflects (latest inserts) (ofInserts inserts) ∧
    (∀ others, ofInserts others = ofInserts inserts ↔
      ∀ key, latest others key = latest inserts key) ∧
    ∀ others, (∀ key, (others.filter fun file => clean file.1 = key) =
      inserts.filter fun file => clean file.1 = key) → ofInserts others = ofInserts inserts := by
  refine ⟨fun path content => ⟨insert_ok_iff _ path content, ?_, ?_⟩, ofInserts_reflects inserts,
    ofInserts_eq_iff inserts, ?_⟩
  · intro m hok
    rw [ofInserts_append]
    exact put_of_ok hok
  · intro e herror
    rw [ofInserts_append]
    refine ⟨?_, put_of_error herror⟩
    rw [insert_eq] at herror
    split at herror
    · cases herror
    · exact (Except.error.inj herror).symm
  · intro others hsame
    refine (ofInserts_eq_iff inserts others).mpr fun key => ?_
    rw [latest_filter, hsame, ← latest_filter]

/-- Paths that sort between a directory and the files in it do not hide them. -/
example : (ofInserts [("a0", [1]), ("a/./b", [2]), ("a-b", [3]), ("c/../a//b", [4, 5])]).metadata "a"
      = .ok ⟨true, 0⟩ ∧
    (ofInserts [("a0", [1]), ("a/./b", [2]), ("a-b", [3]), ("c/../a//b", [4, 5])]).read "a/b"
      = .ok [4, 5] := by decide +kernel

end Memory
end GuestLint.Virtual

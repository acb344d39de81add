import GuestLint.Url.FilePath
import GuestLint.Proofs.Url.Percent
import GuestLint.Proofs.Bytes.Utf8
import GuestLint.Proofs.Path.Lexical

/-!
# File paths as URLs and back

The URL of a path is written segment by segment, and a reader of URLs finds the same segments in
it: none of them is a dot segment, a drive letter or an end of the path to the reader. Reading the
path off the URL resolves the segments to the names they were written from. At its very end the
path may get one separator more: the rule that closes a drive letter looks at the last two
characters only, whatever stands before them.

* `Undotted`: a segment that readers do not take for a dot; `undotted_encode`.
* `segments_read`, `readPath_read`: reading a path of such segments.
* `parse_href`: reading the URL of a path gives that URL.
* `endsInDrive`, `closeDrive_encode`: the end of a path that gets a separator.
* `toPath_href`: what comes back for any rooted path.
-/
namespace GuestLint.Url

open GuestLint.Path (IsName IsSolid)

/-! ## Segments -/

/-- A segment of inert characters that no reader takes for one or two dots. -/
structure Undotted (text : List Char) : Prop where
  inert : ∀ c ∈ text, IsInert c
  ne_dot : dotted text ≠ ['.']
  ne_up : dotted text ≠ ['.', '.']

theorem dotted_cons {c : Char} (h : c ≠ '%') (rest : List Char) :
    dotted (c :: rest) = c :: dotted rest := by
  rw [dotted]
  exact fun _ _ heq _ => h heq

/-- The byte of a dot is the only one whose encoding is resolved to a dot. -/
theorem dotted_byte {b : UInt8} (h : b.toNat ≠ 0x2E) (rest : List Char) :
    ∃ more, dotted (encodeByte b ++ rest) = '%' :: more := by
  have hbyte : b.toNat < 256 := b.toNat_lt
  have hhigh : ∀ n < 16, upperHex n = '2' → n = 2 := by decide
  have hlow : ∀ n < 16, upperHex n = 'e' ∨ upperHex n = 'E' → n = 14 := by decide
  simp only [encodeByte, List.cons_append, List.nil_append]
  by_cases htwo : upperHex (b.toNat / 16) = '2'
  · have h2 := hhigh _ (by omega) htwo
    rw [htwo, dotted, if_neg fun hdot => h ?_]
    · exact ⟨_, rfl⟩
    · have := hlow _ (by omega) hdot
      omega
  · rw [dotted]
    · exact ⟨_, rfl⟩
    · intro c more _ heq
      exact htwo (List.cons.inj heq).1

/-- An encoded character shows its percent sign, also when dots are resolved. -/
theorem dotted_encodeChar {c : Char} (hset : segmentSet c = true) (rest : List Char) :
    ∃ more, dotted (encodeChar segmentSet c ++ rest) = '%' :: more := by
  have hdot : c.toNat ≠ 0x2E := by
    intro heq
    obtain rfl : c = '.' := Char.toNat_inj.mp heq
    exact absurd hset (by decide)
  have hbyte : ∃ b tail, String.utf8EncodeChar c = b :: tail ∧ b.toNat ≠ 0x2E := by
    rcases Utf8.encodeChar_cases c with ⟨hlt, heq⟩ | ⟨-, hne, hall⟩
    · refine ⟨_, [], heq, ?_⟩
      rwa [Utf8.toNat_ofNat_of_lt (by omega)]
    · obtain ⟨b, tail, heq⟩ := List.exists_cons_of_ne_nil hne
      have := hall b (heq ▸ List.mem_cons_self)
      exact ⟨b, tail, heq, by omega⟩
  obtain ⟨b, tail, heq, hb⟩ := hbyte
  rw [encodeChar, if_pos hset, heq, List.flatMap_cons, List.append_assoc]
  exact dotted_byte hb _

/-- A segment whose dots are resolved to a text without percent signs was written from that. -/
theorem eq_of_dotted_encode {name text : List Char} (hpercent : '%' ∉ text)
    (h : dotted (percentEncode segmentSet name) = text) : name = text := by
  induction name generalizing text with
  | nil => exact h
  | cons c name ih =>
    rw [percentEncode, List.flatMap_cons] at h
    by_cases hset : segmentSet c = true
    · obtain ⟨more, hmore⟩ := dotted_encodeChar hset (name.flatMap (encodeChar segmentSet))
      rw [hmore] at h
      exact absurd (h ▸ List.mem_cons_self) hpercent
    · have hc : c ≠ '%' := by
        rintro rfl
        exact hset (by decide)
      have hchar : encodeChar segmentSet c = [c] := if_neg hset
      rw [hchar, List.singleton_append, dotted_cons hc] at h
      cases text with
      | nil => cases h
      | cons d text =>
        obtain ⟨rfl, hrest⟩ := List.cons.inj h
        rw [ih (fun hmem => hpercent (List.mem_cons_of_mem _ hmem)) hrest]

theorem undotted_nil : Undotted [] := ⟨by simp, by simp [dotted], by simp [dotted]⟩

/-- The segment of a name is no dot to a reader. -/
theorem undotted_encode {name : String} (h : IsName name) :
    Undotted (percentEncode segmentSet name.toList) where
  inert := inert_encode name.toList
  ne_dot heq := h.ne_dot (String.toList_inj.mp (eq_of_dotted_encode (by decide) heq))
  ne_up heq := h.ne_up (String.toList_inj.mp (eq_of_dotted_encode (by decide) heq))

/-! ## Reading a path -/

section
variable {special slash : Bool} {text path : List Char}

theorem segment_cons {c : Char} (h : IsInert c) (rest : List Char) :
    segment special (c :: rest) =
      (c :: (segment special rest).1, (segment special rest).2.1, (segment special rest).2.2) := by
  have hclose : ¬ (c = '/' ∨ c = '\\' ∧ special = true) := fun hc =>
    hc.elim h.ne_slash fun hc => h.ne_backslash hc.1
  have hend : ¬ (c = '?' ∨ c = '#') := by
    rintro (rfl | rfl)
    · exact absurd h.kept (by decide)
    · exact absurd h.kept (by decide)
  rw [segment, if_neg hclose, if_neg hend, encodeChar, h.kept]
  rfl

/-- A segment of inert characters is read as it stands, up to the separator. -/
theorem segment_slash (h : ∀ c ∈ text, IsInert c) (rest : List Char) :
    segment special (text ++ '/' :: rest) = (text, true, rest) := by
  induction text with
  | nil => simp [segment]
  | cons c text ih =>
    rw [List.cons_append, segment_cons (h c List.mem_cons_self),
      ih fun d hd => h d (List.mem_cons_of_mem _ hd)]

theorem segment_stop (h : ∀ c ∈ text, IsInert c) : segment special text = (text, false, []) := by
  induction text with
  | nil => rfl
  | cons c text ih =>
    rw [segment_cons (h c List.mem_cons_self), ih fun d hd => h d (List.mem_cons_of_mem _ hd)]

theorem isDrive_slash (path : List Char) : isDrive ('/' :: path) = false := by
  unfold isDrive
  split
  · rename_i a b heq
    obtain ⟨rfl, -⟩ := List.cons.inj heq
    rfl
  · rfl

/-- Behind two separators a segment is no drive letter, and is put behind the path. -/
theorem addSegment_undotted (h : Undotted text) :
    addSegment true ('/' :: '/' :: path) text slash =
      '/' :: '/' :: (path ++ text ++ if slash then ['/'] else []) := by
  unfold addSegment
  simp only [List.drop_succ_cons, List.drop_zero, isDrive_slash, Bool.true_and, Bool.false_and,
    Bool.false_eq_true, if_false, h.ne_dot, h.ne_up]
  rw [if_neg (by simp)]
  simp

/-- **Reading.** A path of undotted segments is read as it stands. -/
theorem segments_read {texts : List (List Char)} (h : ∀ t ∈ texts, Undotted t)
    (htext : Undotted text) (path : List Char) :
    segments true special ('/' :: '/' :: path) (text ++ texts.flatMap ('/' :: ·)) =
      ('/' :: '/' :: (path ++ (text ++ texts.flatMap ('/' :: ·))), []) := by
  induction texts generalizing text path with
  | nil =>
    rw [List.flatMap_nil, List.append_nil, segments]
    simp only [segment_stop htext.inert, addSegment_undotted htext]
    simp
  | cons t texts ih =>
    rw [List.flatMap_cons, List.cons_append, segments]
    simp only [segment_slash htext.inert, addSegment_undotted htext, dif_pos, if_true]
    rw [ih (fun u hu => h u (List.mem_cons_of_mem _ hu)) (h t List.mem_cons_self)]
    simp

end

/-- **Reading.** Behind the root, a path of undotted segments is read as it stands. -/
theorem readPath_read {text : List Char} {texts : List (List Char)} (htext : Undotted text)
    (h : ∀ t ∈ texts, Undotted t) (hroot : text = [] → texts = []) :
    readPath fileScheme ['/'] ('/' :: (text ++ texts.flatMap ('/' :: ·))) =
      ('/' :: (text ++ texts.flatMap ('/' :: ·)), []) := by
  have hfirst : addSegment true ['/'] [] true = ['/', '/'] := by decide
  have hsegments : segments true (isSpecial fileScheme) ['/', '/']
      (text ++ texts.flatMap ('/' :: ·)) = ('/' :: '/' :: (text ++ texts.flatMap ('/' :: ·)), []) :=
    segments_read h htext []
  have hread : segments true (isSpecial fileScheme) ['/']
      ('/' :: (text ++ texts.flatMap ('/' :: ·))) =
        ('/' :: '/' :: (text ++ texts.flatMap ('/' :: ·)), []) := by
    rw [segments]
    simp only [segment, true_or, if_true, dif_pos, hfirst, hsegments]
  have hfile : (fileScheme == "file".toList) = true := by decide
  have hdrop : (text ++ texts.flatMap ('/' :: ·)).dropWhile (· == '/') =
      text ++ texts.flatMap ('/' :: ·) := by
    cases text with
    | nil => rw [hroot rfl]; rfl
    | cons c text =>
      have hc := (htext.inert c List.mem_cons_self).ne_slash
      exact List.dropWhile_cons_of_neg (by simpa using hc)
  simp only [readPath, hfile, hread, if_true]
  rw [List.dropWhile_cons_of_pos (by decide), List.dropWhile_cons_of_pos (by decide), hdrop]

/-! ## The URL of a path -/

section
variable {names : List String}

theorem toList_render (hne : names ≠ []) :
    (Path.render true names).toList = names.flatMap fun name => '/' :: name.toList := by
  have hroot : (Path.render true names).toList = '/' :: (Path.unsegment names).toList := by
    rw [Path.render, if_pos rfl, String.toList_append]
    rfl
  rw [hroot]
  clear hroot
  induction names with
  | nil => exact absurd rfl hne
  | cons name names ih =>
    cases names with
    | nil => simp [Path.unsegment]
    | cons second names =>
      have hrest := ih (by simp)
      rw [Path.unsegment, String.intercalate_cons_cons, String.toList_append,
        String.toList_append, List.flatMap_cons, ← hrest]
      simp [Path.unsegment]

theorem encode_eq_nil {name : String} (h : percentEncode segmentSet name.toList = []) :
    name = "" := by
  have hdotted : name.toList = [] := by
    refine eq_of_dotted_encode (by simp) ?_
    rw [h, dotted]
  exact String.toList_eq_nil_iff.mp hdotted

/-- The path of a URL is made of the segments of the names, behind the root. -/
theorem ofCleanPath_path (hsolid : ∀ name ∈ names, IsSolid name)
    (hname : ∀ name ∈ names, IsName name) :
    ∃ (text : List Char) (texts : List (List Char)), Undotted text ∧ (∀ t ∈ texts, Undotted t) ∧
      (text = [] → texts = []) ∧
      (ofCleanPath (Path.render true names)).path =
        '/' :: (text ++ texts.flatMap ('/' :: ·)) := by
  unfold ofCleanPath
  rw [Path.components_render true hsolid]
  cases names with
  | nil => exact ⟨[], [], undotted_nil, by simp, fun _ => rfl, rfl⟩
  | cons name names =>
    refine ⟨percentEncode segmentSet name.toList,
      names.map fun name => percentEncode segmentSet name.toList,
      undotted_encode (hname name List.mem_cons_self), ?_, ?_, ?_⟩
    · intro t ht
      obtain ⟨name', hmem, rfl⟩ := List.mem_map.mp ht
      exact undotted_encode (hname name' (List.mem_cons_of_mem _ hmem))
    · intro hnil
      exact absurd (encode_eq_nil hnil) (hsolid name List.mem_cons_self).ne_empty
    · simp [List.flatMap_map]

/-- The path of a URL holds the bytes of the path that it was written from. -/
theorem percentDecode_path (hsolid : ∀ name ∈ names, IsSolid name) :
    percentDecode (ofCleanPath (Path.render true names)).path =
      Utf8.encode (Path.render true names) := by
  have hbytes : ∀ names : List String,
      percentDecode (names.flatMap fun name => '/' :: percentEncode segmentSet name.toList) =
        (names.flatMap fun name => '/' :: name.toList).flatMap String.utf8EncodeChar := by
    intro names
    induction names with
    | nil => rfl
    | cons name names ih =>
      rw [List.flatMap_cons, List.flatMap_cons, List.flatMap_append, ← ih, List.cons_append,
        percentDecode_cons (by decide), percentDecode_encode (by decide), List.flatMap_cons,
        List.append_assoc]
  unfold ofCleanPath Utf8.encode
  rw [Path.components_render true hsolid]
  by_cases hne : names = []
  · subst hne
    decide
  · rw [toList_render hne, ← hbytes]
    cases names with
    | nil => exact absurd rfl hne
    | cons name names => rfl

end

/-! ## Reading the URL of a path -/

theorem tidy_visible {text : List Char} (h : ∀ c ∈ text, 0x20 < c.toNat) :
    tidy (String.ofList text) = text := by
  have hbare : ∀ text' : List Char, (∀ c ∈ text', 0x20 < c.toNat) →
      text'.dropWhile (fun c => decide (c.toNat ≤ 0x20)) = text' := by
    intro text' h'
    cases text' with
    | nil => rfl
    | cons c text' =>
      have := h' c List.mem_cons_self
      exact List.dropWhile_cons_of_neg (by simp; omega)
  unfold tidy
  dsimp only
  rw [String.toList_ofList, hbare _ h, hbare _ fun c hc => h c (List.mem_reverse.mp hc),
    List.reverse_reverse, List.filter_eq_self]
  intro c hc
  have hvisible := h c hc
  have hne : ∀ d : Char, d.toNat ≤ 0x20 → c ≠ d := fun d hd heq => by
    rw [heq] at hvisible
    omega
  simp [hne '\t' (by decide), hne '\n' (by decide), hne '\r' (by decide)]

theorem href_ofCleanPath (path : String) :
    (ofCleanPath path).href =
      fileScheme ++ ':' :: '/' :: '/' :: (ofCleanPath path).path := by
  unfold ofCleanPath
  simp [href, beforeQuery, pathPart, marked, Authority.write, Authority.credentials,
    Authority.hostname]

section
variable {names : List String}

theorem href_visible (hsolid : ∀ name ∈ names, IsSolid name)
    (hname : ∀ name ∈ names, IsName name) :
    ∀ c ∈ (ofCleanPath (Path.render true names)).href, 0x20 < c.toNat := by
  obtain ⟨text, texts, htext, htexts, -, hpath⟩ := ofCleanPath_path hsolid hname
  have hscheme : ∀ c ∈ ['f', 'i', 'l', 'e'], 0x20 < c.toNat := by simp
  rw [href_ofCleanPath, hpath]
  intro c hc
  simp only [List.mem_append, List.mem_cons, List.mem_flatMap] at hc
  rcases hc with hc | rfl | rfl | rfl | rfl | hc | ⟨t, ht, rfl | hc⟩
  · exact hscheme c hc
  all_goals try decide
  · exact (htext.inert c hc).visible
  · exact ((htexts t ht).inert c hc).visible

/-- **Reading back.** The URL of a path is read as what was written. -/
theorem parse_href (hsolid : ∀ name ∈ names, IsSolid name)
    (hname : ∀ name ∈ names, IsName name) :
    parse none (String.ofList (ofCleanPath (Path.render true names)).href) =
      some (ofCleanPath (Path.render true names)) := by
  obtain ⟨text, texts, htext, htexts, hroot, hpath⟩ := ofCleanPath_path hsolid hname
  have hscheme : ∀ rest, scheme? (fileScheme ++ ':' :: rest) = some (fileScheme, rest) :=
    fun _ => rfl
  have hhost : ∀ rest, readFile none ('/' :: '/' :: '/' :: rest) =
      some (fileFrom {} ['/'] ('/' :: rest)) := fun _ => rfl
  unfold parse
  rw [tidy_visible (href_visible hsolid hname), href_ofCleanPath]
  simp only [hscheme, if_true, Option.filter_none]
  rw [hpath, hhost]
  unfold fileFrom
  rw [readPath_read htext htexts hroot, ← hpath]
  rfl

end

/-! ## The end of a path -/

/-- A path whose last two characters are a letter and a colon or a bar. -/
def endsInDrive (path : String) : Bool :=
  isDriveLike (path.toList.drop (path.toList.length - 2))

/-- What comes back for a path that has been written as a URL. -/
def readBack (path : String) : String :=
  if endsInDrive path then path ++ "/" else path

theorem readBack_eq_iff (path : String) : readBack path = path ↔ endsInDrive path = false := by
  unfold readBack
  split
  · rename_i h
    refine iff_of_false (fun heq => ?_) (by simp [h])
    have := congrArg (fun p : String => p.toList.length) heq
    simp at this
  · rename_i h
    exact iff_of_true rfl (by simpa using h)

/-- A text whose bytes end with one of ASCII ends with that character. -/
theorem eq_append_of_encode {cs : List Char} {bytes : Bytes} {b : UInt8} (hb : b.toNat < 0x80)
    (h : cs.flatMap String.utf8EncodeChar = bytes ++ [b]) :
    ∃ front, cs = front ++ [Char.ofNat b.toNat] ∧
      front.flatMap String.utf8EncodeChar = bytes := by
  obtain rfl | ⟨front, c, rfl⟩ := cs.eq_nil_or_concat
  · simp at h
  rw [List.concat_eq_append, List.flatMap_append, List.flatMap_singleton] at h
  rcases Utf8.encodeChar_cases c with ⟨hlt, heq⟩ | ⟨-, hne, hall⟩
  · rw [heq] at h
    obtain ⟨hfront, hlast⟩ := List.append_inj' h rfl
    obtain rfl := List.singleton_inj.mp hlast
    refine ⟨front, ?_, hfront⟩
    rw [List.concat_eq_append, Utf8.toNat_ofNat_of_lt (by omega), Char.ofNat_toNat]
  · have hmem : b ∈ String.utf8EncodeChar c := by
      have hlast := congrArg List.getLast? h
      rw [List.getLast?_append, List.getLast?_eq_some_getLast hne, List.getLast?_concat] at hlast
      exact Option.some.inj hlast ▸ List.getLast_mem hne
    have := hall b hmem
    omega

theorem endsInDrive_iff (path : String) :
    endsInDrive path = true ↔ ∃ front letter mark, path.toList = front ++ [letter, mark] ∧
      isLetter letter = true ∧ (mark = ':' ∨ mark = '|') := by
  unfold endsInDrive isDriveLike
  constructor
  · intro h
    split at h
    · rename_i letter mark heq
      simp only [Bool.and_eq_true, Bool.or_eq_true, beq_iff_eq] at h
      exact ⟨_, letter, mark, by rw [← heq, List.take_append_drop], h⟩
    · cases h
  · rintro ⟨front, letter, mark, heq, hletter, hmark⟩
    have hlength : (front ++ [letter, mark]).length - 2 = front.length := by simp
    rw [heq, hlength, List.drop_left]
    rcases hmark with rfl | rfl <;> simp [hletter]

theorem isLetter_lt {c : Char} (h : isLetter c = true) : c.toNat < 0x80 := by
  have hcases : c.isUpper = true ∨ c.isLower = true := Bool.or_eq_true_iff.mp h
  rcases hcases with hupper | hlower
  · have hle := (of_decide_eq_true hupper).2
    exact Nat.lt_of_le_of_lt (UInt32.le_iff_toNat_le.mp hle) (by decide)
  · have hle := of_decide_eq_true (Bool.and_eq_true_iff.mp hlower).2
    exact Nat.lt_of_le_of_lt (UInt32.le_iff_toNat_le.mp hle) (by decide)

/-- Whether the rule for drive letters applies to the last two bytes of a path. -/
def isDriveEnd (letter mark : UInt8) : Bool :=
  (mark == 0x3A || mark == 0x7C) && (Char.ofNat letter.toNat).isAlpha

theorem closeDrive_of_drive {bytes : Bytes} {letter mark : UInt8} (hne : bytes ≠ [])
    (h : isDriveEnd letter mark = true) :
    closeDrive (bytes ++ [letter, mark]) = bytes ++ [letter, mark] ++ [0x2F] := by
  obtain ⟨b, rest, hb⟩ := List.exists_cons_of_ne_nil (List.reverse_ne_nil_iff.mpr hne)
  have hreverse : (bytes ++ [letter, mark]).reverse = mark :: letter :: b :: rest := by
    rw [List.reverse_append, hb]
    rfl
  rw [closeDrive, hreverse]
  exact if_pos h

theorem closeDrive_cases (bytes : Bytes) :
    closeDrive bytes = bytes ∨
      ∃ front letter mark, bytes = front ++ [letter] ++ [mark] ∧
        isDriveEnd letter mark = true := by
  unfold closeDrive
  split
  · rename_i mark letter other rest heq
    split
    · rename_i hdrive
      refine .inr ⟨(other :: rest).reverse, letter, mark, ?_, hdrive⟩
      rw [← List.reverse_reverse bytes, heq]
      simp
    · exact .inl rfl
  · exact .inl rfl

/-- A path that ends in a drive gets a separator. -/
theorem closeDrive_of_endsInDrive {path : String} (h : Path.isAbsolute path = true)
    (hends : endsInDrive path = true) :
    closeDrive (Utf8.encode path) = Utf8.encode (path ++ "/") := by
  obtain ⟨front, letter, mark, heq, hletter, hmark⟩ := (endsInDrive_iff path).mp hends
  have hlt := isLetter_lt hletter
  have hfront : front.flatMap String.utf8EncodeChar ≠ [] := by
    -- no letter is the root
    cases front with
    | nil =>
      simp only [Path.isAbsolute, heq, List.nil_append, List.head?_cons, beq_iff_eq,
        Option.some.injEq] at h
      rw [h] at hletter
      exact absurd hletter (by decide)
    | cons c front =>
      obtain ⟨b, tail, hc, -⟩ := Utf8.next_encodeChar c []
      simp [hc]
  have hmark' : mark.toNat < 0x80 ∧
      (UInt8.ofNat mark.toNat == 0x3A || UInt8.ofNat mark.toNat == 0x7C) = true := by
    rcases hmark with rfl | rfl <;> decide
  have hbytes : Utf8.encode path = front.flatMap String.utf8EncodeChar ++
      [UInt8.ofNat letter.toNat, UInt8.ofNat mark.toNat] := by
    rw [Utf8.encode, heq, List.flatMap_append, List.flatMap_cons, List.flatMap_singleton,
      Utf8.encodeChar_of_lt hlt, Utf8.encodeChar_of_lt hmark'.1]
    rfl
  have hdrive : isDriveEnd (UInt8.ofNat letter.toNat) (UInt8.ofNat mark.toNat) = true := by
    rw [isDriveEnd, hmark'.2, Utf8.toNat_ofNat_of_lt (by omega), Char.ofNat_toNat]
    exact hletter
  have hslash : Utf8.encode (path ++ "/") = Utf8.encode path ++ [0x2F] := by
    rw [Utf8.encode, String.toList_append, List.flatMap_append]
    rfl
  rw [hslash, hbytes]
  exact closeDrive_of_drive hfront hdrive

/-- Only a path that ends in a drive has bytes that do. -/
theorem endsInDrive_of_encode {path : String} {bytes : Bytes} {letter mark : UInt8}
    (hbytes : Utf8.encode path = bytes ++ [letter] ++ [mark])
    (hdrive : isDriveEnd letter mark = true) : endsInDrive path = true := by
  simp only [isDriveEnd, Bool.and_eq_true, Bool.or_eq_true, beq_iff_eq] at hdrive
  obtain ⟨hmark, hletter⟩ := hdrive
  have hlt : letter.toNat < 0x80 := by
    rw [← Utf8.toNat_charOfNat letter]
    exact isLetter_lt hletter
  obtain ⟨front, hfront, hrest⟩ := eq_append_of_encode
    (by rcases hmark with rfl | rfl <;> decide) hbytes
  obtain ⟨front', hfront', -⟩ := eq_append_of_encode hlt hrest
  refine (endsInDrive_iff path).mpr
    ⟨front', Char.ofNat letter.toNat, Char.ofNat mark.toNat, ?_, hletter, ?_⟩
  · rw [hfront, hfront', List.append_assoc]
    rfl
  · rcases hmark with rfl | rfl
    · exact .inl rfl
    · exact .inr rfl

/-- A path gets a separator when its last two characters are like a drive letter. -/
theorem closeDrive_encode {path : String} (h : Path.isAbsolute path = true) :
    closeDrive (Utf8.encode path) = Utf8.encode (readBack path) := by
  unfold readBack
  split
  · next hends => exact closeDrive_of_endsInDrive h hends
  · next hends =>
    refine (closeDrive_cases _).resolve_right ?_
    rintro ⟨bytes, letter, mark, hbytes, hdrive⟩
    exact hends (endsInDrive_of_encode hbytes hdrive)

/-! ## Round trip -/

section
variable {path : String}

theorem cleanParts_names (h : Path.isAbsolute path = true) :
    ∀ name ∈ Path.cleanParts path, IsName name := fun _ =>
  Path.IsReduced.isName (h ▸ Path.cleanParts_reduced path)

theorem clean_rooted (h : Path.isAbsolute path = true) :
    Path.clean path = Path.render true (Path.cleanParts path) := by
  rw [Path.clean_eq, h]

theorem hrefOfPath_rooted {ε : Type} (current : Except ε String)
    (h : Path.isAbsolute path = true) :
    hrefOfPath current path = .ok (String.ofList (ofCleanPath (Path.clean path)).href) := by
  rw [hrefOfPath, if_pos h]
  rfl

/-- The URL of a rooted path is read as what was written. -/
theorem parse_ofCleanPath (h : Path.isAbsolute path = true) :
    parse none (String.ofList (ofCleanPath (Path.clean path)).href) =
      some (ofCleanPath (Path.clean path)) := by
  rw [clean_rooted h]
  exact parse_href (fun _ => Path.cleanParts_solid) (cleanParts_names h)

/-- **Round trip.** The URL of a rooted path names the cleaned path, with a separator more where
that ends like a drive letter. -/
theorem toPath_href (h : Path.isAbsolute path = true) :
    toPath (String.ofList (ofCleanPath (Path.clean path)).href) =
      .ok (readBack (Path.clean path)) := by
  have hroot : Path.isAbsolute (Path.clean path) = true := (Path.isAbsolute_clean path).trans h
  have hdecode : percentDecode (ofCleanPath (Path.clean path)).path =
      Utf8.encode (Path.clean path) := by
    rw [clean_rooted h]
    exact percentDecode_path fun _ => Path.cleanParts_solid
  have htext : Utf8.decodeLossy (closeDrive (percentDecode (ofCleanPath (Path.clean path)).path)) =
      readBack (Path.clean path) := by
    rw [hdecode, closeDrive_encode hroot, Utf8.decodeLossy_encode]
  unfold toPath
  rw [parse_ofCleanPath h]
  exact congrArg Except.ok htext

end

end GuestLint.Url

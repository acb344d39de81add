import GuestLint.Proofs.Builtin.Buffers
import GuestLint.Proofs.Bytes.Block
import GuestLint.Proofs.Number.Double

/-!
# Joining buffers

A guest joins the buffers of a list into a new one, of the size that it asks for or of all their
sizes together.

* `run_sizeOfParts`: the sizes of buffers added up.
* `run_partsFor`: the bytes of the buffers that are looked at fill the new buffer as all would.
* `makes_concat`: the new buffer, with and without a size.
* `concat_joins`: the buffers one after another, cut or filled with zeros, in one step or in two.
-/
namespace GuestLint.Builtin

open Guest

variable {call : Call} {w : World} {h h' : Heap} {v : Value} {items : List Value}

/-! ## Buffers in a heap -/

/-- A buffer: a view of a stretch of a block. -/
def IsBuffer (h : Heap) (v : Value) : Prop :=
  ∃ r store first size all, v = .object r ∧ (h.at_ r).kind = .bytes store first size ∧
    (h.at_ store).kind = .byteStore all ∧ first + size ≤ all.length

/-- The bytes that a buffer shows, and none for another value. -/
def contentOf (h : Heap) : Value → Bytes
  | .object r => (h.bytesOf r).getD []
  | _ => []

/-- A buffer says how many bytes it shows. -/
theorem IsBuffer.shown (hv : IsBuffer h v) :
    ∃ r store first, v = .object r ∧
      (h.at_ r).kind = .bytes store first (contentOf h v).length ∧
      h.bytesOf r = some (contentOf h v) := by
  obtain ⟨r, store, first, size, all, rfl, hview, hstore, hsize⟩ := hv
  have hbytes : h.bytesOf r = some ((all.drop first).take size) := by
    simp only [Heap.bytesOf, hview, hstore]
  have hcontent : contentOf h (.object r) = (all.drop first).take size := by
    simp only [contentOf, hbytes, Option.getD_some]
  have hlength : (contentOf h (.object r)).length = size := by
    rw [hcontent, List.length_take, List.length_drop]
    omega
  exact ⟨r, store, first, rfl, by rw [hlength, hview], by rw [hbytes, hcontent]⟩

/-- A heap with more objects in it. -/
structure Extends (h h' : Heap) : Prop where
  size : h.size ≤ h'.size
  kept : ∀ q < h.size, h'.at_ q = h.at_ q

theorem Extends.trans {h'' : Heap} (hext : Extends h h') (hext' : Extends h' h'') :
    Extends h h'' :=
  ⟨Nat.le_trans hext.size hext'.size, fun q hq => by
    rw [hext'.kept q (Nat.lt_of_lt_of_le hq hext.size), hext.kept q hq]⟩

theorem Extends.push (h : Heap) (o : Object) : Extends h (h.push o) :=
  ⟨by simp, fun _ hq => h.at_push_lt hq o⟩

/-- A buffer stays what it is while other objects are made. -/
theorem IsBuffer.kept (hv : IsBuffer h v) (hext : Extends h h') :
    IsBuffer h' v ∧ contentOf h' v = contentOf h v := by
  obtain ⟨r, store, first, size, all, rfl, hview, hstore, hsize⟩ := hv
  have hr := hext.kept r (h.lt_of_kind (by rw [hview]; exact nofun))
  have hs := hext.kept store (h.lt_of_kind (by rw [hstore]; exact nofun))
  refine ⟨⟨r, store, first, size, all, rfl, by rw [hr, hview], by rw [hs, hstore], hsize⟩, ?_⟩
  simp only [contentOf, Heap.bytesOf, hr, hview, hs]

theorem buffers_kept (hitems : ∀ v ∈ items, IsBuffer h v) (hext : Extends h h') :
    (∀ v ∈ items, IsBuffer h' v) ∧
      items.flatMap (contentOf h') = items.flatMap (contentOf h) := by
  refine ⟨fun v hv => ((hitems v hv).kept hext).1, ?_⟩
  rw [List.flatMap_def, List.flatMap_def,
    List.map_congr_left fun v hv => ((hitems v hv).kept hext).2]

/-! ## Sizes -/

theorem integer?_ofNat {n : Nat} (hn : n ≤ maxBufferLength) :
    (Double.ofInt n).integer? = some (n : Int) := by
  refine Double.integer?_ofInt ?_
  have hmax : n ≤ 0x7FFFFFFF := hn
  omega

theorem run_getLength (hv : IsBuffer w.heap v) :
    run w (getProperty v "length") = (.ok (.ofNat (contentOf w.heap v).length), w) := by
  obtain ⟨r, store, first, rfl, hview, -⟩ := hv.shown
  have hown : w.heap.own? r "length" =
      some (.ofNat (contentOf w.heap (.object r)).length) := by
    simp only [Heap.own?, hview, true_or, if_true]
  unfold getProperty
  rw [run_bind_ok (run_heap w), w.heap.find_of_own hown]
  rfl

/-- Sizes that a step adds one by one. -/
theorem foldl_sizes {step : Option Nat → Value → Option Nat}
    (hstep : ∀ n k, k ≤ maxBufferLength → step (some n) (.ofNat k) = some (n + k))
    (content : Value → Bytes) :
    ∀ (items : List Value) (n : Nat), (items.flatMap content).length ≤ maxBufferLength →
      (items.map fun v => Value.ofNat (content v).length).foldl step (some n) =
        some (n + (items.flatMap content).length)
  | [], _, _ => rfl
  | v :: rest, n, hsize => by
    rw [List.flatMap_cons, List.length_append] at hsize ⊢
    rw [List.map_cons, List.foldl_cons, hstep n _ (by omega),
      foldl_sizes hstep content rest _ (by omega), Nat.add_assoc]

/-- The sizes of buffers, added up. -/
theorem run_sizeOfParts (hitems : ∀ v ∈ items, IsBuffer w.heap v)
    (hsize : (items.flatMap (contentOf w.heap)).length ≤ maxBufferLength) :
    run w (sizeOfParts items) = (.ok (some (items.flatMap (contentOf w.heap)).length), w) := by
  unfold sizeOfParts
  rw [run_bind_ok (run_mapM fun v hv => run_getLength (hitems v hv)), foldl_sizes ?step,
    Nat.zero_add]
  · rfl
  · exact hsize
  case step =>
    intro n k hk
    show (Double.ofInt k).integer?.map (fun i => n + i.toNat) = some (n + k)
    rw [integer?_ofNat hk]
    rfl

theorem run_toIndex {size : Nat} (hsize : size ≤ maxBufferLength) :
    run w (toIndex call (.ofNat size)) = (.ok size, w) := by
  have hmax : size ≤ 0x7FFFFFFF := hsize
  have hindex : (Double.ofInt size).toInt64 = size := by
    have hclamped := Double.toInt64_of_integer? (integer?_ofNat hsize)
    omega
  have hinteger : toInteger call (.ofNat size) = pure (size : Int) := by
    show (pure (Double.ofInt size).toInt64 : Machine Int) = _
    rw [hindex]
  unfold toIndex
  rw [hinteger, pure_bind, if_neg (by omega)]
  rfl

/-! ## Parts -/

theorem run_partBytes (hv : IsBuffer w.heap v) :
    run w (partBytes v) = (.ok (contentOf w.heap v), w) := by
  obtain ⟨r, store, first, rfl, -, hbytes⟩ := hv.shown
  unfold partBytes
  rw [run_bind_ok (run_heap w), hbytes]
  rfl

/-- The buffers that are looked at fill a size as all of them do. -/
theorem run_partsFor (hitems : ∀ v ∈ items, IsBuffer w.heap v) (room : Nat) :
    ∃ blocks, run w (partsFor room items) = (.ok blocks, w) ∧
      Block.fillFrom room blocks = Block.fillFrom room (items.map (contentOf w.heap)) := by
  induction items generalizing room with
  | nil => exact ⟨[], rfl, rfl⟩
  | cons v rest ih =>
    unfold partsFor
    by_cases hroom : room = 0
    · subst hroom
      exact ⟨[], rfl, rfl⟩
    · obtain ⟨blocks, hrun, hfill⟩ := ih (fun u hu => hitems u (List.mem_cons_of_mem v hu))
        (room - (contentOf w.heap v).length)
      refine ⟨contentOf w.heap v :: blocks, ?_, ?_⟩
      · rw [if_neg hroom, run_bind_ok (run_partBytes (hitems v List.mem_cons_self)),
          run_bind_ok hrun]
        rfl
      · rw [List.map_cons, Block.fillFrom, Block.fillFrom, hfill]

theorem run_iterated (hlist : w.heap.list? v = some items) :
    run w (iterated v) = (.ok items, w) := by
  cases v with
  | object r =>
    unfold iterated
    rw [run_bind_ok (run_heap w), hlist]
    rfl
  | _ => cases hlist

theorem run_summable (hlist : w.heap.list? v = some items) :
    run w (summable v) = (.ok items, w) := by
  unfold summable
  rw [run_bind_ok (run_heap w), hlist]
  rfl

/-! ## The joined buffer -/

/-- The size of a joined buffer: one that is asked for, or all the bytes. -/
inductive SizeArg (all : Nat) : Value → Nat → Prop
  | omitted : SizeArg all .undefined all
  | given (size : Nat) : SizeArg all (.ofNat size) size

theorem run_concatBuffers (call : Call) {list total : Value} {size : Nat}
    (hitems : ∀ v ∈ items, IsBuffer w.heap v) (hlist : w.heap.list? list = some items)
    (htotal : SizeArg (items.flatMap (contentOf w.heap)).length total size)
    (hsize : size ≤ maxBufferLength) :
    run w (concatBuffers call list total) =
      (.ok (.object (w.heap.size + 1)), withBuffer w
        ((items.flatMap (contentOf w.heap) ++ List.replicate size 0).take size)) := by
  obtain ⟨blocks, hblocks, hfill⟩ := run_partsFor hitems size
  have hjoin : Block.join blocks (some size) =
      (items.flatMap (contentOf w.heap) ++ List.replicate size 0).take size := by
    rw [List.flatMap_def, ← Block.fillFrom_eq]
    exact hfill
  have hfilled : run w (do
      if maxBufferLength < size then raise "RangeError" "invalid array buffer length"
      let parts ← iterated list
      newBuffer (Block.join (← partsFor size parts) (some size))) =
        (.ok (.object (w.heap.size + 1)), withBuffer w
          ((items.flatMap (contentOf w.heap) ++ List.replicate size 0).take size)) := by
    rw [if_neg (Nat.not_lt.mpr hsize)]
    simp only []
    rw [run_bind_ok (run_iterated hlist), run_bind_ok hblocks, hjoin]
    exact run_newBuffer w _
  unfold concatBuffers
  cases htotal with
  | omitted =>
    rw [run_bind_ok (run_summable hlist), run_bind_ok (run_sizeOfParts hitems hsize)]
    exact hfilled
  | given size =>
    show run w ((some <$> toIndex call (.ofNat size)) >>= fun size => _) = _
    rw [← bind_pure_comp, bind_assoc, run_bind_ok (run_toIndex hsize), pure_bind]
    exact hfilled

/-! ## Joining in a program -/

/-- A run that makes a buffer of some bytes, in a block of its own, and changes no object. -/
def Makes (w : World) (x : Machine Value) (content : Bytes) : Prop :=
  ∃ r store w', run w x = (.ok (.object r), w') ∧ w.heap.size ≤ r ∧ w.heap.size ≤ store ∧
    w'.heap.at_ r = ⟨.bytes store 0 content.length, some Place.bufferParent, []⟩ ∧
    (w'.heap.at_ store).kind = .byteStore content ∧ Extends w.heap w'.heap

/-- What a run makes is a buffer, with those bytes. -/
theorem Makes.buffer {x : Machine Value} {content : Bytes} (hmakes : Makes w x content) :
    ∃ v w', run w x = (.ok v, w') ∧ IsBuffer w'.heap v ∧ contentOf w'.heap v = content ∧
      Extends w.heap w'.heap := by
  obtain ⟨r, store, w', hrun, -, -, hview, hstore, hext⟩ := hmakes
  have hkind : (w'.heap.at_ r).kind = .bytes store 0 content.length := by rw [hview]
  refine ⟨.object r, w', hrun, ⟨r, store, 0, _, content, rfl, hkind, hstore, by omega⟩, ?_, hext⟩
  simp [contentOf, Heap.bytesOf, hkind, hstore]

/-- A run may make other objects first. -/
theorem Makes.after {α : Type} {w' : World} {x : Machine α} {a : α} {f : α → Machine Value}
    {content : Bytes} (hmakes : Makes w' (f a) content) (hrun : run w x = (.ok a, w'))
    (hext : Extends w.heap w'.heap) : Makes w (x >>= f) content := by
  obtain ⟨r, store, w'', hrun', hr, hs, hview, hstore, hext'⟩ := hmakes
  refine ⟨r, store, w'', ?_, Nat.le_trans hext.size hr, Nat.le_trans hext.size hs, hview, hstore,
    hext.trans hext'⟩
  rw [run_bind_ok hrun, hrun']

theorem makes_concat (call : Call) (this : Value) {list total : Value} {size : Nat}
    (hitems : ∀ v ∈ items, IsBuffer w.heap v) (hlist : w.heap.list? list = some items)
    (htotal : SizeArg (items.flatMap (contentOf w.heap)).length total size)
    (hsize : size ≤ maxBufferLength) :
    Makes w (runBuffer call .concat this [list, total])
      ((items.flatMap (contentOf w.heap) ++ List.replicate size 0).take size) :=
  ⟨_, _, _, run_concatBuffers call hitems hlist htotal hsize, Nat.le_succ _, Nat.le_refl _,
    withBuffer_at w _, by rw [withBuffer_store_at], (Extends.push _ _).trans (.push _ _)⟩

/-- The buffers of a list literal, joined. -/
def joined (call : Call) (this : Value) (items : List Value) : Machine Value := do
  let list ← makeList items
  runBuffer call .concat this [list, .undefined]

/-- Two lists of buffers, each joined by itself, and then both of them. -/
def joinedInTwo (call : Call) (this : Value) (first second : List Value) : Machine Value := do
  let left ← joined call this first
  let right ← joined call this second
  joined call this [left, right]

theorem run_makeList (w : World) (items : List Value) :
    ∃ list w', run w (makeList items) = (.ok list, w') ∧ Extends w.heap w'.heap ∧
      w'.heap.list? list = some items := by
  refine ⟨_, _, rfl, .push _ ⟨.list items, some Place.listParent, []⟩, ?_⟩
  show Heap.list? (w.heap.push ⟨.list items, some Place.listParent, []⟩) (.object w.heap.size) = _
  simp only [Heap.list?, Heap.at_push_self]

/-- Joining makes a buffer of just the bytes of the buffers. -/
theorem makes_joined (call : Call) (this : Value) (hitems : ∀ v ∈ items, IsBuffer w.heap v)
    (hsize : (items.flatMap (contentOf w.heap)).length ≤ maxBufferLength) :
    Makes w (joined call this items) (items.flatMap (contentOf w.heap)) := by
  obtain ⟨list, w', hrun, hext, hlist⟩ := run_makeList w items
  obtain ⟨hitems', hsame⟩ := buffers_kept hitems hext
  rw [← hsame] at hsize
  have hmakes := makes_concat call this hitems' hlist .omitted hsize
  rw [List.take_left, hsame] at hmakes
  unfold joined
  refine Makes.after ?_ hrun hext
  exact hmakes

/-- Joining in two steps makes a buffer of the same bytes. -/
theorem makes_joinedInTwo (call : Call) (this : Value) {first second : List Value}
    (hitems : ∀ v ∈ first ++ second, IsBuffer w.heap v)
    (hsize : ((first ++ second).flatMap (contentOf w.heap)).length ≤ maxBufferLength) :
    Makes w (joinedInTwo call this first second)
      ((first ++ second).flatMap (contentOf w.heap)) := by
  rw [List.flatMap_append] at hsize ⊢
  have hlength := hsize
  rw [List.length_append] at hlength
  have hfirst : ∀ v ∈ first, IsBuffer w.heap v := fun v hv =>
    hitems v (List.mem_append_left second hv)
  have hsecond : ∀ v ∈ second, IsBuffer w.heap v := fun v hv =>
    hitems v (List.mem_append_right first hv)
  obtain ⟨left, w', hrun, hleft, hshown, hext⟩ :=
    (makes_joined call this hfirst (by omega)).buffer
  obtain ⟨hsecond', hsame⟩ := buffers_kept hsecond hext
  obtain ⟨right, w'', hrun', hright, hshown', hext'⟩ :=
    (makes_joined call this hsecond' (by rw [hsame]; omega)).buffer
  obtain ⟨hleft', hkept⟩ := hleft.kept hext'
  have hboth : ∀ v ∈ [left, right], IsBuffer w''.heap v := by
    rintro v hv
    obtain rfl | rfl := by simpa using hv
    · exact hleft'
    · exact hright
  have hbytes : [left, right].flatMap (contentOf w''.heap) =
      first.flatMap (contentOf w.heap) ++ second.flatMap (contentOf w.heap) := by
    rw [List.flatMap_cons, List.flatMap_singleton, hkept, hshown, hshown', hsame]
  have hmakes := makes_joined call this hboth (by rw [hbytes]; exact hsize)
  rw [hbytes] at hmakes
  unfold joinedInTwo
  refine Makes.after (Makes.after ?_ hrun' hext') hrun hext
  exact hmakes

/-- **Joining.** The buffers of a list are joined into a new buffer of their bytes one after
another, which are cut or filled with zeros where a size is asked for, and no other object changes.
When two parts of a list are joined first, and then the two new buffers, the bytes are the same. -/
theorem concat_joins (call : Call) (this : Value) (hitems : ∀ v ∈ items, IsBuffer w.heap v) :
    (∀ list, w.heap.list? list = some items →
      (∀ total ≤ maxBufferLength,
        Makes w (runBuffer call .concat this [list, .ofNat total])
          ((items.flatMap (contentOf w.heap) ++ List.replicate total 0).take total)) ∧
      ((items.flatMap (contentOf w.heap)).length ≤ maxBufferLength →
        Makes w (runBuffer call .concat this [list]) (items.flatMap (contentOf w.heap)))) ∧
    ((items.flatMap (contentOf w.heap)).length ≤ maxBufferLength →
      Makes w (joined call this items) (items.flatMap (contentOf w.heap)) ∧
      ∀ first second, items = first ++ second →
        Makes w (joinedInTwo call this first second) (items.flatMap (contentOf w.heap))) := by
  refine ⟨fun list hlist => ⟨fun total htotal => ?_, fun hsize => ?_⟩, fun hsize => ⟨?_, ?_⟩⟩
  · exact makes_concat call this hitems hlist (.given total) htotal
  · have hmakes := makes_concat call this hitems hlist .omitted hsize
    rw [List.take_left] at hmakes
    exact hmakes
  · exact makes_joined call this hitems hsize
  · rintro first second rfl
    exact makes_joinedInTwo call this hitems hsize

/-- A world with two buffers, and a list of them. -/
def partsWorld : World :=
  let first := withBuffer { heap := #[], surroundings := bareSurroundings } [1, 2]
  let buffers := withBuffer first [3]
  { buffers with
    heap := buffers.heap.push ⟨.list [.object 1, .object 3], some Place.listParent, []⟩ }

/-- The two buffers joined, also to five bytes, and in two steps. -/
theorem concat_joins_parts :
    (∀ v ∈ [Value.object 1, .object 3], IsBuffer partsWorld.heap v) ∧
    partsWorld.heap.list? (.object 4) = some [.object 1, .object 3] ∧
    Makes partsWorld (runBuffer idleCall .concat .undefined [.object 4, .ofNat 5])
      [1, 2, 3, 0, 0] ∧
    Makes partsWorld (runBuffer idleCall .concat .undefined [.object 4]) [1, 2, 3] ∧
    Makes partsWorld (joinedInTwo idleCall .undefined [.object 1] [.object 3]) [1, 2, 3] := by
  have hitems : ∀ v ∈ [Value.object 1, .object 3], IsBuffer partsWorld.heap v := by
    intro v hv
    obtain rfl | rfl := by simpa using hv
    · exact ⟨1, 0, 0, 2, [1, 2], rfl, rfl, rfl, by decide⟩
    · exact ⟨3, 2, 0, 1, [3], rfl, rfl, rfl, by decide⟩
  have hlist : partsWorld.heap.list? (.object 4) = some [.object 1, .object 3] := rfl
  obtain ⟨hconcat, hparts⟩ := concat_joins idleCall .undefined hitems
  obtain ⟨hsized, hwhole⟩ := hconcat _ hlist
  obtain ⟨-, hsplit⟩ := hparts (by decide)
  exact ⟨hitems, hlist, hsized 5 (by decide), hwhole (by decide),
    hsplit [.object 1] [.object 3] rfl⟩

end GuestLint.Builtin

import GuestLint.Proofs.Guest.Containment

/-!
# The chain of the driver script

The driver script makes a promise of its own, and lets the bundle's promise settle it through two
more: one for the handler that formats the results, and one for the handler that passes a reason on.
No guest can reach these, so the chain comes to its end in a few hops, whatever else is in the
queue.

* `Heap.Grows.find`: what can be read off objects stays while others come to the heap.
* `formatLater`: the script, once it has the bundle; `run_formatLater`: the world that it leaves.
* `driverSeal`: what the script hides, and `sealed_chained`: nothing refers to it.
* `run_formatted`, `run_refused`, `run_passed`: the hops of the chain.
-/
namespace GuestLint.Guest

/-! ## Reading a heap that has grown -/

/-- Two objects that a reader cannot tell apart, but for what promises they are. -/
structure Object.Alike (o o' : Object) : Prop where
  parent : o'.parent = o.parent
  properties : o'.properties = o.properties
  kind : o'.kind = o.kind ∨ o.kind.isPromise = true ∧ o'.kind.isPromise = true

theorem Object.Alike.refl (o : Object) : o.Alike o := ⟨rfl, rfl, .inl rfl⟩

/-- The objects that were there, in a heap that has grown. -/
structure Heap.Grows (h h' : Heap) : Prop where
  size : h.size ≤ h'.size
  alike : ∀ r < h.size, (h.at_ r).Alike (h'.at_ r)

namespace Heap

variable {h h' : Heap}

theorem Grows.refl (h : Heap) : h.Grows h := ⟨Nat.le_refl _, fun r _ => .refl (h.at_ r)⟩

theorem Grows.trans {h'' : Heap} (hg : h.Grows h') (hg' : h'.Grows h'') : h.Grows h'' := by
  refine ⟨Nat.le_trans hg.size hg'.size, fun r hr => ?_⟩
  have ha := hg.alike r hr
  have ha' := hg'.alike r (Nat.lt_of_lt_of_le hr hg.size)
  refine ⟨ha'.parent.trans ha.parent, ha'.properties.trans ha.properties, ?_⟩
  obtain hk | ⟨hp, hp'⟩ := ha.kind <;> obtain hk' | ⟨hq, hq'⟩ := ha'.kind
  · exact .inl (hk'.trans hk)
  · exact .inr ⟨hk ▸ hq, hq'⟩
  · exact .inr ⟨hp, hk' ▸ hp'⟩
  · exact .inr ⟨hp, hq'⟩

theorem Grows.push (h : Heap) (o : Object) : h.Grows (h.push o) := by
  refine ⟨by simp, fun r hr => ?_⟩
  rw [Heap.at_push_lt _ hr]
  exact .refl _

/-- A promise takes another state. -/
theorem Grows.withState {r : Ref} (hr : (h.at_ r).kind.isPromise = true) (state : PromiseState) :
    h.Grows (h.modify r (·.withState state)) := by
  refine ⟨Nat.le_of_eq (Heap.size_modify ..).symm, fun r' _ => ?_⟩
  rw [Heap.at_modify]
  split
  · rename_i heq
    rw [heq.1]
    exact ⟨rfl, rfl, .inr ⟨hr, rfl⟩⟩
  · exact .refl _

theorem Grows.function? (hg : h.Grows h') {f : Value} {g : Function} (hf : h.function? f = some g) :
    h'.function? f = some g := by
  cases f with
  | object r =>
    have hr : r < h.size := by
      refine Nat.lt_of_not_le fun hle => ?_
      simp [Heap.function?, Heap.at_, Array.getElem?_eq_none hle] at hf
    obtain hk | ⟨hp, -⟩ := (hg.alike r hr).kind
    · simpa [Heap.function?, hk] using hf
    · obtain ⟨state, hk⟩ := ObjectKind.isPromise_iff.mp hp
      simp [Heap.function?, hk] at hf
  | _ => cases hf

variable {r : Ref} {name : String}

theorem Grows.own? (hg : h.Grows h')
    (hclosed : ∀ store offset length, (h.at_ r).kind = .bytes store offset length →
    store < h.size) (hr : r < h.size) : h'.own? r name = h.own? r name := by
  have halike := hg.alike r hr
  obtain hk | ⟨hp, hp'⟩ := halike.kind
  · have hbytes : h'.bytesOf r = h.bytesOf r := by
      unfold Heap.bytesOf
      rw [hk]
      cases hkind : (h.at_ r).kind with
      | bytes store offset length =>
        have hstore := (hg.alike store (hclosed store offset length hkind)).kind
        dsimp only
        obtain hk' | ⟨hq, hq'⟩ := hstore
        · rw [hk']
        · obtain ⟨state, hks⟩ := ObjectKind.isPromise_iff.mp hq
          obtain ⟨state', hks'⟩ := ObjectKind.isPromise_iff.mp hq'
          rw [hks, hks']
      | _ => rfl
    unfold Heap.own?
    dsimp only
    rw [hk, halike.properties, hbytes]
  · unfold Heap.own?
    dsimp only
    rw [halike.properties]
    obtain ⟨state, hk⟩ := ObjectKind.isPromise_iff.mp hp
    obtain ⟨state', hk'⟩ := ObjectKind.isPromise_iff.mp hp'
    rw [hk, hk']

/-- A place that a closed heap refers to. -/
theorem lt_of_visible (hbase : firstHeap.size ≤ h.size) (hr : Visible Seal.open h.size r) :
    r < h.size :=
  hr.below.elim id fun hlt => Nat.lt_of_lt_of_le hlt hbase

theorem findFrom_more {v : Value} {fuel fuel' : Nat} (hv : h.findFrom name fuel r = some v)
    (hle : fuel ≤ fuel') : h.findFrom name fuel' r = some v := by
  induction fuel generalizing r fuel' with
  | zero => cases hv
  | succ fuel ih =>
    cases fuel' with
    | zero => cases hle
    | succ fuel' =>
      unfold Heap.findFrom at hv ⊢
      split at hv
      · exact hv
      · split at hv
        · exact ih hv (Nat.le_of_succ_le_succ hle)
        · cases hv

theorem Grows.findFrom (hg : h.Grows h') (hbase : firstHeap.size ≤ h.size)
    (hclosed : Refers.clear Seal.open h.size h) (hr : r < h.size) (fuel : Nat) :
    h'.findFrom name fuel r = h.findFrom name fuel r := by
  induction fuel generalizing r with
  | zero => rfl
  | succ fuel ih =>
    have hobject : Refers.clear Seal.open h.size (h.at_ r) := hclosed r rfl
    have hown : h'.own? r name = h.own? r name := hg.own? (fun store offset length hkind => by
      have hstore := hobject.kind
      rw [hkind] at hstore
      exact lt_of_visible hbase hstore) hr
    unfold Heap.findFrom
    rw [hown, (hg.alike r hr).parent]
    cases h.own? r name with
    | some v => rfl
    | none =>
      dsimp only
      cases hparent : (h.at_ r).parent with
      | none => rfl
      | some p => exact ih (lt_of_visible hbase (hobject.parent p hparent))

/-- What is found along the parents of an object is found there when others have come. -/
theorem Grows.find (hg : h.Grows h') (hbase : firstHeap.size ≤ h.size)
    (hclosed : Refers.clear Seal.open h.size h) (hr : r < h.size) {v : Value}
    (hv : h.find r name = some v) : h'.find r name = some v := by
  unfold Heap.find at hv ⊢
  rw [← hg.findFrom hbase hclosed hr] at hv
  exact findFrom_more hv (Nat.succ_le_succ hg.size)

end Heap

/-! ## What the script does -/

/-- The driver script, once it has the bundle. -/
def formatLater (call : Call) (bundle : Value) : Machine Value := do
  let promise ← makePromise
  let outcome ← attempt do
    let format ← makeFunction "" (.formatResults bundle promise)
    let formatted ← callMethod call (← getProperty bundle "lint") "then" [.object format]
    let refuse ← makeFunction "" (.settle promise 0 false)
    callMethod call formatted "catch" [.object refuse]
  match outcome with
  | .ok _ => pure ()
  | .error e => settleInRound promise 0 false e
  pure (.object promise)

theorem bundleResults_eq (call : Call) :
    bundleResults call = callRequire call bundleName >>= formatLater call := rfl

/-- A promise that has just been made. -/
def newPromise : Object := ⟨.promise (.pending 0 []), some Place.promiseParent, []⟩

/-- The world with another object. -/
def World.push (w : World) (o : Object) : World := { w with heap := w.heap.push o }

@[simp] theorem World.push_size (w : World) (o : Object) :
    (w.push o).heap.size = w.heap.size + 1 := Array.size_push ..

@[simp] theorem World.push_at (w : World) (o : Object) (r : Ref) :
    (w.push o).heap.at_ r = if r = w.heap.size then o else w.heap.at_ r := Heap.at_push ..

/-- The world in which a promise has another reaction: it waits for the promise, or its job is in
the queue. -/
def World.react (w : World) (r : Ref) (reaction : Reaction) : World :=
  match (w.heap.at_ r).state? with
  | some (.pending round reactions) =>
    { w with heap := w.heap.modify r (·.withState (.pending round (reactions ++ [reaction]))) }
  | some (.fulfilled v) => { w with jobs := w.jobs ++ [reaction.job v true] }
  | some (.rejected v) => { w with jobs := w.jobs ++ [reaction.job v false] }
  | none => w

section
variable {w : World} {r : Ref} {d : Nat}

theorem run_makePromise (w : World) : run w makePromise = (.ok w.heap.size, w.push newPromise) :=
  rfl

theorem run_makeFunction (w : World) (name : String) (f : Function) :
    run w (makeFunction name f) = (.ok w.heap.size, w.push (functionObject name f [])) := rfl

theorem run_addReaction {state : PromiseState} (hr : r < w.heap.size)
    (h : (w.heap.at_ r).kind = .promise state) (f g : Value) :
    run w (addReaction r f g) =
      (.ok w.heap.size, (w.push newPromise).react r ⟨f, g, w.heap.size⟩) := by
  have hstate : ((w.push newPromise).heap.at_ r).state? = some state := by
    rw [World.push, Heap.at_push_lt _ hr, state?_eq_some.mpr h]
  unfold addReaction
  rw [run_bind_ok (run_makePromise w)]
  dsimp only
  rw [run_bind_ok (run_promiseState? _ r), World.react, hstate]
  cases state <;> rfl

/-- A call runs what the function does. -/
theorem run_invoke {f this : Value} {g : Function} (hf : w.heap.function? f = some g)
    (args : List Value) :
    run w (invoke (d + 1) f this args) = run w (perform (invoke d) g this args) := by
  refine (run_bind_ok (run_heap w) _).trans ?_
  rw [hf]

/-- The function of the language that a value is. -/
def Heap.intrinsic? (h : Heap) (v : Value) : Option Intrinsic :=
  match h.function? v with
  | some (.intrinsic f) => some f
  | _ => none

/-- What a property holds is a function of the language. -/
def Heap.Holds (h : Heap) (property : Option Value) (f : Intrinsic) : Prop :=
  property.bind h.intrinsic? = some f

theorem Heap.holds_iff {h : Heap} {property : Option Value} {f : Intrinsic} :
    h.Holds property f ↔ ∃ v, property = some v ∧ h.function? v = some (.intrinsic f) := by
  rw [Heap.Holds, Option.bind_eq_some_iff]
  refine exists_congr fun v => and_congr_right fun _ => ?_
  unfold Heap.intrinsic?
  split
  · rename_i g hg
    simp [hg]
  · rename_i hother
    exact ⟨fun h => (nomatch h), fun h => (hother f h).elim⟩

theorem run_callMethod {name : String} {f : Intrinsic} (h : w.heap.Holds (w.heap.find r name) f)
    (args : List Value) :
    run w (callMethod (invoke (d + 1)) (.object r) name args) =
      run w (runIntrinsic (invoke d) f (.object r) args) := by
  obtain ⟨v, hfind, hfunction⟩ := Heap.holds_iff.mp h
  have hget : run w (getProperty (.object r) name) = (.ok v, w) := by
    show (Except.ok ((w.heap.find r name).getD .undefined), w) = _
    rw [hfind]
    rfl
  unfold callMethod
  rw [run_bind_ok hget, run_invoke hfunction]
  rfl

end

/-! ## The world that it leaves -/

/-- What a guest's promises can do is what the language gives them. -/
structure StandardPromise (w : World) (p : Ref) : Prop where
  isPromise : (w.heap.at_ p).kind.isPromise = true
  thenOf : w.heap.Holds (w.heap.find p "then") .promiseThen
  thenAny : w.heap.Holds (w.heap.own? Place.promiseParent "then") .promiseThen
  catchAny : w.heap.Holds (w.heap.own? Place.promiseParent "catch") .promiseCatch

section
variable (w : World) (bundle : Value) (p : Ref)

/-- The handler that formats the results. -/
def formatHandler : Object :=
  functionObject "" (.formatResults bundle w.heap.size) []

/-- The handler that passes a reason on. -/
def refuseHandler : Object :=
  functionObject "" (.settle w.heap.size 0 false) []

/-- What waits on the bundle's promise. -/
def formatReaction : Reaction :=
  ⟨.object (w.heap.size + 1), .undefined, w.heap.size + 2⟩

/-- What waits on the promise of the formatted results. -/
def refuseReaction : Reaction :=
  ⟨.undefined, .object (w.heap.size + 3), w.heap.size + 4⟩

/-- The world with the script's objects before the handlers wait. -/
def formatted : World :=
  (((w.push newPromise).push (formatHandler w bundle)).push newPromise).react p (formatReaction w)

/-- The world that the script leaves. -/
def chained : World :=
  (((formatted w bundle p).push (refuseHandler w)).push newPromise).react (w.heap.size + 2)
    (refuseReaction w)

end

theorem react_size (w : World) (r : Ref) (reaction : Reaction) :
    (w.react r reaction).heap.size = w.heap.size := by
  unfold World.react
  split
  · exact Heap.size_modify ..
  all_goals rfl

theorem react_grows (w : World) (r : Ref) (reaction : Reaction) :
    w.heap.Grows (w.react r reaction).heap := by
  unfold World.react
  split
  · rename_i hstate
    exact .withState (by rw [state?_eq_some.mp hstate]; rfl) _
  all_goals exact .refl _

theorem react_at_ne (w : World) {r r' : Ref} (hne : r' ≠ r) (reaction : Reaction) :
    (w.react r reaction).heap.at_ r' = w.heap.at_ r' := by
  unfold World.react
  split
  · exact Heap.at_modify_ne _ hne _
  all_goals rfl

/-- A method that promises have is a method of one that was just made. -/
theorem holds_newPromise {h : Heap} {r : Ref} {name : String} {f : Intrinsic}
    (hr : (h.at_ r).kind.isPromise = true) (hparent : (h.at_ r).parent = some Place.promiseParent)
    (hproperties : (h.at_ r).properties = [])
    (hany : h.Holds (h.own? Place.promiseParent name) f) : h.Holds (h.find r name) f := by
  obtain ⟨v, hown, hf⟩ := Heap.holds_iff.mp hany
  have hnone : h.own? r name = none := by
    unfold Heap.own?
    dsimp only
    rw [hproperties]
    cases hk : (h.at_ r).kind <;> rw [hk] at hr <;> cases hr
    rfl
  exact Heap.holds_iff.mpr ⟨v, Heap.find_of_parent h hnone hparent hown, hf⟩

section
variable {w : World} {r : Ref} {state : PromiseState} {d : Nat}

theorem lt_of_promise (h : (w.heap.at_ r).kind = .promise state) : r < w.heap.size := by
  refine Nat.lt_of_not_le fun hle => ?_
  simp [Heap.at_, Array.getElem?_eq_none hle] at h

/-- The `then` method of a promise adds a reaction. -/
theorem run_then (h : (w.heap.at_ r).kind = .promise state)
    (hthen : w.heap.Holds (w.heap.find r "then") .promiseThen) (args : List Value) :
    run w (callMethod (invoke (d + 1)) (.object r) "then" args) =
      (.ok (.object w.heap.size),
        (w.push newPromise).react r ⟨argAt args 0, argAt args 1, w.heap.size⟩) := by
  rw [run_callMethod hthen]
  show run w (Value.object <$> addReaction r (argAt args 0) (argAt args 1)) = _
  rw [← bind_pure_comp, run_bind_ok (run_addReaction (lt_of_promise h) h _ _)]
  rfl

/-- The `catch` method of a promise adds a reaction that has no handler for a value. -/
theorem run_catch (h : (w.heap.at_ r).kind = .promise state)
    (hthen : w.heap.Holds (w.heap.find r "then") .promiseThen)
    (hcatch : w.heap.Holds (w.heap.find r "catch") .promiseCatch) (f : Value) :
    run w (callMethod (invoke (d + 2)) (.object r) "catch" [f]) =
      (.ok (.object w.heap.size),
        (w.push newPromise).react r ⟨.undefined, f, w.heap.size⟩) := by
  rw [run_callMethod hcatch]
  exact run_then h hthen _

end

section
variable {w : World} {bundle : Value} {b p : Ref}

theorem formatted_size : (formatted w bundle p).heap.size = w.heap.size + 3 := by
  simp [formatted, react_size, World.push]

theorem formatted_grows : w.heap.Grows (formatted w bundle p).heap := by
  refine .trans ?_ (react_grows _ p _)
  exact (Heap.Grows.push _ _).trans ((Heap.Grows.push _ _).trans (.push _ _))

theorem formatted_at (hp : p < w.heap.size) :
    (formatted w bundle p).heap.at_ (w.heap.size + 2) = newPromise := by
  rw [formatted, react_at_ne _ (Nat.ne_of_gt (Nat.lt_add_right 2 hp))]
  simp

theorem StandardPromise.lt (hp : StandardPromise w p) : p < w.heap.size := by
  refine Nat.lt_of_not_le fun hle => ?_
  have h := hp.isPromise
  simp [Heap.at_, Array.getElem?_eq_none hle, ObjectKind.isPromise] at h

/-- What is known of a bundle's promise is known when the heap has grown. -/
theorem StandardPromise.grows {w' : World} (hp : StandardPromise w p) (hw : Sealed Seal.open w)
    (hg : w.heap.Grows w'.heap) : StandardPromise w' p := by
  have hpsize := hp.lt
  have hany : ∀ {name : String} {f : Intrinsic},
      w.heap.Holds (w.heap.own? Place.promiseParent name) f →
        w'.heap.Holds (w'.heap.own? Place.promiseParent name) f := by
    intro name f h
    obtain ⟨v, hown, hf⟩ := Heap.holds_iff.mp h
    refine Heap.holds_iff.mpr
      ⟨v, (hg.own? (fun store offset length hkind => ?_) ?_).trans hown, hg.function? hf⟩
    · have hstore := (hw.clear.heap Place.promiseParent rfl).kind
      rw [hkind] at hstore
      exact Heap.lt_of_visible hw.based hstore
    · exact Nat.lt_of_lt_of_le (by decide) hw.based
  obtain ⟨v, hfind, hf⟩ := Heap.holds_iff.mp hp.thenOf
  have hfind' := hg.find hw.based hw.clear.heap hpsize hfind
  refine ⟨?_, Heap.holds_iff.mpr ⟨v, hfind', hg.function? hf⟩, hany hp.thenAny, hany hp.catchAny⟩
  obtain hk | ⟨-, hk⟩ := (hg.alike p hpsize).kind
  · exact hk ▸ hp.isPromise
  · exact hk

/-- The script makes its chain. -/
theorem run_formatLater (hw : Sealed Seal.open w) (hb : w.heap.find b "lint" = some (.object p))
    (hbsize : b < w.heap.size) (hp : StandardPromise w p) :
    run w (formatLater engineCall (.object b)) =
      (.ok (.object w.heap.size), chained w (.object b) p) := by
  let w₂ := (w.push newPromise).push (formatHandler w (.object b))
  let w₄ := (formatted w (.object b) p).push (refuseHandler w)
  have hg₂ : w.heap.Grows w₂.heap := (Heap.Grows.push _ _).trans (.push _ _)
  have hg₄ : w.heap.Grows w₄.heap := formatted_grows.trans (.push _ _)
  have hp₂ := hp.grows hw hg₂
  have hp₄ := hp.grows hw hg₄
  have hpsize := hp.lt
  -- The bundle's promise has the first reaction.
  have hlint : run w₂ (getProperty (.object b) "lint") = (.ok (.object p), w₂) := by
    show (Except.ok ((w₂.heap.find b "lint").getD .undefined), w₂) = _
    rw [hg₂.find hw.based hw.clear.heap hbsize hb]
    rfl
  have hthen : run w₂ (callMethod engineCall (.object p) "then" [.object (w.heap.size + 1)]) =
      (.ok (.object (w.heap.size + 2)), formatted w (.object b) p) := by
    obtain ⟨state, hk⟩ := ObjectKind.isPromise_iff.mp hp₂.isPromise
    have hsize : w₂.heap.size = w.heap.size + 2 := by simp [w₂, World.push]
    rw [engineCall, maxDepth, run_then hk hp₂.thenOf, hsize]
    rfl
  -- The promise that comes of it has the second one.
  have hcatch : run w₄ (callMethod engineCall (.object (w.heap.size + 2)) "catch"
      [.object (w.heap.size + 3)]) =
      (.ok (.object (w.heap.size + 4)), chained w (.object b) p) := by
    have hsize : w₄.heap.size = w.heap.size + 4 := by simp [w₄, World.push, formatted_size]
    have hat : w₄.heap.at_ (w.heap.size + 2) = newPromise := by
      show Heap.at_ ((formatted w (.object b) p).heap.push _) _ = _
      rw [Heap.at_push, if_neg (by rw [formatted_size]; simp), formatted_at hpsize]
    have hholds : ∀ {name : String} {f : Intrinsic},
        w₄.heap.Holds (w₄.heap.own? Place.promiseParent name) f →
          w₄.heap.Holds (w₄.heap.find (w.heap.size + 2) name) f :=
      holds_newPromise (by rw [hat]; rfl) (by rw [hat]; rfl) (by rw [hat]; rfl)
    rw [engineCall, maxDepth, run_catch (by rw [hat]; rfl) (hholds hp₄.thenAny)
      (hholds hp₄.catchAny), hsize]
    rfl
  have hchain : run (w.push newPromise) (do
      let format ← makeFunction "" (.formatResults (.object b) w.heap.size)
      let formatted ← callMethod engineCall (← getProperty (.object b) "lint") "then"
        [.object format]
      let refuse ← makeFunction "" (.settle w.heap.size 0 false)
      callMethod engineCall formatted "catch" [.object refuse]) =
      (.ok (.object (w.heap.size + 4)), chained w (.object b) p) := by
    have hformat : run (w.push newPromise) (makeFunction "" (.formatResults (.object b)
        w.heap.size)) = (.ok (w.heap.size + 1), w₂) := by
      have hsize : (w.push newPromise).heap.size = w.heap.size + 1 := by simp [World.push]
      rw [run_makeFunction, hsize]
      rfl
    have hrefuse : run (formatted w (.object b) p) (makeFunction "" (.settle w.heap.size 0 false)) =
        (.ok (w.heap.size + 3), w₄) := by
      rw [run_makeFunction, formatted_size]
      rfl
    rw [run_bind_ok hformat, run_bind_ok hlint, run_bind_ok hthen, run_bind_ok hrefuse]
    exact hcatch
  unfold formatLater
  rw [run_bind_ok (run_makePromise w)]
  dsimp only
  rw [run_bind, run_attempt, hchain]
  rfl

end

/-! ## What it hides -/

/-- The places of the script's objects are hidden, and so is what waits on the bundle's promise. -/
def driverSeal (w : World) (hbase : firstHeap.size ≤ w.heap.size) (p : Ref) : Seal where
  hidden r := decide (w.heap.size ≤ r ∧ r < w.heap.size + 5)
  behind _ hr := Nat.le_trans hbase (of_decide_eq_true hr).1
  watched := p
  reaction := formatReaction w

section
variable {w : World} (hw : Sealed Seal.open w) {bundle : Value} {p : Ref}

theorem driverSeal_hidden {r : Ref} :
    (driverSeal w hw.based p).hidden r = true ↔ w.heap.size ≤ r ∧ r < w.heap.size + 5 :=
  decide_eq_true_iff

theorem driverSeal_shown {r : Ref} (hr : r < w.heap.size) :
    (driverSeal w hw.based p).hidden r = false :=
  decide_eq_false fun h => absurd h.1 (Nat.not_le.mpr hr)

/-- What a guest can see before the script runs it can see afterwards. -/
theorem driverSeal_shows :
    Shows Seal.open (driverSeal w hw.based p) w.heap.size (w.heap.size + 5) where
  visible h :=
    have hlt := Heap.lt_of_visible hw.based h
    ⟨driverSeal_shown hw hlt, .inl (Nat.lt_add_right 5 hlt)⟩
  hidden _ := rfl

/-- No promise of the guest has reactions with hidden promises. -/
theorem reactionsOn_before {o : Object} (ho : Refers.clear Seal.open w.heap.size o) :
    (driverSeal w hw.based p).reactionsOn o = [] := by
  have hkind := ho.kind
  unfold Seal.reactionsOn
  split
  · rename_i round reactions heq
    rw [heq] at hkind
    refine List.filter_eq_nil_iff.mpr fun reaction hreaction => Bool.eq_false_iff.mp ?_
    exact driverSeal_shown hw (Heap.lt_of_visible hw.based (hkind reaction hreaction rfl).1)
  · rfl

theorem jobsIn_before : (driverSeal w hw.based p).jobsIn w = [] := by
  refine List.filter_eq_nil_iff.mpr fun job hjob => Bool.eq_false_iff.mp ?_
  have hclear := hw.clear.jobs job hjob
  cases job with
  | react handler argument fulfils derived =>
    exact driverSeal_shown hw (Heap.lt_of_visible hw.based (hclear.2 rfl).1)
  | _ => rfl

end

/-- The script's objects, in a heap in which none of its handlers has been called. -/
structure Chain (w : World) (bundle : Value) (h : Heap) : Prop where
  result : h.at_ w.heap.size = newPromise
  format : h.at_ (w.heap.size + 1) = formatHandler w bundle
  formatted : h.at_ (w.heap.size + 2) = newPromise.withState (.pending 0 [refuseReaction w])
  refuse : h.at_ (w.heap.size + 3) = refuseHandler w
  last : h.at_ (w.heap.size + 4) = newPromise

section
variable {w : World} (bundle : Value) {p : Ref}

theorem react_pending {r : Ref} {round : Nat} {reactions : List Reaction}
    (h : (w.heap.at_ r).kind = .promise (.pending round reactions)) (reaction : Reaction) :
    w.react r reaction = { w with
      heap := w.heap.modify r (·.withState (.pending round (reactions ++ [reaction]))) } := by
  rw [World.react, state?_eq_some.mpr h]

theorem react_settled {r : Ref} {v : Value} {fulfils : Bool}
    (h : (w.heap.at_ r).kind = .promise (settledState v fulfils)) (reaction : Reaction) :
    w.react r reaction = { w with jobs := w.jobs ++ [reaction.job v fulfils] } := by
  rw [World.react, state?_eq_some.mpr h]
  cases fulfils <;> rfl

/-- A reaction is added to an object or becomes a job. -/
theorem react_others (w : World) (r : Ref) (reaction : Reaction) :
    (w.react r reaction).surroundings = w.surroundings ∧
      (w.react r reaction).channels = w.channels ∧ (w.react r reaction).stored = w.stored ∧
      (w.react r reaction).kept = w.kept := by
  unfold World.react
  split <;> exact ⟨rfl, rfl, rfl, rfl⟩

/-- The script's own promise takes its reaction. -/
theorem chained_eq (hp : p < w.heap.size) :
    chained w bundle p =
      let before := ((formatted w bundle p).push (refuseHandler w)).push newPromise
      { before with
        heap := before.heap.modify (w.heap.size + 2)
          (·.withState (.pending 0 [refuseReaction w])) } := by
  have hpending : ((((formatted w bundle p).push (refuseHandler w)).push newPromise).heap.at_
      (w.heap.size + 2)).kind = .promise (.pending 0 []) := by
    simp [formatted_size, formatted_at hp]
    rfl
  exact react_pending hpending (refuseReaction w)

theorem chained_size (hp : p < w.heap.size) :
    (chained w bundle p).heap.size = w.heap.size + 5 := by
  rw [chained_eq bundle hp]
  simp [formatted_size, Heap.size_modify]

/-- The objects that come last. -/
theorem chained_at (hp : p < w.heap.size) (r : Ref) :
    (chained w bundle p).heap.at_ r =
      if r = w.heap.size + 4 then newPromise
      else if r = w.heap.size + 3 then refuseHandler w
      else if r = w.heap.size + 2 then newPromise.withState (.pending 0 [refuseReaction w])
      else (formatted w bundle p).heap.at_ r := by
  rw [chained_eq bundle hp]
  dsimp only
  rw [Heap.at_modify]
  by_cases h2 : r = w.heap.size + 2
  · simp [h2, formatted_size, formatted_at hp]
  · simp [h2, formatted_size]

/-- The objects that come first. -/
theorem formatted_at_ne {r : Ref} (hne : r ≠ p) :
    (formatted w bundle p).heap.at_ r =
      if r = w.heap.size + 2 then newPromise
      else if r = w.heap.size + 1 then formatHandler w bundle
      else if r = w.heap.size then newPromise
      else w.heap.at_ r := by
  rw [formatted, react_at_ne _ hne]
  simp

theorem chain_chained (hp : p < w.heap.size) : Chain w bundle (chained w bundle p).heap := by
  have hat := chained_at bundle hp
  refine ⟨?_, ?_, ?_, ?_, ?_⟩
  · rw [hat, formatted_at_ne bundle (Nat.ne_of_gt hp)]
    simp
  · rw [hat, formatted_at_ne bundle (Nat.ne_of_gt (Nat.lt_add_right 1 hp))]
    simp
  all_goals simp [hat]

end

/-! ### Nothing refers to it -/

section
variable {w : World} (bundle : Value) {p : Ref}

theorem before_at (hp : p < w.heap.size) :
    (((w.push newPromise).push (formatHandler w bundle)).push newPromise).heap.at_ p =
      w.heap.at_ p := by
  simp only [World.push_at, World.push_size]
  rw [if_neg (Nat.ne_of_lt (Nat.lt_add_right 2 hp)), if_neg (Nat.ne_of_lt (Nat.lt_add_right 1 hp)),
    if_neg (Nat.ne_of_lt hp)]

/-- The bundle's promise is pending, and waits with one more reaction. -/
theorem formatted_pending {round : Nat} {reactions : List Reaction} (hp : p < w.heap.size)
    (h : (w.heap.at_ p).kind = .promise (.pending round reactions)) :
    (formatted w bundle p).jobs = w.jobs ∧ (formatted w bundle p).heap.at_ p =
      (w.heap.at_ p).withState (.pending round (reactions ++ [formatReaction w])) := by
  have hat := before_at bundle hp
  rw [formatted, react_pending (hat ▸ h)]
  refine ⟨rfl, ?_⟩
  have hlt : p < w.heap.size + 1 + 1 + 1 := Nat.lt_add_right 3 hp
  rw [Heap.at_modify_self _ (by simpa only [World.push_size] using hlt), hat]

/-- The bundle's promise has settled, and the job of its reaction is in the queue. -/
theorem formatted_settled {v : Value} {fulfils : Bool} (hp : p < w.heap.size)
    (h : (w.heap.at_ p).kind = .promise (settledState v fulfils)) :
    (formatted w bundle p).jobs = w.jobs ++ [(formatReaction w).job v fulfils] ∧
      (formatted w bundle p).heap.at_ p = w.heap.at_ p := by
  have hat := before_at bundle hp
  rw [formatted, react_settled (hat ▸ h)]
  exact ⟨rfl, hat⟩

theorem promise_cases {o : Object} (h : o.kind.isPromise = true) :
    (∃ round reactions, o.kind = .promise (.pending round reactions)) ∨
      ∃ v fulfils, o.kind = .promise (settledState v fulfils) := by
  obtain ⟨state, hk⟩ := ObjectKind.isPromise_iff.mp h
  cases state with
  | pending round reactions => exact .inl ⟨round, reactions, hk⟩
  | fulfilled v => exact .inr ⟨v, true, hk⟩
  | rejected v => exact .inr ⟨v, false, hk⟩

/-- What the bundle's promise and the queue are when the script has ended. -/
inductive Started (w w' : World) (p : Ref) : Prop where
  | waiting (round : Nat) (reactions : List Reaction)
      (before : (w.heap.at_ p).kind = .promise (.pending round reactions))
      (jobs : w'.jobs = w.jobs)
      (object : w'.heap.at_ p =
        (w.heap.at_ p).withState (.pending round (reactions ++ [formatReaction w])))
  | released (v : Value) (fulfils : Bool)
      (before : (w.heap.at_ p).kind = .promise (settledState v fulfils))
      (jobs : w'.jobs = w.jobs ++ [(formatReaction w).job v fulfils])
      (object : w'.heap.at_ p = w.heap.at_ p)

theorem started_chained (hp : (w.heap.at_ p).kind.isPromise = true) (hlt : p < w.heap.size) :
    Started w (chained w bundle p) p := by
  have hat : (chained w bundle p).heap.at_ p = (formatted w bundle p).heap.at_ p := by
    rw [chained_at bundle hlt, if_neg (Nat.ne_of_lt (Nat.lt_add_right 4 hlt)),
      if_neg (Nat.ne_of_lt (Nat.lt_add_right 3 hlt)),
      if_neg (Nat.ne_of_lt (Nat.lt_add_right 2 hlt))]
  have hjobs : (chained w bundle p).jobs = (formatted w bundle p).jobs := by
    rw [chained_eq bundle hlt]
    rfl
  obtain ⟨round, reactions, hk⟩ | ⟨v, fulfils, hk⟩ := promise_cases hp
  · obtain ⟨hj, ha⟩ := formatted_pending bundle hlt hk
    exact .waiting round reactions hk (hjobs.trans hj) (hat.trans ha)
  · obtain ⟨hj, ha⟩ := formatted_settled bundle hlt hk
    exact .released v fulfils hk (hjobs.trans hj) (hat.trans ha)

theorem formatted_others :
    (formatted w bundle p).surroundings = w.surroundings ∧
      (formatted w bundle p).channels = w.channels ∧ (formatted w bundle p).stored = w.stored ∧
      (formatted w bundle p).kept = w.kept := react_others _ _ _

theorem chained_others (hlt : p < w.heap.size) :
    (chained w bundle p).surroundings = w.surroundings ∧
      (chained w bundle p).channels = w.channels ∧ (chained w bundle p).stored = w.stored ∧
      (chained w bundle p).kept = w.kept := by
  rw [chained_eq bundle hlt]
  dsimp only [World.push]
  exact formatted_others bundle

/-- What was there is as it was, but for the bundle's promise. -/
theorem chained_at_old {r : Ref} (hlt : p < w.heap.size) (hr : r < w.heap.size) (hne : r ≠ p) :
    (chained w bundle p).heap.at_ r = w.heap.at_ r := by
  rw [chained_at bundle hlt, formatted_at_ne bundle hne]
  simp only [Nat.ne_of_lt (Nat.lt_add_right 4 hr), Nat.ne_of_lt (Nat.lt_add_right 3 hr),
    Nat.ne_of_lt (Nat.lt_add_right 2 hr), Nat.ne_of_lt (Nat.lt_add_right 1 hr), Nat.ne_of_lt hr,
    if_false]

/-- A place that is not hidden is one that was there, or there is nothing at it. -/
theorem chained_shown (hw : Sealed Seal.open w) (hlt : p < w.heap.size) {r : Ref}
    (hr : (driverSeal w hw.based p).hidden r = false) :
    r < w.heap.size ∨ (chained w bundle p).heap.at_ r = {} := by
  refine (Nat.lt_or_ge r w.heap.size).imp_right fun hge => ?_
  have hout : (chained w bundle p).heap.size ≤ r := by
    rw [chained_size bundle hlt]
    refine Nat.le_of_not_lt fun h => ?_
    rw [(driverSeal_hidden hw).mpr ⟨hge, h⟩] at hr
    cases hr
  rw [Heap.at_, Array.getElem?_eq_none hout]
  rfl

/-- The hidden reaction shows nothing to a guest. -/
theorem formatReaction_hidden (hw : Sealed Seal.open w) :
    (driverSeal w hw.based p).hidden (formatReaction w).derived = true :=
  (driverSeal_hidden hw).mpr ⟨Nat.le_add_right _ 2, Nat.add_lt_add_left (by decide) _⟩

/-- **Hidden.** When the script has ended nothing refers to its objects. -/
theorem sealed_chained (hw : Sealed Seal.open w) (hp : (w.heap.at_ p).kind.isPromise = true)
    (hlt : p < w.heap.size) : Sealed (driverSeal w hw.based p) (chained w bundle p) := by
  have hsize := chained_size bundle hlt
  have hshows := driverSeal_shows (p := p) hw
  have hhidden := formatReaction_hidden (p := p) hw
  have hpclear := Refers.map hshows (hw.clear.heap p rfl)
  have hjobs := Refers.map hshows hw.clear.jobs
  obtain ⟨-, hchannels, hstored, hkept⟩ := chained_others bundle hlt
  refine ⟨?_, fun r hr => ?_, ?_, ⟨fun r hr => ?_, ?_, ?_, ?_, ?_⟩⟩ <;> rw [hsize]
  · exact Nat.le_trans hw.based (Nat.le_add_right _ 5)
  · exact ((driverSeal_hidden hw).mp hr).2
  · exact Nat.lt_add_right 5 hlt
  · obtain hold | hnone := chained_shown bundle hw hlt hr
    · by_cases hne : r = p
      · subst hne
        cases started_chained bundle hp hlt with
        | released v fulfils hk _ hobject =>
          rw [hobject]
          exact hpclear
        | waiting round reactions hk _ hobject =>
          rw [hobject]
          refine ⟨fun reaction hmem => ?_, hpclear.parent, hpclear.properties⟩
          obtain hmem | hmem := List.mem_append.mp hmem
          · have hkind := hpclear.kind
            rw [hk] at hkind
            exact hkind reaction hmem
          · cases List.mem_singleton.mp hmem
            exact fun hd => absurd hhidden (by simp [hd])
      · rw [chained_at_old bundle hlt hold hne]
        exact Refers.map hshows (hw.clear.heap r rfl)
    · rw [hnone]
      exact (inferInstance : Clear _ _ ({} : Object)).clear
  · cases started_chained bundle hp hlt with
    | waiting _ _ _ hj _ => exact hj ▸ hjobs
    | released v fulfils hk hj _ =>
      rw [hj]
      intro job hmem
      obtain hmem | hmem := List.mem_append.mp hmem
      · exact hjobs job hmem
      · cases List.mem_singleton.mp hmem
        have hkind := hpclear.kind
        rw [hk] at hkind
        exact ⟨by cases fulfils <;> exact hkind, fun hd => absurd hhidden (by simp [hd])⟩
  · exact hchannels ▸ Refers.map hshows hw.clear.channels
  · exact hstored ▸ Refers.map hshows hw.clear.stored
  · exact hkept ▸ Refers.map hshows hw.clear.kept

/-- The hidden reaction waits on the bundle's promise, or its job is in the queue. -/
theorem stands_chained (hw : Sealed Seal.open w) (hp : (w.heap.at_ p).kind.isPromise = true)
    (hlt : p < w.heap.size) :
    Stands (driverSeal w hw.based p) (chained w bundle p) .waiting ∨
      ∃ v fulfils, Stands (driverSeal w hw.based p) (chained w bundle p) (.released v fulfils) := by
  have hhidden := formatReaction_hidden (p := p) hw
  have hbefore := reactionsOn_before (p := p) hw (hw.clear.heap p rfl)
  have hold := jobsIn_before (p := p) hw
  have hrest : Unwatched (driverSeal w hw.based p) (chained w bundle p).heap (· = p) := by
    intro r hr hne
    obtain hlt' | hnone := chained_shown bundle hw hlt hr
    · rw [chained_at_old bundle hlt hlt' hne]
      exact reactionsOn_before hw (hw.clear.heap r rfl)
    · rw [hnone]
      rfl
  cases started_chained bundle hp hlt with
  | waiting round reactions hk hj hobject =>
    have hnone : reactions.filter (fun reaction =>
        (driverSeal w hw.based p).hidden reaction.derived) = [] := by
      rw [← hbefore, Seal.reactionsOn, hk]
    refine .inl ⟨?_, ?_, hrest⟩
    · rw [Seal.jobsIn, hj]
      exact hold
    · refine (congrArg (driverSeal w hw.based p).reactionsOn hobject).trans ?_
      show List.filter _ (reactions ++ [formatReaction w]) = [formatReaction w]
      rw [List.filter_append, hnone, List.nil_append]
      exact List.filter_cons_of_pos hhidden
  | released v fulfils hk hj hobject =>
    refine .inr ⟨v, fulfils, ?_, .inl ?_, fun r hr _ => ?_⟩
    · rw [Seal.jobsIn, hj, List.filter_append]
      show (driverSeal w hw.based p).jobsIn w ++ _ = _
      rw [hold, List.nil_append]
      exact List.filter_cons_of_pos hhidden
    · exact (congrArg Object.kind hobject).trans hk
    · by_cases hne : r = p
      · rw [hne, hobject]
        exact hbefore
      · exact hrest r hr hne

end

/-! ## The hops of the chain -/

/-- The bundle formats its results. -/
def formatCall (call : Call) (bundle output : Value) : Machine Value := do
  let results ← getProperty output "results"
  let options ← makeRecord [("failSeverity", .ofInt (-1))]
  let ruleset ← getProperty output "resolvedRuleset"
  callMethod call bundle "formatOutput" [results, .text "json", .object options, ruleset]

instance {s : Seal} {n : Nat} {call : Call} [Contained s call] (bundle output : Value)
    [Clear s n bundle] [Clear s n output] : Guards s n (formatCall call bundle output) := by
  unfold formatCall
  infer_instance

theorem formatResults_eq (call : Call) (bundle output : Value) (promise : Ref) :
    formatResults call bundle promise output =
      formatCall call bundle output >>= settleInRound promise 0 true := by
  simp [formatResults, formatCall]

/-- The call in which the handler calls the bundle is nested in the call of the handler. -/
def nestedCall : Call := invoke (maxDepth - 1)

section
variable {w u : World} {bundle : Value} {p : Ref}

theorem promiseSet_at_self {r : Ref} (hr : r < u.heap.size) (state : PromiseState)
    (jobs : List Job) :
    (u.promiseSet r state jobs).heap.at_ r = (u.heap.at_ r).withState state :=
  Heap.at_modify_self u.heap hr _

theorem promiseSet_at_ne {r r' : Ref} (hne : r' ≠ r) (state : PromiseState) (jobs : List Job) :
    (u.promiseSet r state jobs).heap.at_ r' = u.heap.at_ r' :=
  Heap.at_modify_ne u.heap hne _

theorem Chain.stays (hw : Sealed Seal.open w) {u' : World} (hc : Chain w bundle u.heap)
    (h : Stays (driverSeal w hw.based p) u u') : Chain w bundle u'.heap := by
  have hat : ∀ i < 5, u'.heap.at_ (w.heap.size + i) = u.heap.at_ (w.heap.size + i) := fun i hi =>
    h.hidden _ ((driverSeal_hidden hw).mpr ⟨Nat.le_add_right _ i, Nat.add_lt_add_left hi _⟩)
  exact ⟨(hat 0 (by decide)).trans hc.result, (hat 1 (by decide)).trans hc.format,
    (hat 2 (by decide)).trans hc.formatted, (hat 3 (by decide)).trans hc.refuse,
    (hat 4 (by decide)).trans hc.last⟩

/-- A hidden promise takes another state, and hidden jobs come to the queue. -/
theorem Sealed.promiseSet {s : Seal} (hu : Sealed s u) {r : Ref} (hr : s.hidden r = true)
    (state : PromiseState) {jobs : List Job} (hjobs : Refers.clear s u.heap.size jobs) :
    Sealed s (u.promiseSet r state jobs) := by
  have hsize : (u.promiseSet r state jobs).heap.size = u.heap.size := Heap.size_modify ..
  refine ⟨?_, ?_, ?_, ⟨fun r' hr' => ?_, ?_, ?_, ?_, ?_⟩⟩ <;> rw [hsize]
  · exact hu.based
  · exact hu.bounded
  · exact hu.watched
  · rw [promiseSet_at_ne (by rintro rfl; rw [hr] at hr'; cases hr')]
    exact hu.clear.heap r' hr'
  · exact fun job hjob => (List.mem_append.mp hjob).elim (hu.clear.jobs job) (hjobs job)
  · exact hu.clear.channels
  · exact hu.clear.stored
  · exact hu.clear.kept

/-- The handler formats the results, and the text settles the script's promise. -/
theorem run_formatHandler (hc : Chain w bundle u.heap) (v : Value) :
    run u (engineCall (.object (w.heap.size + 1)) .undefined [v]) =
      run u (do
        settleInRound w.heap.size 0 true (← formatCall nestedCall bundle v)
        pure .undefined) := by
  have hfunction : u.heap.function? (.object (w.heap.size + 1)) =
      some (.formatResults bundle w.heap.size) := by
    simp only [Heap.function?, hc.format]
    rfl
  rw [engineCall, maxDepth, run_invoke hfunction]
  show run u (do
    formatResults (invoke 499) bundle w.heap.size v
    pure Value.undefined) = _
  rw [formatResults_eq, bind_assoc]
  rfl

theorem run_refuseHandler (hrefuse : u.heap.at_ (w.heap.size + 3) = refuseHandler w) (e : Value) :
    run u (engineCall (.object (w.heap.size + 3)) .undefined [e]) =
      run u (do
        settleInRound w.heap.size 0 false e
        pure .undefined) := by
  have hfunction : u.heap.function? (.object (w.heap.size + 3)) =
      some (.settle w.heap.size 0 false) := by
    simp only [Heap.function?, hrefuse]
    rfl
  rw [engineCall, maxDepth, run_invoke hfunction]
  rfl

theorem not_thenable_undefined (h : Heap) : ¬ h.Thenable .undefined := id

/-- A job of a reaction whose handler comes back. -/
theorem run_react_ok {call : Call} {handler v a : Value} {fulfils : Bool} {derived : Ref}
    {u' : World} (hhandler : u.heap.isFunction handler = true)
    (hrun : run u (call handler .undefined [v]) = (.ok a, u')) :
    run u (performJob call (.react handler v fulfils derived)) = run u' (resolve derived a) := by
  unfold performJob
  rw [run_bind_ok (run_heap u), hhandler, if_pos rfl, run_bind, run_attempt, hrun]

/-- A job of a reaction whose handler throws. -/
theorem run_react_thrown {call : Call} {handler v e : Value} {fulfils : Bool} {derived : Ref}
    {u' : World} (hhandler : u.heap.isFunction handler = true)
    (hrun : run u (call handler .undefined [v]) = (.error (.thrown e), u')) :
    run u (performJob call (.react handler v fulfils derived)) =
      run u' (settle derived e false) := by
  unfold performJob
  rw [run_bind_ok (run_heap u), hhandler, if_pos rfl, run_bind, run_attempt, hrun]
  rfl

/-- A job of a reaction without a handler passes the outcome on. -/
theorem run_react_undefined {call : Call} {v : Value} {fulfils : Bool} {derived : Ref} :
    run u (performJob call (.react .undefined v fulfils derived)) =
      run u (settle derived v fulfils) := by
  unfold performJob
  rw [run_bind_ok (run_heap u)]
  rfl

/-- The handler that formats, when formatting comes to a value that settles a promise at once. -/
theorem run_formatHandler_ok {v a : Value} {x : World} (hc : Chain w bundle u.heap)
    (hrun : run u (formatCall nestedCall bundle v) = (.ok a, x))
    (hx : x.heap.at_ w.heap.size = newPromise) (ha : ¬ x.heap.Thenable a) :
    run u (engineCall (.object (w.heap.size + 1)) .undefined [v]) =
      (.ok .undefined, x.promiseSet w.heap.size (.fulfilled a) []) := by
  have hk : (x.heap.at_ w.heap.size).kind = .promise (.pending 0 []) := by rw [hx]; rfl
  have hsettle : run x (settleInRound w.heap.size 0 true a) =
      (.ok (), x.promiseSet w.heap.size (.fulfilled a) []) := by
    rw [run_settleInRound hk, if_pos rfl, run_resolve_plain ha, run_settle hk]
    rfl
  rw [run_formatHandler hc, run_bind_ok hrun, run_bind_ok hsettle]
  rfl

theorem run_formatHandler_thrown {v : Value} {e : Stop} {x : World} (hc : Chain w bundle u.heap)
    (hrun : run u (formatCall nestedCall bundle v) = (.error e, x)) :
    run u (engineCall (.object (w.heap.size + 1)) .undefined [v]) = (.error e, x) := by
  rw [run_formatHandler hc, run_bind, hrun]

theorem isFunction_formatHandler (hc : Chain w bundle u.heap) :
    u.heap.isFunction (.object (w.heap.size + 1)) = true := by
  simp only [Heap.isFunction, Heap.function?, hc.format]
  rfl

/-- **First hop, formatted.** The promise of the formatted results settles after the script's
promise has. -/
theorem run_formatted {v a : Value} {x : World} (hc : Chain w bundle u.heap)
    (hrun : run u (formatCall nestedCall bundle v) = (.ok a, x)) (hx : Chain w bundle x.heap)
    (ha : ¬ x.heap.Thenable a) :
    run u (performJob engineCall ((formatReaction w).job v true)) =
      (.ok (), (x.promiseSet w.heap.size (.fulfilled a) []).promiseSet (w.heap.size + 2)
        (.fulfilled .undefined) [(refuseReaction w).job .undefined true]) := by
  have hcall := run_formatHandler_ok hc hrun hx.result ha
  have hk : ((x.promiseSet w.heap.size (.fulfilled a) []).heap.at_ (w.heap.size + 2)).kind =
      .promise (.pending 0 [refuseReaction w]) := by
    rw [promiseSet_at_ne (Nat.ne_of_gt (Nat.lt_add_of_pos_right Nat.two_pos)), hx.formatted]
    rfl
  refine (run_react_ok (isFunction_formatHandler hc) hcall).trans ?_
  rw [run_resolve_plain (not_thenable_undefined _)]
  exact run_settle hk .undefined true

/-- **First hop, refused.** -/
theorem run_refused {v e : Value} {x : World} {fulfils : Bool} (hc : Chain w bundle u.heap)
    (hx : Chain w bundle x.heap)
    (hrun : fulfils = true ∧ run u (formatCall nestedCall bundle v) = (.error (.thrown e), x) ∨
      fulfils = false ∧ v = e ∧ u = x) :
    run u (performJob engineCall ((formatReaction w).job v fulfils)) =
      (.ok (), x.promiseSet (w.heap.size + 2) (.rejected e) [(refuseReaction w).job e false]) := by
  have hk : (x.heap.at_ (w.heap.size + 2)).kind = .promise (.pending 0 [refuseReaction w]) := by
    rw [hx.formatted]
    rfl
  have hsettle := run_settle hk e false
  obtain ⟨rfl, hrun⟩ | ⟨rfl, rfl, rfl⟩ := hrun
  · exact (run_react_thrown (isFunction_formatHandler hc) (run_formatHandler_thrown hc hrun)).trans
      hsettle
  · exact run_react_undefined.trans hsettle

/-- **Second hop.** The reason settles the script's promise. -/
theorem run_passed {e : Value} (hresult : u.heap.at_ w.heap.size = newPromise)
    (hrefuse : u.heap.at_ (w.heap.size + 3) = refuseHandler w)
    (hlast : u.heap.at_ (w.heap.size + 4) = newPromise) :
    run u (performJob engineCall ((refuseReaction w).job e false)) =
      (.ok (), (u.promiseSet w.heap.size (.rejected e) []).promiseSet (w.heap.size + 4)
        (.fulfilled .undefined) []) := by
  have hk : (u.heap.at_ w.heap.size).kind = .promise (.pending 0 []) := by rw [hresult]; rfl
  have hsettle : run u (settleInRound w.heap.size 0 false e) =
      (.ok (), u.promiseSet w.heap.size (.rejected e) []) := by
    rw [run_settleInRound hk, if_neg Bool.false_ne_true, run_settle hk]
    rfl
  have hcall : run u (engineCall (.object (w.heap.size + 3)) .undefined [e]) =
      (.ok .undefined, u.promiseSet w.heap.size (.rejected e) []) := by
    rw [run_refuseHandler hrefuse, run_bind_ok hsettle]
    rfl
  have hfunction : u.heap.isFunction (.object (w.heap.size + 3)) = true := by
    simp only [Heap.isFunction, Heap.function?, hrefuse]
    rfl
  have hk' : ((u.promiseSet w.heap.size (.rejected e) []).heap.at_ (w.heap.size + 4)).kind =
      .promise (.pending 0 []) := by
    rw [promiseSet_at_ne (Nat.ne_of_gt (Nat.lt_add_of_pos_right (by decide))), hlast]
    rfl
  refine (run_react_ok hfunction hcall).trans ?_
  rw [run_resolve_plain (not_thenable_undefined _)]
  exact run_settle hk' .undefined true

end

end GuestLint.Guest

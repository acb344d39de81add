import GuestLint.Builtin.Catalog
import GuestLint.Proofs.Guest.Driver
import GuestLint.Proofs.Url.FilePath

/-!
# URLs that guests make of paths

A guest makes a URL of a path and asks for the path of the URL. The URL is an object whose text is
the one of its `href`, so what comes back is what the URL's text says.

* `urlObject`: the object that a guest gets for a URL; `run_makeUrl`.
* `run_toText_url`: the text of such an object.
* `file_url_round_trip`: the path that comes back, for functions on texts and for the guest's.
-/
namespace GuestLint.Builtin

open Guest

variable {w : World} {u : Url} {r : Ref} {d : Nat}

/-! ## The object of a URL -/

/-- The object that a guest gets for a URL. -/
def urlObject (u : Url) : Object :=
  (urlFields u).foldl (fun o f => o.put f.1 f.2) ⟨.plain, some Place.urlParent, []⟩

theorem urlObject_href (u : Url) : (urlObject u).field "href" = some (.ofChars u.href) := by
  simp [urlObject, urlFields, Object.field_put]

theorem urlObject_toString (u : Url) : (urlObject u).field "toString" = none := by
  simp only [urlObject, urlFields, List.foldl, Object.field_put]
  rfl

theorem run_makeUrl {input : String} (h : Url.parse none input = some u) :
    run w (makeUrl input) =
      (.ok (.object w.heap.size), { w with heap := w.heap.push (urlObject u) }) := by
  unfold makeUrl fillUrl readUrl
  rw [run_bind_ok (run_allocate w _), h]
  exact run_bind_ok (run_assignAll w w.heap _ (urlFields u)) _

/-! ## Its text -/

/-- The function on URLs that a value is. -/
def urlFunction? (h : Heap) (v : Value) : Option UrlFunction :=
  match h.function? v with
  | some (.url f) => some f
  | _ => none

theorem urlFunction?_eq_some {h : Heap} {v : Value} {f : UrlFunction} :
    urlFunction? h v = some f ↔ h.function? v = some (.url f) := by
  unfold urlFunction?
  split
  · rename_i g hg
    simp [hg]
  · rename_i hother
    exact iff_of_false (by simp) (hother f)

/-- The functions on URLs as a module offers them: the one that makes a URL of a path, the one that
reads the path of a URL, and the method that shows a URL. -/
structure OffersUrls (h : Heap) (toUrl toPath : Value) : Prop where
  toUrl : urlFunction? h toUrl = some .pathToFileURL
  toPath : urlFunction? h toPath = some .fileURLToPath
  shown : ((h.at_ Place.urlParent).field "toString").bind (urlFunction? h) = some .href

theorem urlFunction?_push {h : Heap} {v : Value} {f : UrlFunction} (o : Object)
    (hf : urlFunction? h v = some f) : urlFunction? (h.push o) v = some f :=
  urlFunction?_eq_some.mpr ((Heap.Grows.push h o).function? (urlFunction?_eq_some.mp hf))

theorem OffersUrls.push {h : Heap} {toUrl toPath : Value} (ho : OffersUrls h toUrl toPath)
    (o : Object) : OffersUrls (h.push o) toUrl toPath := by
  obtain ⟨method, hfield, hmethod⟩ := Option.bind_eq_some_iff.mp ho.shown
  have hne : Place.urlParent ≠ h.size := by
    intro heq
    simp [heq, Heap.at_, Object.field] at hfield
  refine ⟨urlFunction?_push o ho.toUrl, urlFunction?_push o ho.toPath, ?_⟩
  rw [Heap.at_push, if_neg hne]
  exact Option.bind_eq_some_iff.mpr ⟨method, hfield, urlFunction?_push o hmethod⟩

/-- No kind of object computes its text as a property. -/
theorem own?_toString (h : Heap) (r : Ref) :
    h.own? r "toString" = (h.at_ r).field "toString" := by
  have hindex : indexOf? "toString" = none := by decide
  unfold Heap.own? Object.field
  cases hkind : (h.at_ r).kind <;> simp [hkind, hindex]

theorem run_getProperty_href (hr : w.heap.at_ r = urlObject u) :
    run w (getProperty (.object r) "href") = (.ok (.ofChars u.href), w) := by
  have hown : w.heap.own? r "href" = some (.ofChars u.href) := by
    rw [Heap.own?_plain _ (by rw [hr]; rfl), hr, urlObject_href]
  show (Except.ok ((w.heap.find r "href").getD .undefined), w) = _
  rw [Heap.find_of_own _ hown]
  rfl

/-- A URL is shown by the method that it inherits. -/
theorem run_getProperty_toString (hr : w.heap.at_ r = urlObject u) {method : Value}
    (hfield : (w.heap.at_ Place.urlParent).field "toString" = some method) :
    run w (getProperty (.object r) "toString") = (.ok method, w) := by
  have hfind : w.heap.find r "toString" = some method := by
    refine Heap.find_of_parent (p := Place.urlParent) _ ?_ (by rw [hr]; rfl) ?_
    · rw [own?_toString, hr, urlObject_toString]
    · rw [own?_toString, hfield]
  show (Except.ok ((w.heap.find r "toString").getD .undefined), w) = _
  rw [hfind]
  rfl

/-- The text of a URL object is the text of the URL. -/
theorem run_toText_url {toUrl toPath : Value} (ho : OffersUrls w.heap toUrl toPath)
    (hr : w.heap.at_ r = urlObject u) :
    run w (toText (invoke (d + 1)) (.object r)) = (.ok (String.ofList u.href), w) := by
  obtain ⟨method, hfield, hmethod⟩ := Option.bind_eq_some_iff.mp ho.shown
  have hfunction := urlFunction?_eq_some.mp hmethod
  have htext : run w (textArg =<< getProperty (.object r) "href") =
      (.ok (String.ofList u.href), w) := by
    rw [Bind.bindLeft, run_bind_ok (run_getProperty_href hr)]
    rfl
  have hcall : run w (invoke (d + 1) method (.object r) []) =
      (.ok (.text (String.ofList u.href)), w) := by
    rw [run_invoke hfunction]
    show run w (Value.text <$> (textArg =<< getProperty (.object r) "href")) = _
    rw [← bind_pure_comp, run_bind_ok htext]
    rfl
  have hprimitive : run w (primitiveBy (invoke (d + 1)) (.object r) ["toString", "valueOf"]) =
      (.ok (.text (String.ofList u.href)), w) := by
    have hfun : w.heap.isFunction method = true := by simp [Heap.isFunction, hfunction]
    unfold primitiveBy
    rw [run_bind_ok (run_getProperty_toString hr hfield), run_bind_ok (run_heap w), if_pos hfun,
      run_bind_ok hcall]
    rfl
  unfold toText
  exact run_bind_ok hprimitive _

/-! ## Round trip -/

section
variable {path : String}

/-- A guest gets the object of the URL that is written for a rooted path. -/
theorem run_pathToFileURL (call : Call) (this : Value) (h : Path.isAbsolute path = true) :
    run w (runUrl call .pathToFileURL this [.text path]) =
      (.ok (.object w.heap.size),
        { w with heap := w.heap.push (urlObject (Url.ofCleanPath (Path.clean path))) }) := by
  have hshown : run w (shownText call (argAt [.text path] 0)) = (.ok path, w) := rfl
  unfold runUrl
  dsimp only
  rw [run_bind_ok hshown, run_bind_ok (run_get w), Url.hrefOfPath_rooted _ h]
  exact run_makeUrl (Url.parse_ofCleanPath h)

/-- A guest gets the path that the text of a URL object names. -/
theorem run_fileURLToPath {toUrl toPath : Value} (ho : OffersUrls w.heap toUrl toPath)
    (this : Value) (hr : w.heap.at_ r = urlObject u) {found : String}
    (hfound : Url.toPath (String.ofList u.href) = .ok found) :
    run w (runUrl (invoke (d + 1)) .fileURLToPath this [.object r]) = (.ok (.text found), w) := by
  have htext : run w (toText (invoke (d + 1)) (argAt [.object r] 0)) =
      (.ok (String.ofList u.href), w) := run_toText_url ho hr
  have hcount : run w (requireArgs 1 [.object r]) = (.ok (), w) := rfl
  unfold runUrl
  dsimp only
  rw [run_bind_ok hcount, run_bind_ok htext, hfound]
  rfl

/-- **Round trip.** A rooted path has a URL. The path that is read off the URL is the cleaned path,
with a separator more exactly where that ends in a letter and a colon or a bar. A guest that asks
for the path of the URL that it was given for a path gets the same. -/
theorem file_url_round_trip (h : Path.isAbsolute path = true) :
    (∀ (ε : Type) (current : Except ε String), ∃ href, Url.hrefOfPath current path = .ok href ∧
      Url.toPath href = .ok (Url.readBack (Path.clean path)) ∧
      (Url.toPath href = .ok (Path.clean path) ↔ Url.endsInDrive (Path.clean path) = false)) ∧
    ∀ w toUrl toPath d this this', OffersUrls w.heap toUrl toPath →
      ∃ w', run w (do
          let u ← invoke (d + 2) toUrl this [.text path]
          invoke (d + 2) toPath this' [u]) =
        (.ok (.text (Url.readBack (Path.clean path))), w') := by
  refine ⟨fun ε current => ⟨_, Url.hrefOfPath_rooted current h, Url.toPath_href h, ?_⟩, ?_⟩
  · rw [Url.toPath_href h, Except.ok.injEq]
    exact Url.readBack_eq_iff _
  · intro w toUrl toPath d this this' ho
    have hmade : run w (invoke (d + 2) toUrl this [.text path]) = _ :=
      (run_invoke (urlFunction?_eq_some.mp ho.toUrl) _).trans
        (run_pathToFileURL (invoke (d + 1)) this h)
    have hobject : Heap.at_ (w.heap.push (urlObject (Url.ofCleanPath (Path.clean path))))
        w.heap.size = urlObject (Url.ofCleanPath (Path.clean path)) :=
      Heap.at_push_self _ _
    rw [run_bind_ok hmade, run_invoke (urlFunction?_eq_some.mp (ho.push _).toPath)]
    exact ⟨_, run_fileURLToPath (ho.push _) this' hobject (Url.toPath_href h)⟩

end

/-- The world of a guest that has the functions on URLs. -/
def urlWorld : World :=
  (run { surroundings := bareSurroundings } (do exportUrl (← makeRecord []))).2

/-- A name with a blank and a percent sign comes back as it was. -/
theorem file_url_round_trip_blank : Path.isAbsolute "/work//50% done.yaml" = true ∧
    ∃ w', run urlWorld (do
        let u ← invoke 2 (.object 42) .undefined [.text "/work//50% done.yaml"]
        invoke 2 (.object 41) .undefined [u]) = (.ok (.text "/work/50% done.yaml"), w') := by
  have hroot : Path.isAbsolute "/work//50% done.yaml" = true := by decide
  have hback : Url.readBack (Path.clean "/work//50% done.yaml") = "/work/50% done.yaml" := by
    decide +kernel
  have hoffers : OffersUrls urlWorld.heap (.object 42) (.object 41) :=
    ⟨by decide +kernel, by decide +kernel, by decide +kernel⟩
  obtain ⟨-, hguest⟩ := file_url_round_trip hroot
  rw [hback] at hguest
  exact ⟨hroot, hguest urlWorld _ _ 0 .undefined .undefined hoffers⟩

/-- A name that ends like a drive letter does not come back: the path gets a separator, and names a
directory. -/
theorem drive_end_not_kept : Path.isAbsolute "/work/draft:" = true ∧
    Path.clean "/work/draft:" = "/work/draft:" ∧
    ∃ href, Url.hrefOfPath (.ok "/" : Except String String) "/work/draft:" = .ok href ∧
      Url.toPath href = .ok "/work/draft:/" := by
  have hroot : Path.isAbsolute "/work/draft:" = true := by decide
  have hclean : Path.clean "/work/draft:" = "/work/draft:" := by decide +kernel
  have hback : Url.readBack (Path.clean "/work/draft:") = "/work/draft:/" := by decide +kernel
  have hread := Url.toPath_href hroot
  rw [hback] at hread
  exact ⟨hroot, hclean, _, Url.hrefOfPath_rooted _ hroot, hread⟩

end GuestLint.Builtin

import GuestLint.Guest.Stringify
import GuestLint.Proofs.Guest.Promises

/-!
# Conversions and literals reach nothing hidden

A conversion of an object runs the object's own methods, so it stays within when calls do. A
literal makes new objects, and refers to what was stored.
-/
namespace GuestLint.Guest

variable {s : Seal} {n : Nat} {α : Type}

/-! ## Arguments -/

instance (required : Nat) (args : List Value) : Guards s n (requireArgs required args) := by
  unfold requireArgs
  infer_instance

instance (v : Value) (wanted : String) [Refers α] : Guards s n (refuse v wanted : Machine α) := by
  unfold refuse
  infer_instance

instance (v : Value) : Guards s n (textArg v) := by
  unfold textArg
  split <;> infer_instance

instance (v : Value) [Clear s n v] : Guards s n (functionArg v) := by
  unfold functionArg
  infer_instance

instance (v : Value) (wanted : String) : Yields s n (refuse v wanted) := by
  unfold refuse
  infer_instance

instance (v : Value) [Clear s n v] : Yields s n (objectArg v) := by
  unfold objectArg
  split <;> infer_instance

section
variable {call : Call} [Contained s call]

/-! ## Conversions -/

instance (v : Value) [Clear s n v] (names : List String) :
    Guards s n (primitiveBy call v names) := by
  induction names generalizing n with
  | nil => exact inferInstanceAs (Guards s n (raise _ _))
  | cons name rest ih =>
    have hanswer : ∀ {n} (answer : Value) [Clear s n v] [Clear s n answer],
        Guards s n (match answer with
          | .object _ => primitiveBy call v rest
          | primitive => pure primitive) := fun answer => by
      cases answer <;> infer_instance
    unfold primitiveBy
    infer_instance

instance (v : Value) [Clear s n v] : Guards s n (toText call v) := by
  unfold toText
  dsimp only
  split <;>
  · refine Guards.andThen inferInstance fun k hle primitive _ => ?_
    cases primitive <;> infer_instance

instance (v : Value) [Clear s n v] : Guards s n (shownText call v) := by
  unfold shownText
  split <;> infer_instance

instance (v : Value) [Clear s n v] : Guards s n (toNumber call v) := by
  unfold toNumber
  dsimp only
  split <;>
  · refine Guards.andThen inferInstance fun k hle primitive _ => ?_
    cases primitive <;> infer_instance

instance (v : Value) [Clear s n v] : Guards s n (toInteger call v) := by
  unfold toInteger
  infer_instance

instance (v : Value) [Clear s n v] : Guards s n (lengthOf call v) := by
  unfold lengthOf
  infer_instance

instance (v : Value) [Clear s n v] : Guards s n (elementsOf call v) := by
  unfold elementsOf
  refine Guards.andThen inferInstance fun k hle h hh => ?_
  have hitems : Clear s (holding hle hh) (h.list? v) := inferInstance
  revert hitems
  cases h.list? v with
  | some items =>
    intro hitems
    have := hitems.of_some
    exact inferInstanceAs (Guards s _ (pure items))
  | none =>
    intro _
    dsimp only
    infer_instance

instance (v : Value) [Clear s n v] (separator : String) :
    Guards s n (joinElements call v separator) := by
  unfold joinElements
  infer_instance

instance (v : Value) [Clear s n v] : Guards s n (errorText call v) := by
  have hpart : ∀ {n} (name missing : String) [Clear s n v], Guards s n (do
      match ← getProperty v name with
      | .undefined => pure missing
      | value => toText call value : Machine String) := fun name missing => by
    refine Guards.andThen inferInstance fun k hle part _ => ?_
    cases part <;> infer_instance
  unfold errorText
  dsimp only
  infer_instance

/-! ## JSON and literals -/

instance [Refers α] : Guards s n (overflow : Machine α) := by
  unfold overflow
  infer_instance

instance (key : String) (v : Value) [Clear s n v] : Guards s n (standIn call key v) := by
  unfold standIn
  split <;> infer_instance

instance (fuel : Nat) (path : List Ref) (key : String) (v : Value) [Clear s n v] :
    Guards s n (jsonChars call fuel path key v) := by
  induction fuel generalizing n path key v with
  | zero =>
    unfold jsonChars
    infer_instance
  | succ fuel ih =>
    unfold jsonChars
    refine Guards.andThen inferInstance fun k hle v hv => ?_
    have hlist : ∀ {n} (r : Ref) [Visible s n r] (parts : Option (List Value)) [Clear s n parts],
        Guards s n (match parts with
        | some items => do
          let texts ← items.zipIdx.mapM fun (item, i) => do
            let text ← jsonChars call fuel (r :: path) (String.ofList (Text.digits 10 i)) item
            pure (text.getD "null".toList)
          pure (some (bracketed '[' ']' texts))
        | none => do
          let texts ← ((← heap).at_ r).ownNames.mapM fun name => do
            let text ← jsonChars call fuel (r :: path) name (← getProperty (.object r) name)
            pure (text.map fun t => Json.quote name ++ ':' :: t)
          pure (some (bracketed Json.openBrace Json.closeBrace (texts.filterMap id)))) := by
      intro n r hr parts hparts
      cases parts with
      | some items =>
        have := hparts.of_some
        infer_instance
      | none => infer_instance
    cases v <;> infer_instance

instance (v : Value) [Clear s n v] : Guards s n (stringify call v) := by
  unfold stringify
  infer_instance

end

instance (content : Bytes) (parent : Ref) [Visible s n parent] :
    Guards s n (makeBytes content parent) := by
  unfold makeBytes
  infer_instance

instance (name : String) : Guards s n (makeIdle name) := by
  unfold makeIdle
  infer_instance

/-- A new symbol. -/
instance (description : String) : Guards s n (modifyGet fun w =>
    (.symbol w.nextSymbol description, { w with nextSymbol := w.nextSymbol + 1 }) :
      Machine Value) :=
  .draw (fun _ _ => trivial)
    (.changePlain fun _ => rfl)

mutual

theorem guards_build {n : Nat} : ∀ l : Literal, Guards s n l.build
  | .undefined | .null | .boolean _ | .number _ | .big _ | .text _ | .function _ | .probe _ _
  | .stored _ | .bytes _ | .byteStore _ | .buffer _ | .circular | .unprintable _ | .bare
  | .global | .symbol _ => by unfold Literal.build; infer_instance
  | .list items => by
    have := guards_buildAll (n := n) items
    unfold Literal.build
    infer_instance
  | .record fields => by
    have : ∀ n r [Visible s n r], Guards s n (setFields r fields) :=
      fun _ r _ => guards_setFields r fields
    unfold Literal.build
    infer_instance
  | .error message name stack properties => by
    have := fun n => guards_build (n := n) stack
    have : ∀ n r [Visible s n r], Guards s n (setFields r properties) :=
      fun _ r _ => guards_setFields r properties
    unfold Literal.build
    refine Guards.andThenAt inferInstance fun k hle r _ => ?_
    cases name <;> infer_instance
  | .callbackStyle error value times => by
    have := fun n => guards_build (n := n) error
    have := fun n => guards_build (n := n) value
    unfold Literal.build
    infer_instance

theorem guards_buildAll {n : Nat} : ∀ items : List Literal, Guards s n (buildAll items)
  | [] => by unfold buildAll; infer_instance
  | item :: rest => by
    have := fun n => guards_build (n := n) item
    have := fun n => guards_buildAll (n := n) rest
    unfold buildAll
    infer_instance

theorem guards_setFields {n : Nat} (r : Ref) [Visible s n r] :
    ∀ fields : List (String × Literal), Guards s n (setFields r fields)
  | [] => by unfold setFields; infer_instance
  | (name, item) :: rest => by
    have := fun n => guards_build (n := n) item
    have : ∀ n [Visible s n r], Guards s n (setFields r rest) := fun _ _ => guards_setFields r rest
    unfold setFields
    infer_instance

end

instance (l : Literal) : Guards s n l.build := guards_build l

instance (items : List Literal) : Guards s n (buildAll items) := guards_buildAll items

instance (settling : Settling) : Guards s n settling.build := by
  cases settling <;>
  · unfold Settling.build
    infer_instance

end GuestLint.Guest

import GuestLint.Modules.Source
/-!
# Requiring modules

The rule by which a module is loaded at most once. A module is entered into the cache before its
body runs, so that modules may require each other in cycles, and it is taken out again when its
body fails, so that a later require runs the body anew.

The rule is written for any monad over a `Cache`, which says how names are resolved, how entries
are kept and how a body is run; a body may require further modules.
-/
namespace GuestLint.Modules

/-- What the rule needs: entries of type `M`, exports of type `V` and failures of type `E`. -/
structure Cache (m : Type → Type) (M V : Type) where
  /-- The identity that a name stands for. -/
  resolve : String → m String
  lookup : String → m (Option M)
  /-- Makes an entry that is not loaded, with empty exports. -/
  fresh : String → m M
  store : String → M → m Unit
  evict : String → m Unit
  /-- Runs the body of a module. -/
  run : String → M → m Unit
  markLoaded : M → m Unit
  exports : M → m V

namespace Cache

variable {m : Type → Type} [Monad m] {E M V : Type} [MonadExceptOf E m] (cache : Cache m M V)

/-- Loads a module that is not in the cache. -/
def load (E : Type) [MonadExceptOf E m] (id : String) : m V := do
  let entry ← cache.fresh id
  cache.store id entry
  tryCatchThe E (cache.run id entry) fun e => do
    cache.evict id
    throwThe E e
  cache.markLoaded entry
  cache.exports entry

/-- The exports of a module, which is loaded when it is not in the cache. -/
def require (E : Type) [MonadExceptOf E m] (name : String) : m V := do
  let id ← cache.resolve name
  match ← cache.lookup id with
  | some entry => cache.exports entry
  | none => cache.load E id

end Cache
end GuestLint.Modules

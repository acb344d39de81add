import GuestLint.Guest.Convert
/-!
# Promises and jobs

A promise settles once. Its reactions, and all other work that a guest puts off, go through one job
queue, which is run from the front.

* `resolve`: settles a promise with a value, or binds it to an object that has a `then` method.
* `runJob`: runs the first job of the queue.
-/
namespace GuestLint.Guest

variable (call : Call)

def enqueue (job : Job) : Machine Unit :=
  modify fun w => { w with jobs := w.jobs ++ [job] }

def makePromise : Machine Ref :=
  allocate ⟨.promise (.pending 0 []), some Place.promiseParent, []⟩

def promiseState? (r : Ref) : Machine (Option PromiseState) := do
  match ((← heap).at_ r).kind with
  | .promise state => pure (some state)
  | _ => pure none

def setPromise (r : Ref) (state : PromiseState) : Machine Unit :=
  modifyObject r fun o => { o with kind := .promise state }

/-- The job that a reaction to a settled promise stands for. -/
def Reaction.job (reaction : Reaction) (value : Value) (fulfils : Bool) : Job :=
  .react (if fulfils then reaction.onFulfilled else reaction.onRejected) value fulfils
    reaction.derived

/-- Settles a pending promise, and queues its reactions. -/
def settle (r : Ref) (value : Value) (fulfils : Bool) : Machine Unit := do
  match ← promiseState? r with
  | some (.pending _ reactions) =>
    setPromise r (if fulfils then .fulfilled value else .rejected value)
    for reaction in reactions do
      enqueue (reaction.job value fulfils)
  | _ => pure ()

def reject (r : Ref) (reason : Value) : Machine Unit :=
  settle r reason false

/-- Settles a pending promise with a value, or binds it to the value when that has a `then`
method. -/
def resolve (r : Ref) (value : Value) : Machine Unit := do
  match value with
  | .object _ =>
    match ← attempt (getProperty value "then") with
    | .error e => reject r e
    | .ok method =>
      if (← heap).isFunction method then
        match ← promiseState? r with
        | some (.pending round reactions) =>
          setPromise r (.pending (round + 1) reactions)
          enqueue (.adopt r (round + 1) value method)
        | _ => pure ()
      else settle r value true
  | _ => settle r value true

/-- What a settling function of some round does. -/
def settleInRound (r : Ref) (round : Nat) (fulfils : Bool) (value : Value) : Machine Unit := do
  match ← promiseState? r with
  | some (.pending current _) =>
    if current = round then
      if fulfils then resolve r value else reject r value
    else pure ()
  | _ => pure ()

/-- Adds handlers to a promise, and answers the promise of their result. -/
def addReaction (r : Ref) (onFulfilled onRejected : Value) : Machine Ref := do
  let derived ← makePromise
  let reaction : Reaction := ⟨onFulfilled, onRejected, derived⟩
  match ← promiseState? r with
  | some (.pending round reactions) => setPromise r (.pending round (reactions ++ [reaction]))
  | some (.fulfilled value) => enqueue (reaction.job value true)
  | some (.rejected reason) => enqueue (reaction.job reason false)
  | none => raise "TypeError" "not a promise"
  pure derived

def performJob : Job → Machine Unit
  | .react handler argument fulfils derived => do
    if (← heap).isFunction handler then
      match ← attempt (call handler .undefined [argument]) with
      | .ok value => resolve derived value
      | .error e => reject derived e
    else settle derived argument fulfils
  | .adopt promise round thenable method => do
    let fulfil ← makeFunction "" (.settle promise round true)
    let refuse ← makeFunction "" (.settle promise round false)
    match ← attempt (call method thenable [.object fulfil, .object refuse]) with
    | .ok _ => pure ()
    | .error e => settleInRound promise round false e
  | .invoke f args => do
    let _ ← attempt (call f .undefined args)
  | .settleAfter turns promise value fulfils =>
    match turns with
    | 0 => if fulfils then resolve promise value else reject promise value
    | turns + 1 => enqueue (.settleAfter turns promise value fulfils)
  | .spin => enqueue .spin

/-- Runs the first job of the queue; answers whether there was one. -/
def runJob : Machine Bool := do
  match (← get).jobs with
  | [] => pure false
  | job :: rest =>
    modify fun w => { w with jobs := rest }
    performJob call job
    pure true

/-- Runs jobs until none is left, at most as many as `fuel`. -/
def runJobs : (fuel : Nat) → Machine Unit
  | 0 => throw .endless
  | fuel + 1 => do
    if ← runJob call then runJobs fuel else pure ()

end GuestLint.Guest

import GuestLint.Guest.Convert
/-!
# Capturing exceptions

Takes what is to be kept of a thrown value out of the guest: its text, its stack, and the name of
the module that was not found.
-/
namespace GuestLint.Guest

open Diagnostics (Captured)

/-- The text that a property of an object holds. -/
def objectText? (v : Value) (name : String) : Machine (Option String) := do
  match v with
  | .object _ =>
    match ← getProperty v name with
    | .text s => pure (some s)
    | _ => pure none
  | _ => pure none

/-- What is kept of a thrown value. -/
def capture (call : Call) (thrown : Value) : Machine Captured := do
  let text ← match ← attempt (toText call thrown) with
    | .ok text => pure (some text)
    | .error _ => pure none
  let stack ← objectText? thrown "stack"
  let missing ← objectText? thrown "moduleName"
  pure (Captured.ofThrown (← get).registry.sources text stack missing)

/-- The text of a value, or the word for its type when it has none. -/
def describe (call : Call) (v : Value) : Machine String := do
  match ← attempt (toText call v) with
  | .ok text => pure text
  | .error _ => do pure ("<" ++ (← heap).kindWord v ++ ">")

end GuestLint.Guest

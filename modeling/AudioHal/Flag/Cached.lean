import AudioHal.Flag.Event
import AudioHal.Flag.Source

/-! # Cached flags

A flag that asks its source once, when it is first wanted, and keeps the value from then on.

* `Flag.resolve`: the value that an answer gives a flag, and the event that goes with it.
* `Flag.Cached.get`: the value of a flag.
* `Flag.Cached.get_of_peek_eq_some`: a flag that is known stays as it is.
-/

set_option autoImplicit false

namespace AudioHal.Flag

/-- The value that an answer gives a flag, and the event that goes with it. -/
def resolve (name : String) (fallback : Bool) : Answer → Bool × Event
  | .ok (some enabled) => (enabled, .resolved name enabled .source)
  | .ok none => (fallback, .resolved name fallback .default)
  | .error failure => (fallback, .failed name fallback failure)

/-- A flag that asks its source once. -/
structure Cached (S : Type) where
  name : String
  /-- The value where the source says nothing or fails. -/
  fallback : Bool
  source : S
  /-- The value, once it is known. -/
  value? : Option Bool

namespace Cached

variable {S : Type}

/-- A flag whose source has not been asked. -/
def new (name : String) (fallback : Bool) (source : S) : Cached S :=
  ⟨name, fallback, source, none⟩

/-- The value, if it is known; the source is not asked. -/
def peek (f : Cached S) : Option Bool :=
  f.value?

/-- Whether the value is known. -/
def isKnown (f : Cached S) : Bool :=
  f.value?.isSome

/-- The value and the flag that knows it, with the events on the way. The source is asked only if
the value is not known. -/
def get [Source S] (host : Host) (f : Cached S) : Bool × Cached S × List Event :=
  match f.value? with
  | some b => (b, f, [])
  | none =>
    let (b, event) := resolve f.name f.fallback (Source.read host f.source f.name)
    (b, { f with value? := some b }, [event])

/-- A flag that is known stays as it is, whatever the host has become. -/
theorem get_of_peek_eq_some [Source S] {host : Host} {f : Cached S} {b : Bool}
    (h : f.peek = some b) : f.get host = (b, f, []) := by
  rw [peek] at h
  simp only [get, h]

theorem peek_get [Source S] (host : Host) (f : Cached S) :
    (f.get host).2.1.peek = some (f.get host).1 := by
  unfold get
  split
  · rename_i b h
    exact h
  · rfl

theorem isKnown_eq (f : Cached S) : f.isKnown = f.peek.isSome :=
  rfl

end Cached

end AudioHal.Flag

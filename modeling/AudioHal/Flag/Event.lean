import AudioHal.Flag.Failure

/-! # Events

What flags leave in the log.
-/

set_option autoImplicit false

namespace AudioHal.Flag

/-- Where the value of a flag comes from. -/
inductive Origin
  /-- From the source. -/
  | source
  /-- From the default, because the source said nothing. -/
  | default
deriving DecidableEq

/-- An entry of the log. -/
inductive Event
  /-- A flag has its value. -/
  | resolved (flag : String) (enabled : Bool) (origin : Origin)
  /-- A flag has its default value, because the source failed. -/
  | failed (flag : String) (enabled : Bool) (failure : Failure)
  /-- A process is told to look into a file. -/
  | fileConfigured (path : Path)
deriving DecidableEq

/-- How much an event matters. -/
inductive Level
  | debug
  | warning
deriving DecidableEq

namespace Event

/-- How much an event matters. -/
def level : Event → Level
  | .resolved .. => .debug
  | .failed .. => .warning
  | .fileConfigured .. => .debug

/-- The wording of an event. -/
def message : Event → String
  | .resolved .. => "feature flag resolved"
  | .failed .. => "feature flag source failed; using default"
  | .fileConfigured .. => "flag file configured"

end Event

/-- The word for an origin. -/
def Origin.name : Origin → String
  | .source => "source"
  | .default => "default"

end AudioHal.Flag

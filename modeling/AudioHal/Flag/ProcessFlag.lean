import AudioHal.Flag.Race

/-! # The flag of a process

One flag belongs to the process as a whole: whether its locks lend their holders the priority of
those who wait. It can be wanted where nothing can be handed in, so its sources are fixed: an
environment variable first, then the file that another variable names. Both are looked at once, when
the flag is first wanted.

* `Flag.configuredSource`: the source, as the environment has it now.
* `Flag.ProcessFlag`: the state of the flag; `Flag.ProcessFlag.enabled` is its value.
-/

set_option autoImplicit false

namespace AudioHal.Flag

/-- The name of the flag. -/
def priorityInheritance : String := "mutex_priority_inheritance"

/-- How the names of flag variables begin. -/
def variableStem : String := "SPARK_AUDIO_FLAG_"

/-- The variable that names a file of flags. -/
def fileVariable : String := "SPARK_AUDIO_FLAGS_FILE"

/-- The file of flags, if one is named; an empty name names none. -/
def configuredFile? (env : Environment) : Option Path :=
  match env.get? (Utf8.encode fileVariable) with
  | some bytes => if bytes.isEmpty then none else some ⟨bytes⟩
  | none => none

/-- The source of a process, and the events of making it. -/
def configuredSource (env : Environment) : Tree Leaf × List Event :=
  let base : Tree Leaf := .layered [.leaf (.environment variableStem)]
  match configuredFile? env with
  | some path => (base.layer (.leaf (.file path)), [.fileConfigured path])
  | none => (base, [])

/-- The flag of a process: not wanted yet, or made. -/
structure ProcessFlag where
  flag? : Option (Cached (Tree Leaf))

namespace ProcessFlag

/-- A process in which the flag was never wanted. -/
def fresh : ProcessFlag := ⟨none⟩

/-- The flag, made if it is not there, and the events of making it. -/
def flag (host : Host) (p : ProcessFlag) : Cached (Tree Leaf) × List Event :=
  match p.flag? with
  | some f => (f, [])
  | none =>
    let (source, events) := configuredSource host.environment
    (.new priorityInheritance false source, events)

/-- The value of the flag, with the process that knows it and the events on the way. -/
def enabled (host : Host) (p : ProcessFlag) : Bool × ProcessFlag × List Event :=
  let (f, made) := p.flag host
  let (b, f, events) := f.get host
  (b, ⟨some f⟩, made ++ events)

/-- The values that `n` threads get who want the flag at once. -/
def enabledMany (host : Host) (p : ProcessFlag) (n : Nat) : List Bool × ProcessFlag × List Event :=
  if n = 0 then ([], p, [])
  else
    let (f, made) := p.flag host
    let (bs, f, events) := f.getMany host n
    (bs, ⟨some f⟩, made ++ events)

end ProcessFlag

end AudioHal.Flag

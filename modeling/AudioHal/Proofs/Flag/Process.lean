import AudioHal.Flag.ProcessFlag
import AudioHal.Proofs.Flag.Layers
import AudioHal.Proofs.Flag.Together

/-! # The flag of a process, once and for all

What the flag of a process is follows from two variables and a file, as they are when it is first
wanted; what happens to them later does not matter.

* `Flag.read_configuredSource`: the variable first, then the file.
* `Flag.ProcessFlag.fresh_enabled`: the first call evaluates the flag and keeps the outcome.
* `Flag.ProcessFlag.enabled_known`, `Flag.ProcessFlag.enabledMany_eq`: every later call, and calls
  by several threads at once.
* `Flag.ProcessFlag.Life`: a process among changes of its host; `Flag.ProcessFlag.Life.run_start`
  says what its first call makes of it.
* `Flag.ProcessFlag.fresh_enabled_eq_true_iff`: when the flag is on.
* `Flag.ProcessFlag.fixed_at_first_call`: all of it together.
-/

set_option autoImplicit false

namespace AudioHal.Flag

/-! ## Sources of a process -/

theorem variableName_priorityInheritance :
    variableName variableStem priorityInheritance =
      "SPARK_AUDIO_FLAG_MUTEX_PRIORITY_INHERITANCE" := by
  decide +kernel

theorem configuredFile?_eq_some_iff {env : Environment} {path : Path} :
    configuredFile? env = some path ↔
      env.get? (Utf8.encode fileVariable) = some path.bytes ∧ path.bytes ≠ [] := by
  obtain ⟨bytes⟩ := path
  unfold configuredFile?
  cases env.get? (Utf8.encode fileVariable) with
  | none => simp
  | some name =>
    cases name with
    | nil => simp
    | cons c cs =>
      have hne : bytes = c :: cs → bytes ≠ [] := by
        rintro rfl
        exact List.cons_ne_nil c cs
      simpa [eq_comm] using hne

theorem read_configuredSource (host : Host) (flag : String) :
    Source.read host (configuredSource host.environment).1 flag =
      Answer.otherwise (readVariable host.environment variableStem flag)
        (match configuredFile? host.environment with
          | some path => Leaf.read host (.file path) flag
          | none => .ok none) := by
  let ask := fun l : Leaf => Source.read host l flag
  have hask : ∀ l, ask l = Leaf.read host l flag := fun _ => rfl
  show ((configuredSource host.environment).1.consult ask).1 = _
  unfold configuredSource
  cases configuredFile? host.environment with
  | none =>
    simp only [Tree.consult, Tree.consultAll_cons, Tree.consultAll_nil, Tree.next_fst, hask,
      Leaf.read]
  | some path =>
    simp only [Tree.layer, Tree.layers, Tree.consult, List.cons_append, List.nil_append,
      Tree.consultAll_cons, Tree.consultAll_nil, Tree.next_nothing, Tree.next_fst, hask, Leaf.read]

theorem read_file_eq_some_iff {host : Host} {path : Path} {flag : String} {b : Bool} :
    Leaf.read host (.file path) flag = .ok (some b) ↔
      ∃ text settings, host.files.readText path = .ok text ∧
        parse text path.display = .ok settings ∧ settings.get? flag = some b := by
  have hload : Leaf.read host (.file path) flag = .ok (some b) ↔
      ∃ settings, load host.files path = .ok settings ∧ settings.get? flag = some b := by
    rw [Leaf.read]
    cases load host.files path <;> simp [Except.map]
  rw [hload]
  constructor
  · rintro ⟨settings, hl, hb⟩
    obtain ⟨text, ht, hp⟩ := load_eq_ok_iff.1 hl
    exact ⟨text, settings, ht, hp, hb⟩
  · rintro ⟨text, settings, ht, hp, hb⟩
    exact ⟨settings, load_eq_ok_iff.2 ⟨text, ht, hp⟩, hb⟩

/-- The file counts only where the variable is not set at all. -/
theorem read_configuredSource_eq_some_iff {host : Host} {flag : String} {b : Bool} :
    Source.read host (configuredSource host.environment).1 flag = .ok (some b) ↔
      readVariable host.environment variableStem flag = .ok (some b) ∨
        readVariable host.environment variableStem flag = .ok none ∧
          ∃ path, configuredFile? host.environment = some path ∧
            Leaf.read host (.file path) flag = .ok (some b) := by
  rw [read_configuredSource, Answer.otherwise_eq_ok_some_iff]
  cases configuredFile? host.environment <;> simp

theorem configuredSource_events (env : Environment) :
    (configuredSource env).2 = ((configuredFile? env).map Event.fileConfigured).toList := by
  unfold configuredSource
  cases configuredFile? env <;> rfl

theorem configuredSource_events_cases (env : Environment) :
    (∃ path, env.get? (Utf8.encode fileVariable) = some path.bytes ∧ path.bytes ≠ [] ∧
      (configuredSource env).2 = [.fileConfigured path]) ∨
    (env.get? (Utf8.encode fileVariable) = none ∨
      env.get? (Utf8.encode fileVariable) = some []) ∧ (configuredSource env).2 = [] := by
  rw [configuredSource_events]
  cases hp : configuredFile? env with
  | some path =>
    obtain ⟨hfile, hne⟩ := configuredFile?_eq_some_iff.1 hp
    exact .inl ⟨path, hfile, hne, rfl⟩
  | none =>
    refine .inr ⟨?_, rfl⟩
    cases hfile : env.get? (Utf8.encode fileVariable) with
    | none => exact .inl rfl
    | some name =>
      have hname : ¬name ≠ [] := fun hn => by
        have hs : configuredFile? env = some ⟨name⟩ := configuredFile?_eq_some_iff.2 ⟨hfile, hn⟩
        rw [hp] at hs
        cases hs
      exact .inr (congrArg some (Decidable.not_not.1 hname))

/-! ## Outcomes -/

section
variable {name : String} {fallback : Bool} {a : Answer}

theorem resolve_eq_true_iff : (resolve name false a).1 = true ↔ a = .ok (some true) := by
  rcases a with e | _ | x <;> simp [resolve]

/-- A flag is resolved, or its source has failed and the default counts. -/
theorem resolve_event : let (b, e) := resolve name fallback a
    (e.level = .debug ∧ ∃ origin, e = .resolved name b origin) ∨
      (e.level = .warning ∧ b = fallback ∧ ∃ failure, e = .failed name fallback failure) := by
  rcases a with f | _ | x
  · exact .inr ⟨rfl, rfl, f, rfl⟩
  · exact .inl ⟨rfl, .default, rfl⟩
  · exact .inl ⟨rfl, .source, rfl⟩

end

namespace ProcessFlag

/-- The value of the flag, if the process knows it. -/
def value? (p : ProcessFlag) : Option Bool :=
  p.flag?.bind Cached.peek

/-- The first call evaluates the flag and keeps the outcome. -/
theorem fresh_enabled (host : Host) :
    let source := (configuredSource host.environment).1
    let outcome := resolve priorityInheritance false
      (Source.read host source priorityInheritance)
    fresh.enabled host = (outcome.1,
      ⟨some { Cached.new priorityInheritance false source with value? := some outcome.1 }⟩,
      (configuredSource host.environment).2 ++ [outcome.2]) :=
  rfl

theorem value?_enabled (host : Host) (p : ProcessFlag) :
    (p.enabled host).2.1.value? = some (p.enabled host).1 :=
  Cached.peek_get host (p.flag host).1

section
variable {p : ProcessFlag} {b : Bool}

/-- Where the value is known a call has no effect, whatever the host has become. -/
theorem enabled_known (h : p.value? = some b) (host : Host) : p.enabled host = (b, p, []) := by
  obtain ⟨_ | f⟩ := p
  · cases h
  · have hf : f.peek = some b := h
    simp only [enabled, flag, Cached.get_of_peek_eq_some hf, List.append_nil]

theorem enabledMany_eq {n : Nat} (hn : 0 < n) (host : Host) (p : ProcessFlag) :
    p.enabledMany host n = (.replicate n (p.enabled host).1, (p.enabled host).2) := by
  simp only [enabledMany, enabled, Nat.ne_of_gt hn, ↓reduceIte, Cached.getMany_eq hn]

end

/-! ## Lives -/

/-- What can happen to a process. -/
inductive Step
  /-- Its host changes. -/
  | change (c : Host.Change)
  /-- Somebody wants the flag. -/
  | call
  /-- Several threads want it at once. -/
  | callMany (n : Nat)

/-- How often a step wants the flag. -/
def Step.calls : Step → Nat
  | .change _ => 0
  | .call => 1
  | .callMany n => n

/-- How often a list of steps does. -/
def Step.total : List Step → Nat
  | [] => 0
  | s :: steps => s.calls + total steps

/-- A process in its host, with the values handed out and the events so far. -/
structure Life where
  host : Host
  flag : ProcessFlag
  returned : List Bool
  log : List Event

namespace Life

/-- A process in which nothing has happened yet. -/
def start (host : Host) : Life :=
  ⟨host, fresh, [], []⟩

/-- The effect of a step. -/
def take (l : Life) : Step → Life
  | .change c => { l with host := l.host.after c }
  | .call =>
    let (b, flag, events) := l.flag.enabled l.host
    ⟨l.host, flag, l.returned ++ [b], l.log ++ events⟩
  | .callMany n =>
    let (bs, flag, events) := l.flag.enabledMany l.host n
    ⟨l.host, flag, l.returned ++ bs, l.log ++ events⟩

/-- The effect of one step after another. -/
def run (l : Life) (steps : List Step) : Life :=
  steps.foldl take l

/-- Steps that want the flag are all alike. -/
theorem take_of_calls {s : Step} (hs : 0 < s.calls) (l : Life) :
    l.take s = ⟨l.host, (l.flag.enabled l.host).2.1,
      l.returned ++ .replicate s.calls (l.flag.enabled l.host).1,
      l.log ++ (l.flag.enabled l.host).2.2⟩ := by
  cases s with
  | change c => cases hs
  | call => rfl
  | callMany n =>
    have hn : 0 < n := hs
    simp only [take, enabledMany_eq hn, Step.calls]

theorem take_known {l : Life} {b : Bool} (h : l.flag.value? = some b) (s : Step) :
    (l.take s).flag = l.flag ∧ (l.take s).log = l.log ∧
      (l.take s).returned = l.returned ++ .replicate s.calls b := by
  -- a step without calls is a change of the host, or threads of which there are none
  cases hs : s.calls with
  | zero =>
    cases s with
    | change c => exact ⟨rfl, rfl, (List.append_nil _).symm⟩
    | call => cases hs
    | callMany n =>
      cases hs
      simp [take, enabledMany]
  | succ n =>
    rw [take_of_calls (by omega), enabled_known h, hs]
    exact ⟨rfl, List.append_nil _, rfl⟩

theorem run_known {l : Life} {b : Bool} (h : l.flag.value? = some b) (steps : List Step) :
    (l.run steps).flag = l.flag ∧ (l.run steps).log = l.log ∧
      (l.run steps).returned = l.returned ++ .replicate (Step.total steps) b := by
  induction steps generalizing l with
  | nil => exact ⟨rfl, rfl, (List.append_nil _).symm⟩
  | cons s steps ih =>
    obtain ⟨hf, hl, hr⟩ := take_known h s
    have hrun : l.run (s :: steps) = (l.take s).run steps := rfl
    obtain ⟨hf', hl', hr'⟩ := ih (l := l.take s) (by rw [hf]; exact h)
    rw [hrun, hf', hl', hr', hf, hl, hr, List.append_assoc, List.replicate_append_replicate]
    exact ⟨rfl, rfl, rfl⟩

theorem run_start {host : Host} {first : Step} (hf : 0 < first.calls) (steps : List Step) :
    let life := (start host).run (first :: steps)
    life.flag = (fresh.enabled host).2.1 ∧ life.log = (fresh.enabled host).2.2 ∧
      life.returned = .replicate (Step.total (first :: steps)) (fresh.enabled host).1 := by
  have htake := take_of_calls hf (start host)
  have hknown : ((start host).take first).flag.value? = some (fresh.enabled host).1 := by
    rw [htake]
    exact value?_enabled host fresh
  obtain ⟨hflag, hlog, hreturned⟩ := run_known hknown steps
  intro life
  have hlife : life = ((start host).take first).run steps := rfl
  rw [hlife, hreturned, hlog, hflag, htake, Step.total, ← List.replicate_append_replicate]
  exact ⟨rfl, rfl, rfl⟩

end Life

/-! ## The first call -/

/-- On is what the variable or, in its absence, the file tells; everything else is off. -/
theorem fresh_enabled_eq_true_iff (host : Host) : (fresh.enabled host).1 = true ↔
    readVariable host.environment variableStem priorityInheritance = .ok (some true) ∨
      readVariable host.environment variableStem priorityInheritance = .ok none ∧
        ∃ path, configuredFile? host.environment = some path ∧
          Leaf.read host (.file path) priorityInheritance = .ok (some true) := by
  rw [fresh_enabled, resolve_eq_true_iff, read_configuredSource_eq_some_iff]

/-- **The flag of a process is what its first call finds, and stays so.** It is on if the variable
says so, or if there is no such variable and the file says so; in all other cases it is off. The
log tells of a file that is named, then of the outcome, and of nothing else ever after: whatever
happens to the host, and in whatever order threads call, all calls have the value of the first. -/
theorem fixed_at_first_call (host : Host) :
    let flag := "mutex_priority_inheritance"
    let variableBytes := host.environment.get?
      (Utf8.encode "SPARK_AUDIO_FLAG_MUTEX_PRIORITY_INHERITANCE")
    let fileName := host.environment.get? (Utf8.encode "SPARK_AUDIO_FLAGS_FILE")
    let (b, after, events) := fresh.enabled host
    (b = true ↔
      (∃ bytes text, variableBytes = some bytes ∧ Utf8.decode? bytes = some text ∧
        readBool flag text = .ok true) ∨
      variableBytes = none ∧ ∃ path text settings, fileName = some path.bytes ∧ path.bytes ≠ [] ∧
        host.files.readText path = .ok text ∧ parse text path.display = .ok settings ∧
        settings.get? flag = some true) ∧
    b = ((Cached.new flag false (configuredSource host.environment).1).get host).1 ∧
    (∃ made e, events = made ++ [e] ∧
      ((∃ path, fileName = some path.bytes ∧ path.bytes ≠ [] ∧ made = [.fileConfigured path]) ∨
        (fileName = none ∨ fileName = some []) ∧ made = []) ∧
      ((e.level = .debug ∧ ∃ origin, e = .resolved flag b origin) ∨
        (e.level = .warning ∧ b = false ∧ ∃ failure, e = .failed flag false failure))) ∧
    (∃ f, after.flag? = some f ∧ ∀ (elsewhere : Host) (schedule : List Race.Move),
      let r := (Race.start elsewhere f).run schedule
      r.flag = f ∧ r.readings = [] ∧ r.log = [] ∧ (∀ x ∈ r.returned, x = b) ∧
        ∀ i, r.threads i = .waiting → (r.take (.wake i)).returned = r.returned ++ [b]) ∧
    ∀ first steps, 0 < first.calls →
      let life := (Life.start host).run (first :: steps)
      life.flag = after ∧ life.log = events ∧
        life.returned = .replicate (Step.total (first :: steps)) b := by
  intro flag variableBytes fileName
  have hon := fresh_enabled_eq_true_iff host
  rw [readVariable_eq_some_iff, readVariable_eq_none_iff, variableName_priorityInheritance] at hon
  refine ⟨hon.trans ?on, rfl,
    ⟨_, _, rfl, configuredSource_events_cases host.environment, resolve_event⟩,
    ⟨_, rfl, fun elsewhere => Race.run_start_known elsewhere rfl⟩,
    fun first steps hf => Life.run_start hf steps⟩
  refine or_congr Iff.rfl (and_congr_right fun _ => ?_)
  constructor
  · rintro ⟨path, hp, hr⟩
    obtain ⟨hfile, hne⟩ := configuredFile?_eq_some_iff.1 hp
    obtain ⟨text, settings, ht, hs, hb⟩ := read_file_eq_some_iff.1 hr
    exact ⟨path, text, settings, hfile, hne, ht, hs, hb⟩
  · rintro ⟨path, text, settings, hfile, hne, ht, hs, hb⟩
    exact ⟨path, configuredFile?_eq_some_iff.2 ⟨hfile, hne⟩,
      read_file_eq_some_iff.2 ⟨text, settings, ht, hs, hb⟩⟩

end ProcessFlag

end AudioHal.Flag

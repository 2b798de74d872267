import AudioHal.Flag.Race

/-! # The stages of an evaluation

A flag among threads goes through five stages, and what a race has recorded is a function of the
stage it is in.

* `Flag.Race.Stage`: how far the evaluation has come, by whom and in which host.
* `Flag.Race.At`: the invariant; a race is at a stage.
* `Flag.Race.At.take`: a move keeps the stage or leads to the next one (`Flag.Race.Next`).
* `Flag.Race.At.run`: every schedule ends at some stage.
* `Flag.Race.At.can_return`: from every stage some schedule hands out a value.
-/

set_option autoImplicit false

namespace AudioHal.Flag

/-- A thread that has no part in the evaluation. -/
def Thread.AtRest (t : Thread) : Prop :=
  t = .idle ∨ t = .waiting

namespace Race

variable {S : Type} [Source S]

/-- How far the evaluation of a flag has come. -/
inductive Stage
  /-- Nobody has wanted the value. -/
  | untouched
  /-- A thread is responsible for the value. -/
  | chosen (thread : Nat)
  /-- It has asked the source, which looked at a host. -/
  | asked (thread : Nat) (host : Host)
  /-- It has written to the log. -/
  | told (thread : Nat) (host : Host)
  /-- The value is known. -/
  | known (host : Host)

/-- What the source of a flag says in a host. -/
def answerIn (f : Cached S) (h : Host) : Answer :=
  Source.read h f.source f.name

/-- What comes of asking the source of a flag in a host: a value and an event. -/
def outcome (f : Cached S) (h : Host) : Bool × Event :=
  resolve f.name f.fallback (answerIn f h)

namespace Stage

/-- The value, once it is known. -/
def value? (f : Cached S) : Stage → Option Bool
  | .untouched | .chosen _ | .asked .. | .told .. => none
  | .known h => some (outcome f h).1

/-- What the source was asked. -/
def readings (f : Cached S) : Stage → List (Host × Answer)
  | .untouched | .chosen _ => []
  | .asked _ h | .told _ h | .known h => [(h, answerIn f h)]

/-- What is in the log. -/
def log (f : Cached S) : Stage → List Event
  | .untouched | .chosen _ | .asked .. => []
  | .told _ h | .known h => [(outcome f h).2]

/-- The responsible thread and what it is about. -/
def duty? (f : Cached S) : Stage → Option (Nat × Thread)
  | .chosen i => some (i, .asking)
  | .asked i h => some (i, .deciding (answerIn f h))
  | .told i h => some (i, .settling (outcome f h).1)
  | .untouched | .known _ => none

/-- What a thread can be about: its duty, or nothing if it has none. -/
def Allows (f : Cached S) (st : Stage) (i : Nat) (t : Thread) : Prop :=
  st.duty? f = some (i, t) ∨ (∀ t', st.duty? f ≠ some (i, t')) ∧ t.AtRest

section
variable {f : Cached S} {st : Stage} {i : Nat}

theorem Allows.eq_duty {t t' : Thread} (h : st.Allows f i t) (hd : st.duty? f = some (i, t')) :
    t = t' := by
  rcases h with h | ⟨h, -⟩
  · rw [hd, Option.some.injEq, Prod.mk.injEq] at h
    exact h.2.symm
  · exact absurd hd (h t')

theorem Allows.duty_eq {t : Thread} (h : st.Allows f i t) (ht : ¬t.AtRest) :
    st.duty? f = some (i, t) :=
  h.resolve_right fun hr => ht hr.2

/-- A thread at rest may rest in another way. -/
theorem Allows.of_atRest {t t' : Thread} (h : st.Allows f i t) (ht : t.AtRest) (ht' : t'.AtRest) :
    st.Allows f i t' := by
  rcases h with h | h
  · cases st with
    | untouched | known => cases h
    | chosen | asked | told => cases h; rcases ht with ht | ht <;> cases ht
  · exact .inr ⟨h.1, ht'⟩

theorem eq_chosen_of_duty (h : st.duty? f = some (i, .asking)) : st = .chosen i := by
  cases st <;> cases h
  rfl

theorem eq_asked_of_duty {a : Answer} (h : st.duty? f = some (i, .deciding a)) :
    ∃ k, st = .asked i k := by
  cases st <;> cases h
  exact ⟨_, rfl⟩

theorem eq_told_of_duty {b : Bool} (h : st.duty? f = some (i, .settling b)) :
    ∃ k, st = .told i k := by
  cases st <;> cases h
  exact ⟨_, rfl⟩

end

end Stage

/-! ## The invariant -/

/-- A race about the flag `f` is at a stage. -/
structure At (f : Cached S) (st : Stage) (r : Race S) : Prop where
  flag : r.flag = { f with value? := st.value? f }
  readings : r.readings = st.readings f
  log : r.log = st.log f
  chosen : r.chosen = none ↔ st = .untouched
  threads : ∀ i, st.Allows f i (r.threads i)
  idle : st = .untouched → ∀ i, r.threads i = .idle
  wanted : st ≠ .untouched → 0 < r.wanted
  returned : ∀ b ∈ r.returned, st.value? f = some b
  seen : ∃ m n, r.seen = .replicate m (none, false) ++ .replicate n (st.value? f, true) ∧
    (st.value? f = none → n = 0)

/-- What a move can make of a stage, in a host. -/
inductive Next (h : Host) : Stage → Move → Stage → Prop
  | stay (st : Stage) (m : Move) : Next h st m st
  | choose (i : Nat) : Next h .untouched (.want i) (.chosen i)
  | ask (i : Nat) : Next h (.chosen i) (.ask i) (.asked i h)
  | tell (i : Nat) (k : Host) : Next h (.asked i k) (.tell i) (.told i k)
  | settle (i : Nat) (k : Host) : Next h (.told i k) (.settle i) (.known k)

theorem at_start (host : Host) {f : Cached S} (hf : f.peek = none) :
    At f .untouched (start host f) where
  flag := by
    obtain ⟨name, fallback, source, v⟩ := f
    cases hf
    rfl
  readings := rfl
  log := rfl
  chosen := ⟨fun _ => rfl, fun _ => rfl⟩
  threads _ := .inr ⟨nofun, .inl rfl⟩
  idle _ _ := rfl
  wanted h := absurd rfl h
  returned b hb := by cases hb
  seen := ⟨0, 0, rfl, fun _ => rfl⟩

/-! ## Moves -/

section
variable {f : Cached S} {st : Stage} {r : Race S}

theorem At.peek (h : At f st r) : r.flag.peek = st.value? f := by
  rw [h.flag]
  rfl

omit [Source S] in
theorem setThread_threads (r : Race S) (i : Nat) (t : Thread) (j : Nat) :
    (r.setThread i t).threads j = if j = i then t else r.threads j := rfl

/-- The responsible thread takes up its duty of the next stage; the others stay as they are. -/
theorem At.threads_pass {st' : Stage} {i : Nat} {t : Thread} (h : At f st r)
    (hi : ∀ j ≠ i, ∀ t', st.duty? f ≠ some (j, t')) (hi' : ∀ j ≠ i, ∀ t', st'.duty? f ≠ some (j, t'))
    (ht : st'.Allows f i t) (j : Nat) : st'.Allows f j ((r.setThread i t).threads j) := by
  rw [setThread_threads]
  split
  · rename_i hj
    exact hj ▸ ht
  · rename_i hj
    refine .inr ⟨hi' j hj, ?_⟩
    rcases h.threads j with hd | hd
    · exact absurd hd (hi j hj _)
    · exact hd.2

/-- One thread goes on resting in another way. -/
theorem At.threads_rest {i : Nat} {t : Thread} (h : At f st r) (hr : (r.threads i).AtRest)
    (ht : t.AtRest) (j : Nat) : st.Allows f j ((r.setThread i t).threads j) := by
  rw [setThread_threads]
  split
  · rename_i hj
    subst hj
    exact (h.threads j).of_atRest hr ht
  · exact h.threads j

theorem duty_ne_of_eq {i : Nat} {t : Thread} (hd : st.duty? f = some (i, t)) :
    ∀ j ≠ i, ∀ t', st.duty? f ≠ some (j, t') := by
  intro j hj t' h
  rw [hd, Option.some.injEq, Prod.mk.injEq] at h
  exact hj h.1.symm

theorem At.take_want (h : At f .untouched r) (i : Nat) :
    At f (.chosen i) (r.take (.want i)) := by
  have hp : r.flag.peek = none := h.peek
  simp only [take, h.idle rfl i, hp, h.chosen.2 rfl]
  exact ⟨h.flag, h.readings, h.log, iff_of_false nofun nofun,
    h.threads_pass nofun (duty_ne_of_eq rfl) (.inl rfl), nofun, fun _ => Nat.succ_pos _,
    h.returned, h.seen⟩

/-- Whoever wants the value later than another has to wait for it. -/
theorem At.take_want_later (h : At f st r) (hst : st ≠ .untouched) (i : Nat) :
    At f st (r.take (.want i)) := by
  simp only [take]
  split
  · rename_i hi
    split
    · rename_i hc
      exact absurd (h.chosen.1 hc) hst
    · exact ⟨h.flag, h.readings, h.log, h.chosen, h.threads_rest (.inl hi) (.inr rfl),
        fun he => absurd he hst, fun _ => Nat.succ_pos _, h.returned, h.seen⟩
  · exact h

theorem At.take_ask {i : Nat} (h : At f (.chosen i) r) :
    At f (.asked i r.host) (r.take (.ask i)) := by
  simp only [take, (h.threads i).eq_duty rfl]
  refine ⟨h.flag, ?_, h.log, iff_of_false (mt h.chosen.1 nofun) nofun,
    h.threads_pass (duty_ne_of_eq rfl) (duty_ne_of_eq rfl) (.inl ?_), nofun,
    fun _ => h.wanted nofun, h.returned, h.seen⟩
  · simp [h.readings, h.flag, Stage.readings, answerIn]
  · simp [h.flag, Stage.duty?, answerIn]

theorem At.take_tell {i : Nat} {k : Host} (h : At f (.asked i k) r) :
    At f (.told i k) (r.take (.tell i)) := by
  simp only [take, (h.threads i).eq_duty rfl]
  refine ⟨h.flag, h.readings, ?_, iff_of_false (mt h.chosen.1 nofun) nofun,
    h.threads_pass (duty_ne_of_eq rfl) (duty_ne_of_eq rfl) (.inl ?_), nofun,
    fun _ => h.wanted nofun, h.returned, h.seen⟩
  · simp [h.log, h.flag, Stage.log, outcome]
  · simp [h.flag, Stage.duty?, outcome]

theorem At.take_settle {i : Nat} {k : Host} (h : At f (.told i k) r) :
    At f (.known k) (r.take (.settle i)) := by
  simp only [take, (h.threads i).eq_duty rfl]
  obtain ⟨m, n, hs, hn⟩ := h.seen
  refine ⟨?_, h.readings, h.log, iff_of_false (mt h.chosen.1 nofun) nofun,
    h.threads_pass (duty_ne_of_eq rfl) nofun (.inr ⟨nofun, .inr rfl⟩), nofun,
    fun _ => h.wanted nofun, fun b hb => ?_, m, 0, ?_, nofun⟩
  · simp only [h.flag, Stage.value?]
  · cases h.returned b hb
  · rw [hn rfl] at hs
    exact hs

theorem At.take_wake (h : At f st r) (i : Nat) : At f st (r.take (.wake i)) := by
  simp only [take]
  split
  · rename_i b hi hp
    rw [h.peek] at hp
    refine ⟨h.flag, h.readings, h.log, h.chosen, h.threads_rest (.inr hi) (.inl rfl), ?_, h.wanted,
      fun c hc => ?_, h.seen⟩
    · rintro rfl
      cases hp
    · rcases List.mem_append.1 hc with hc | hc
      · exact h.returned c hc
      · rw [List.mem_singleton.1 hc]
        exact hp
  · exact h

theorem At.take_look (h : At f st r) : At f st (r.take .look) := by
  refine ⟨h.flag, h.readings, h.log, h.chosen, h.threads, h.idle, h.wanted, h.returned, ?_⟩
  obtain ⟨m, n, hs, hn⟩ := h.seen
  have hp : (r.flag.peek, r.flag.isKnown) = (st.value? f, (st.value? f).isSome) := by
    rw [r.flag.isKnown_eq, h.peek]
  simp only [take, hs, hp]
  cases hv : st.value? f with
  | none =>
    rw [hn hv]
    exact ⟨m + 1, 0, by simp [List.replicate_succ'], fun _ => rfl⟩
  | some b => exact ⟨m, n + 1, by simp [List.replicate_succ'], nofun⟩

/-- **A move keeps the stage or leads to the next one.** -/
theorem At.take (h : At f st r) (m : Move) :
    ∃ st', Next r.host st m st' ∧ At f st' (r.take m) := by
  have stay : At f st (r.take m) → ∃ st', Next r.host st m st' ∧ At f st' (r.take m) :=
    fun h' => ⟨st, .stay st m, h'⟩
  cases m with
  | want i =>
    by_cases hst : st = .untouched
    · obtain rfl := hst
      exact ⟨_, .choose i, h.take_want i⟩
    · exact stay (h.take_want_later hst i)
  | ask i =>
    cases hi : r.threads i with
    | asking =>
      obtain rfl := Stage.eq_chosen_of_duty ((hi ▸ h.threads i).duty_eq nofun)
      exact ⟨_, .ask i, h.take_ask⟩
    | idle | waiting | deciding | settling => exact stay (by simpa only [Race.take, hi] using h)
  | tell i =>
    cases hi : r.threads i with
    | deciding a =>
      obtain ⟨k, rfl⟩ := Stage.eq_asked_of_duty ((hi ▸ h.threads i).duty_eq nofun)
      exact ⟨_, .tell i k, h.take_tell⟩
    | idle | waiting | asking | settling => exact stay (by simpa only [Race.take, hi] using h)
  | settle i =>
    cases hi : r.threads i with
    | settling b =>
      obtain ⟨k, rfl⟩ := Stage.eq_told_of_duty ((hi ▸ h.threads i).duty_eq nofun)
      exact ⟨_, .settle i k, h.take_settle⟩
    | idle | waiting | asking | deciding => exact stay (by simpa only [Race.take, hi] using h)
  | wake i => exact stay (h.take_wake i)
  | look => exact stay h.take_look
  | change c =>
    exact stay ⟨h.flag, h.readings, h.log, h.chosen, h.threads, h.idle, h.wanted, h.returned,
      h.seen⟩

/-! ## Runs -/

theorem At.run (h : At f st r) (ms : List Move) : ∃ st', At f st' (r.run ms) := by
  induction ms generalizing st r with
  | nil => exact ⟨st, h⟩
  | cons m ms ih =>
    obtain ⟨st', -, h'⟩ := h.take m
    exact ih h'

/-- Once the value is known, any thread can have it. -/
theorem At.returned_known {k : Host} (h : At f (.known k) r) :
    (r.run [.want 0, .wake 0]).returned ≠ [] := by
  have hp : r.flag.peek = some (outcome f k).1 := h.peek
  rcases (h.threads 0).resolve_left nofun |>.2 with hi | hi
  · simp [Race.run, Race.take, hi, hp, Race.setThread]
  · simp [Race.run, Race.take, hi, hp, Race.setThread]

/-- No schedule can lead a race into a corner where nobody can ever return. -/
theorem At.can_return (h : At f st r) : ∃ ms, (r.run ms).returned ≠ [] := by
  cases st with
  | untouched =>
    exact ⟨[.want 0, .ask 0, .tell 0, .settle 0, .want 0, .wake 0],
      (h.take_want 0).take_ask.take_tell.take_settle.returned_known⟩
  | chosen i =>
    exact ⟨[.ask i, .tell i, .settle i, .want 0, .wake 0],
      h.take_ask.take_tell.take_settle.returned_known⟩
  | asked i k =>
    exact ⟨[.tell i, .settle i, .want 0, .wake 0], h.take_tell.take_settle.returned_known⟩
  | told i k => exact ⟨[.settle i, .want 0, .wake 0], h.take_settle.returned_known⟩
  | known k => exact ⟨[.want 0, .wake 0], h.returned_known⟩

end

end Race

end AudioHal.Flag

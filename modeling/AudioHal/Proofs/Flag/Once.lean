import AudioHal.Proofs.Flag.Stage

/-! # One evaluation among threads

What a race has recorded, for every schedule.

* `Flag.Race.At.mem_readings`: where in the schedule a reading was made, and in which host.
* `Flag.Race.At.peek_timeline`: the value is unknown up to one move of the schedule and known after
  it.
* `Flag.Race.evaluated_once`: the source is asked once, and all threads have what it said then.
-/

set_option autoImplicit false

namespace AudioHal.Flag.Race

variable {S : Type} [Source S]

/-! ## Steps of the record -/

section
variable {f : Cached S} {h : Host} {st st' : Stage} {m : Move}

/-- Asking is the only move that reads. -/
theorem Next.readings (hn : Next h st m st') : st'.readings f = st.readings f ∨
    ∃ i, m = .ask i ∧ st ≠ .untouched ∧ st'.readings f = [(h, answerIn f h)] := by
  cases hn with
  | ask i => exact .inr ⟨i, rfl, nofun, rfl⟩
  | stay | choose | tell | settle => exact .inl rfl

/-- Settling is the only move that makes the value known. -/
theorem Next.value? (hn : Next h st m st') : st'.value? f = st.value? f ∨
    ∃ i b, m = .settle i ∧ st.value? f = none ∧ st'.value? f = some b := by
  cases hn with
  | settle i k => exact .inr ⟨i, _, rfl, rfl, rfl⟩
  | stay | choose | ask | tell => exact .inl rfl

end

/-! ## Histories -/

section
variable {f : Cached S} {st : Stage} {r : Race S}

/-- A reading was there before or was made by a move of the schedule, in the host of that moment,
when some thread wanted the value. -/
theorem At.mem_readings (h : At f st r) {ms : List Move} {x : Host × Answer}
    (hx : x ∈ (r.run ms).readings) : x ∈ r.readings ∨
      ∃ before i rest, ms = before ++ .ask i :: rest ∧ 0 < (r.run before).wanted ∧
        x.1 = (r.run before).host ∧ x.2 = answerIn f x.1 := by
  induction ms generalizing st r with
  | nil => exact .inl hx
  | cons m ms ih =>
    obtain ⟨st', hn, h'⟩ := h.take m
    rcases ih h' hx with hnow | ⟨before, i, rest, rfl, hmade⟩
    · rw [h'.readings] at hnow
      rcases hn.readings (f := f) with hsame | ⟨i, rfl, hst, hread⟩
      · rw [hsame, ← h.readings] at hnow
        exact .inl hnow
      · rw [hread, List.mem_singleton] at hnow
        subst hnow
        exact .inr ⟨[], i, ms, rfl, h.wanted hst, rfl, rfl⟩
    · exact .inr ⟨m :: before, i, rest, rfl, hmade⟩

/-- The value stays as it is, or it is unknown up to a move that settles it and known after it. -/
theorem At.peek_timeline (h : At f st r) (ms : List Move) :
    (∀ k, (r.run (ms.take k)).flag.peek = st.value? f) ∨
      st.value? f = none ∧ ∃ n i b, ms[n]? = some (.settle i) ∧ ∀ k ≤ ms.length,
        (r.run (ms.take k)).flag.peek = if k ≤ n then none else some b := by
  induction ms generalizing st r with
  | nil =>
    left
    intro k
    rw [List.take_nil]
    exact h.peek
  | cons m ms ih =>
    obtain ⟨st', hn, h'⟩ := h.take m
    rcases hn.value? (f := f) with hsame | ⟨i, b, rfl, hnone, hb⟩
    · rcases ih h' with hk | ⟨hnone, n, i, b, hni, hk⟩
      · left
        intro k
        cases k with
        | zero => exact h.peek
        | succ k => exact (hk k).trans hsame
      · rw [hsame] at hnone
        refine .inr ⟨hnone, n + 1, i, b, hni, fun k hle => ?_⟩
        cases k with
        | zero => exact h.peek.trans hnone
        | succ k =>
          simp only [Nat.add_le_add_iff_right]
          exact hk k (Nat.le_of_succ_le_succ hle)
    · refine .inr ⟨hnone, 0, i, b, rfl, fun k _ => ?_⟩
      cases k with
      | zero => exact h.peek.trans hnone
      | succ k =>
        -- the value is known from here on, so the rest of the schedule cannot settle it again
        rcases ih h' with hk | ⟨hnone', -⟩
        · exact (hk k).trans hb
        · rw [hb] at hnone'
          cases hnone'

end

/-- **A flag among threads is evaluated once, in every schedule.** The source is asked at most once
and not before the value is wanted. From one move of the schedule on the value is known and stays:
it is what the source said in the host of that one reading, or the default if it said nothing or
failed, and it goes with one entry of the log. Threads that return have this value, onlookers see
it or nothing, and no schedule keeps threads from ever returning. -/
theorem evaluated_once (host : Host) (name : String) (fallback : Bool) (source : S)
    (ms : List Move) :
    let after := fun ms => (start host (.new name fallback source)).run ms
    let r := after ms
    r.readings.length ≤ 1 ∧ (r.readings ≠ [] → 0 < r.wanted) ∧
    (∀ x ∈ r.readings, ∃ before i rest, ms = before ++ .ask i :: rest ∧
      0 < (after before).wanted ∧ x.1 = (after before).host ∧
      x.2 = Source.read x.1 source name) ∧
    (r.returned ≠ [] → r.readings.length = 1 ∧ r.log.length = 1) ∧
    (∀ b ∈ r.returned, r.flag.peek = some b) ∧
    (r.flag.peek ≠ none → ∃ h, r.readings = [(h, Source.read h source name)] ∧
      match Source.read h source name with
      | .ok (some b) => r.flag.peek = some b ∧ r.log = [.resolved name b .source]
      | .ok none => r.flag.peek = some fallback ∧ r.log = [.resolved name fallback .default]
      | .error e => r.flag.peek = some fallback ∧ r.log = [.failed name fallback e]) ∧
    ((∀ k, (after (ms.take k)).flag.peek = none) ∨
      ∃ n i b, ms[n]? = some (.settle i) ∧
        ∀ k ≤ ms.length, (after (ms.take k)).flag.peek = if k ≤ n then none else some b) ∧
    r.flag.isKnown = r.flag.peek.isSome ∧
    (∃ m n, r.seen = .replicate m (none, false) ++ .replicate n (r.flag.peek, true) ∧
      (r.flag.peek = none → n = 0)) ∧
    ∃ more, (r.run more).returned ≠ [] := by
  intro after r
  have hstart : At (.new name fallback source) .untouched (after []) := at_start host rfl
  obtain ⟨st, hat⟩ : ∃ st, At (.new name fallback source) st r := hstart.run ms
  have hpeek : r.flag.peek = st.value? (.new name fallback source) := hat.peek
  have hknown : ∀ {b}, r.flag.peek = some b → ∃ h, st = .known h := by
    intro b hb
    rw [hpeek] at hb
    cases st with
    | known h => exact ⟨h, rfl⟩
    | untouched | chosen | asked | told => cases hb
  refine ⟨?atMostOnce, ?wanted, fun x hx => (hstart.mem_readings hx).resolve_left nofun,
    ?exactlyOnce, ?same, ?answer, (hstart.peek_timeline ms).imp_right And.right,
    Cached.isKnown_eq _, ?seen, hat.can_return⟩
  case atMostOnce =>
    rw [hat.readings]
    cases st <;> simp [Stage.readings]
  case wanted =>
    intro hne
    apply hat.wanted
    rintro rfl
    exact hne hat.readings
  case same =>
    intro b hb
    rw [hpeek, hat.returned b hb]
  case exactlyOnce =>
    intro hne
    obtain ⟨b, hb⟩ := List.exists_mem_of_ne_nil _ hne
    obtain ⟨h, rfl⟩ := hknown (hpeek.trans (hat.returned b hb))
    rw [hat.readings, hat.log]
    exact ⟨rfl, rfl⟩
  case answer =>
    intro hne
    obtain ⟨b, hb⟩ := Option.ne_none_iff_exists'.1 hne
    obtain ⟨h, rfl⟩ := hknown hb
    refine ⟨h, hat.readings, ?_⟩
    rw [hpeek, hat.log]
    simp only [Stage.value?, Stage.log, outcome, answerIn, Cached.new]
    cases Source.read h source name with
    | error e => exact ⟨rfl, rfl⟩
    | ok a =>
      cases a with
      | none => exact ⟨rfl, rfl⟩
      | some b => exact ⟨rfl, rfl⟩
  case seen =>
    rw [hpeek]
    exact hat.seen

end AudioHal.Flag.Race

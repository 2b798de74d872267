import AudioHal.Proofs.Flag.Stage

/-! # Threads that want a flag at once

Several threads that all want a flag before any of them has it get what a single thread would get,
and leave in the log what a single thread would leave there.

* `Flag.Race.run_want`: threads that want a value that another one is responsible for wait for it.
* `Flag.Race.run_duty`, `Flag.Race.run_duty_cons`: the evaluation passes over threads that wait.
* `Flag.Race.take_duties`: the evaluation from the first to the last move of the responsible thread.
* `Flag.Race.run_wake`: threads that wait for a known value take it, one after another.
* `Flag.Race.Quiet.run`: where the value is known, no schedule changes or logs anything.
* `Flag.Cached.getMany_eq`: what comes of it for threads that start together.
-/

set_option autoImplicit false

namespace AudioHal.Flag

namespace Race

variable {S : Type} [Source S] {r : Race S}

/-! ## Phases -/

theorem run_append (r : Race S) (ms ns : List Move) : r.run (ms ++ ns) = (r.run ms).run ns :=
  List.foldl_append ..

theorem run_cons (r : Race S) (m : Move) (ms : List Move) : r.run (m :: ms) = (r.take m).run ms :=
  rfl

/-- Threads that want a value that is known, or that another one is responsible for, wait for it. -/
theorem run_want {ts : List Nat} (hc : r.flag.peek = none → r.chosen ≠ none) (hn : ts.Nodup)
    (hi : ∀ i ∈ ts, r.threads i = .idle) :
    r.run (ts.map .want) = { r with
      threads := fun i => if i ∈ ts then .waiting else r.threads i
      wanted := r.wanted + ts.length } := by
  induction ts generalizing r with
  | nil => rfl
  | cons t ts ih =>
    obtain ⟨hnot, hn⟩ := List.nodup_cons.1 hn
    have ht : r.take (.want t) = { r.setThread t .waiting with wanted := r.wanted + 1 } := by
      have hidle := hi t List.mem_cons_self
      cases hp : r.flag.peek with
      | some b => simp [take, hidle, hp, setThread]
      | none =>
        obtain ⟨j, hj⟩ := Option.ne_none_iff_exists'.1 (hc hp)
        simp [take, hidle, hp, hj, setThread]
    have hi' : ∀ i ∈ ts, (r.take (.want t)).threads i = .idle := by
      intro i hm
      have hne : i ≠ t := fun he => hnot (he ▸ hm)
      simp only [ht, setThread, hne, ↓reduceIte]
      exact hi i (List.mem_cons_of_mem _ hm)
    rw [List.map_cons, run_cons, ih (by rw [ht]; exact hc) hn hi', ht]
    simp only [setThread, List.length_cons, Race.mk.injEq, true_and, and_true]
    refine ⟨funext fun i => ?_, by omega⟩
    by_cases hit : i = t
    · simp [hit]
    · simp [hit]

/-- The moves that the responsible thread alone can make. -/
inductive IsDuty : (Nat → Move) → Prop
  | ask : IsDuty .ask
  | tell : IsDuty .tell
  | settle : IsDuty .settle

theorem take_duty_of_atRest {duty : Nat → Move} (hd : IsDuty duty) {i : Nat}
    (hi : (r.threads i).AtRest) : r.take (duty i) = r := by
  rcases hi with hi | hi
  · cases hd <;> simp only [take, hi]
  · cases hd <;> simp only [take, hi]

theorem take_duty_threads {duty : Nat → Move} (hd : IsDuty duty) {i j : Nat} (hj : j ≠ i) :
    (r.take (duty i)).threads j = r.threads j := by
  cases hd
  all_goals
    simp only [take]
    split
    · simp [setThread, hj]
    · rfl

theorem run_duty {duty : Nat → Move} (hd : IsDuty duty) {ts : List Nat}
    (hw : ∀ i ∈ ts, r.threads i = .waiting) : r.run (ts.map duty) = r := by
  induction ts with
  | nil => rfl
  | cons t ts ih =>
    rw [List.map_cons, run_cons, take_duty_of_atRest hd (.inr (hw t List.mem_cons_self))]
    exact ih fun i hi => hw i (List.mem_cons_of_mem _ hi)

/-- Where the others wait, one thread makes its move and the others go on waiting. -/
theorem run_duty_cons {duty : Nat → Move} (hd : IsDuty duty) {t : Nat} {ts : List Nat}
    (ht : t ∉ ts) (hw : ∀ i ∈ ts, r.threads i = .waiting) :
    r.run ((t :: ts).map duty) = r.take (duty t) ∧
      ∀ i ∈ ts, (r.take (duty t)).threads i = .waiting := by
  have hw' : ∀ i ∈ ts, (r.take (duty t)).threads i = .waiting := by
    intro i hi
    have hne : i ≠ t := fun he => ht (he ▸ hi)
    rw [take_duty_threads hd hne, hw i hi]
  exact ⟨run_duty hd hw', hw'⟩

/-- The responsible thread asks, tells and settles. -/
theorem take_duties {i : Nat} {b : Bool} {e : Event} (hi : r.threads i = .asking)
    (hres : resolve r.flag.name r.flag.fallback
      (Source.read r.host r.flag.source r.flag.name) = (b, e)) :
    ((r.take (.ask i)).take (.tell i)).take (.settle i) = { r.setThread i .waiting with
      flag := { r.flag with value? := some b }
      readings := r.readings ++ [(r.host, Source.read r.host r.flag.source r.flag.name)]
      log := r.log ++ [e] } := by
  simp only [take, hi, setThread, ↓reduceIte, hres, Race.mk.injEq, true_and, and_true]
  funext j
  by_cases hj : j = i
  · simp [hj]
  · simp [hj]

theorem take_wake_of_waiting {i : Nat} {b : Bool} (hp : r.flag.peek = some b)
    (hi : r.threads i = .waiting) :
    r.take (.wake i) = { r.setThread i .idle with returned := r.returned ++ [b] } := by
  simp only [take, hi, hp]

theorem run_wake {b : Bool} {ts : List Nat} (hp : r.flag.peek = some b) (hn : ts.Nodup)
    (hw : ∀ i ∈ ts, r.threads i = .waiting) :
    (r.run (ts.map .wake)).flag = r.flag ∧ (r.run (ts.map .wake)).log = r.log ∧
      (r.run (ts.map .wake)).returned = r.returned ++ .replicate ts.length b := by
  induction ts generalizing r with
  | nil => exact ⟨rfl, rfl, by simp [run]⟩
  | cons t ts ih =>
    obtain ⟨hnot, hn⟩ := List.nodup_cons.1 hn
    have ht := take_wake_of_waiting hp (hw t List.mem_cons_self)
    have hw' : ∀ i ∈ ts, (r.take (.wake t)).threads i = .waiting := by
      intro i hm
      have hne : i ≠ t := fun he => hnot (he ▸ hm)
      simp only [ht, setThread, hne, ↓reduceIte]
      exact hw i (List.mem_cons_of_mem _ hm)
    have hp' : (r.take (.wake t)).flag.peek = some b := by rw [ht]; exact hp
    obtain ⟨hf, hl, hr⟩ := ih hp' hn hw'
    rw [List.map_cons, run_cons, hf, hl, hr, ht]
    simp [setThread, List.replicate_succ]

/-! ## Known values -/

/-- Nobody has anything to find out. -/
structure Quiet (f : Cached S) (b : Bool) (r : Race S) : Prop where
  flag : r.flag = f
  threads : ∀ i, (r.threads i).AtRest
  readings : r.readings = []
  log : r.log = []
  returned : ∀ x ∈ r.returned, x = b

omit [Source S] in
theorem Quiet.setThread {f : Cached S} {b : Bool} (h : Quiet f b r) (i : Nat) {t : Thread}
    (ht : t.AtRest) : Quiet f b (r.setThread i t) where
  flag := h.flag
  threads j := by
    by_cases hj : j = i
    · simpa [Race.setThread, hj] using ht
    · simpa [Race.setThread, hj] using h.threads j
  readings := h.readings
  log := h.log
  returned := h.returned

theorem Quiet.take {f : Cached S} {b : Bool} (hp : f.peek = some b) (h : Quiet f b r) (m : Move) :
    Quiet f b (r.take m) := by
  have hpeek : r.flag.peek = some b := by rw [h.flag]; exact hp
  cases m with
  | want i =>
    rcases h.threads i with hi | hi
    · have ht : r.take (.want i) = { r.setThread i .waiting with wanted := r.wanted + 1 } := by
        simp only [Race.take, hi, hpeek, Race.setThread]
      have hset := h.setThread i (t := .waiting) (.inr rfl)
      rw [ht]
      exact ⟨hset.flag, hset.threads, hset.readings, hset.log, hset.returned⟩
    · simpa only [Race.take, hi] using h
  | ask i => rwa [take_duty_of_atRest .ask (h.threads i)]
  | tell i => rwa [take_duty_of_atRest .tell (h.threads i)]
  | settle i => rwa [take_duty_of_atRest .settle (h.threads i)]
  | wake i =>
    rcases h.threads i with hi | hi
    · simpa only [Race.take, hi] using h
    · have hset := h.setThread i (t := .idle) (.inl rfl)
      rw [take_wake_of_waiting hpeek hi]
      refine ⟨hset.flag, hset.threads, hset.readings, hset.log, fun x hx => ?_⟩
      rcases List.mem_append.1 hx with hx | hx
      · exact h.returned x hx
      · exact List.mem_singleton.1 hx
  | look => exact ⟨h.flag, h.threads, h.readings, h.log, h.returned⟩
  | change c => exact ⟨h.flag, h.threads, h.readings, h.log, h.returned⟩

/-- No schedule makes threads find out what is known already. -/
theorem Quiet.run {f : Cached S} {b : Bool} (hp : f.peek = some b) (h : Quiet f b r)
    (ms : List Move) : Quiet f b (r.run ms) := by
  induction ms generalizing r with
  | nil => exact h
  | cons m ms ih => exact ih (h.take hp m)

/-- Around a known value threads can only take it, and those who wait can take it at once. -/
theorem run_start_known (host : Host) {f : Cached S} {b : Bool} (hp : f.peek = some b)
    (ms : List Move) :
    let r := (start host f).run ms
    r.flag = f ∧ r.readings = [] ∧ r.log = [] ∧ (∀ x ∈ r.returned, x = b) ∧
      ∀ i, r.threads i = .waiting → (r.take (.wake i)).returned = r.returned ++ [b] := by
  intro r
  have hstart : Quiet f b (start host f) := ⟨rfl, fun _ => .inl rfl, rfl, rfl, nofun⟩
  have hq : Quiet f b r := hstart.run hp ms
  refine ⟨hq.flag, hq.readings, hq.log, hq.returned, fun i hi => ?_⟩
  rw [take_wake_of_waiting (by rw [hq.flag]; exact hp) hi]

end Race

/-! ## Starting together -/

namespace Cached

variable {S : Type} [Source S] {host : Host} {f : Cached S}

open Race

theorem getMany_known {b : Bool} (hp : f.peek = some b) (n : Nat) :
    f.getMany host n = (.replicate n b, f, []) := by
  -- nobody becomes responsible, so the moves of the evaluation pass without effect
  let ts := List.range n
  have hn : ts.Nodup := List.nodup_range
  obtain ⟨r, hr⟩ : ∃ r, (start host f).run (ts.map .want) = r := ⟨_, rfl⟩
  have hknown : f.peek = none → (none : Option Nat) ≠ none := by simp [hp]
  have hr' := hr.symm.trans (run_want hknown hn fun _ _ => rfl)
  have hw : ∀ i ∈ ts, r.threads i = .waiting := by
    intro i hi
    rw [hr']
    exact if_pos hi
  have hrun : (start host f).run (together n) = r.run (ts.map .wake) := by
    simp only [together, run_append]
    rw [hr, run_duty .ask hw, run_duty .tell hw, run_duty .settle hw]
  have hpr : r.flag.peek = some b := by rw [hr']; exact hp
  obtain ⟨hf, hl, hret⟩ := run_wake hpr hn hw
  rw [getMany, hrun, hf, hl, hret, hr', List.length_range]
  rfl

theorem getMany_unknown (hp : f.peek = none) {b : Bool} {e : Event}
    (hres : resolve f.name f.fallback (Source.read host f.source f.name) = (b, e)) (m : Nat) :
    f.getMany host (m + 1) = (.replicate (m + 1) b, { f with value? := some b }, [e]) := by
  let rest := (List.range m).map Nat.succ
  have hrange : List.range (m + 1) = 0 :: rest := List.range_succ_eq_map
  have hn : (0 :: rest).Nodup := hrange ▸ List.nodup_range
  obtain ⟨h0, hrest⟩ := List.nodup_cons.1 hn
  have hne : ∀ i ∈ rest, i ≠ 0 := fun i hi he => h0 (he ▸ hi)
  -- the first thread becomes responsible and the others wait for it
  have hfirst : (start host f).take (.want 0) =
      { (start host f).setThread 0 .asking with chosen := some 0, wanted := 1 } := by
    simp [take, start, hp, setThread]
  obtain ⟨r, hr⟩ : ∃ r, (start host f).run ((0 :: rest).map .want) = r := ⟨_, rfl⟩
  have hwant : ((start host f).take (.want 0)).run (rest.map .want) = _ :=
    run_want (fun _ => by rw [hfirst]; exact Option.some_ne_none 0) hrest fun i hi => by
      rw [hfirst]
      exact if_neg (hne i hi)
  have hr' := hr.symm.trans hwant
  rw [hfirst] at hr'
  have hw : ∀ i ∈ rest, r.threads i = .waiting := by
    intro i hi
    rw [hr']
    exact if_pos hi
  have hasking : r.threads 0 = .asking := by
    rw [hr']
    simp [h0, setThread]
  -- from here on only the first thread moves, until the value is known
  obtain ⟨hask, hw⟩ := run_duty_cons .ask h0 hw
  obtain ⟨htell, hw⟩ := run_duty_cons .tell h0 hw
  obtain ⟨hsettle, hw⟩ := run_duty_cons .settle h0 hw
  have hduties := take_duties hasking (b := b) (e := e) (by rw [hr']; exact hres)
  obtain ⟨k, hk⟩ : ∃ k, ((r.take (.ask 0)).take (.tell 0)).take (.settle 0) = k := ⟨_, rfl⟩
  rw [hk] at hsettle hw hduties
  have hwake : ∀ i ∈ 0 :: rest, k.threads i = .waiting :=
    List.forall_mem_cons.2 ⟨by rw [hduties]; simp [setThread], hw⟩
  have hrun : (start host f).run (together (m + 1)) = k.run ((0 :: rest).map .wake) := by
    simp only [together, run_append, hrange]
    rw [hr, hask, htell, hsettle]
  have hpk : k.flag.peek = some b := by rw [hduties]; rfl
  obtain ⟨hf, hl, hret⟩ := run_wake hpk hn hwake
  rw [getMany, hrun, hf, hl, hret, hduties, hr']
  simp [rest, start, setThread]

/-- **Threads that start together get what one thread gets.** -/
theorem getMany_eq {n : Nat} (hn : 0 < n) :
    f.getMany host n = (.replicate n (f.get host).1, (f.get host).2) := by
  cases hv : f.peek with
  | some b => rw [getMany_known hv, get_of_peek_eq_some hv]
  | none =>
    obtain ⟨m, rfl⟩ : ∃ m, n = m + 1 := ⟨n - 1, by omega⟩
    obtain ⟨⟨b, e⟩, hres⟩ :
      ∃ x, resolve f.name f.fallback (Source.read host f.source f.name) = x := ⟨_, rfl⟩
    rw [getMany_unknown hv hres]
    rw [peek] at hv
    simp only [get, hv, hres]

end Cached

end AudioHal.Flag

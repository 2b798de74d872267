import AudioHal.Flag.Settings
import Mathlib

/-! # Settings as maps

Settings are what they answer, and of several values for one name the last one counts.

* `Flag.Settings.eq_of_get?`: settings that answer alike are equal.
* `Flag.Settings.get?_ofList`: what pairs give a name.
* `Flag.BindsLast`, `Flag.Settings.get?_ofList_eq_some_iff`: the same, said without reading them.
* `Flag.Settings.insertAll_ofList`: pairs may be given at once or one after another.
-/

set_option autoImplicit false

namespace AudioHal.Flag

variable {name : String} {b : Bool} {pairs xs ys : List (String × Bool)} {s t : Settings}

/-! ## Settings that answer alike -/

theorem Settings.names_nodup (s : Settings) : (s.entries.map (·.1)).Nodup :=
  List.pairwise_map.2 (s.sorted.imp fun h => Std.ne_of_lt h)

/-- Where keys are all different, looking a key up is the same as finding its pair. -/
theorem lookup_eq_some_iff_mem {α β : Type} [DecidableEq α] {entries : List (α × β)} {key : α}
    {value : β} (h : (entries.map (·.1)).Nodup) :
    entries.lookup key = some value ↔ (key, value) ∈ entries := by
  rw [List.lookup_eq_some_iff]
  constructor
  · rintro ⟨before, after, rfl, -⟩
    exact List.mem_append_right _ List.mem_cons_self
  · intro hm
    obtain ⟨before, after, rfl⟩ := List.append_of_mem hm
    refine ⟨before, after, rfl, fun p hp => bne_iff_ne.2 fun he => ?_⟩
    rw [List.map_append] at h
    have hkey : p.1 ∈ before.map (·.1) := List.mem_map_of_mem hp
    exact (List.nodup_append.1 h).2.2 p.1 hkey key (by simp) he.symm

theorem Settings.mem_entries : (name, b) ∈ s.entries ↔ s.get? name = some b :=
  (lookup_eq_some_iff_mem s.names_nodup).symm

/-- Settings that answer alike are equal. -/
theorem Settings.eq_of_get? (h : ∀ name, s.get? name = t.get? name) : s = t := by
  have hmem : ∀ e, e ∈ s.entries ↔ e ∈ t.entries := by
    rintro ⟨name, b⟩
    rw [mem_entries, mem_entries, h]
  have hperm : s.entries.Perm t.entries :=
    (List.perm_ext_iff_of_nodup s.names_nodup.of_map t.names_nodup.of_map).2 hmem
  have heq : s.entries = t.entries := by
    refine hperm.eq_of_pairwise (fun a b _ _ hab hba => ?_) s.sorted t.sorted
    exact absurd (String.lt_trans hab hba) (String.lt_irrefl _)
  obtain ⟨entries, sorted⟩ := s
  cases heq
  rfl

/-! ## The last pair of a name -/

theorem Settings.insertAll_cons (s : Settings) (p : String × Bool) (pairs : List (String × Bool)) :
    s.insertAll (p :: pairs) = (s.insert p.1 p.2).insertAll pairs :=
  rfl

theorem Settings.get?_insertAll (s : Settings) (pairs : List (String × Bool)) (name : String) :
    (s.insertAll pairs).get? name = (pairs.reverse.lookup name).or (s.get? name) := by
  induction pairs generalizing s with
  | nil => rfl
  | cons p pairs ih =>
    rw [insertAll_cons, ih, get?_insert, List.reverse_cons, List.lookup_append, List.lookup_cons]
    by_cases h : name = p.1
    · simp [h]
    · simp [h, beq_eq_false_iff_ne.2 h]

theorem Settings.get?_ofList (pairs : List (String × Bool)) (name : String) :
    (ofList pairs).get? name = pairs.reverse.lookup name := by
  rw [ofList, get?_insertAll]
  exact Option.or_none

theorem Settings.get?_ofList_eq_none_iff :
    (ofList pairs).get? name = none ↔ ∀ b, (name, b) ∉ pairs := by
  rw [get?_ofList, List.lookup_eq_none_iff]
  constructor
  · intro h b hm
    simpa using h _ (List.mem_reverse.2 hm)
  · rintro h ⟨d, b⟩ hm
    refine bne_iff_ne.2 ?_
    rintro rfl
    exact h b (List.mem_reverse.1 hm)

/-- The last of the pairs with a name gives it this value. -/
def BindsLast (pairs : List (String × Bool)) (name : String) (b : Bool) : Prop :=
  ∃ before after, pairs = before ++ (name, b) :: after ∧ ∀ c, (name, c) ∉ after

theorem Settings.get?_ofList_eq_some_iff :
    (ofList pairs).get? name = some b ↔ BindsLast pairs name b := by
  rw [get?_ofList, List.lookup_eq_some_iff, BindsLast]
  constructor
  · rintro ⟨after, before, hpairs, hafter⟩
    refine ⟨before.reverse, after.reverse, ?_, fun c hc => ?_⟩
    · rw [← List.reverse_reverse pairs, hpairs]
      simp
    · simpa using hafter _ (List.mem_reverse.1 hc)
  · rintro ⟨before, after, rfl, hafter⟩
    refine ⟨after.reverse, before.reverse, by simp, ?_⟩
    rintro ⟨d, c⟩ hc
    refine bne_iff_ne.2 ?_
    rintro rfl
    exact hafter c (List.mem_reverse.1 hc)

theorem Settings.insertAll_ofList (xs ys : List (String × Bool)) :
    (ofList xs).insertAll ys = ofList (xs ++ ys) :=
  (List.foldl_append ..).symm

/-- Where names are all different, every pair counts. -/
theorem Settings.get?_ofList_of_nodup (h : (pairs.map (·.1)).Nodup) :
    (ofList pairs).get? name = some b ↔ (name, b) ∈ pairs := by
  have hr : (pairs.reverse.map (·.1)).Nodup := by
    rw [List.map_reverse]
    exact List.nodup_reverse.2 h
  rw [get?_ofList, lookup_eq_some_iff_mem hr, List.mem_reverse]

theorem Settings.size_ofList_of_nodup (h : (pairs.map (·.1)).Nodup) :
    (ofList pairs).size = pairs.length := by
  have hperm : (ofList pairs).entries.Perm pairs := by
    refine (List.perm_ext_iff_of_nodup (names_nodup _).of_map h.of_map).2 ?_
    rintro ⟨name, b⟩
    rw [mem_entries, get?_ofList_of_nodup h]
  exact hperm.length_eq

end AudioHal.Flag

import AudioHal.Text.Utf8

/-! # Environment variables

The environment of a process is a list of records, each the bytes of a name, an equals sign and the
bytes of a value. A name is not empty and holds neither an equals sign nor a zero byte.

* `Environment.get?`: the value of a name.
* `Environment.set`, `Environment.remove`: a name that no variable can have, or a value with a zero
  byte, leaves the environment alone.
* `Environment.get?_set`, `Environment.get?_remove`: reading after a change, for a key without an
  equals sign.
-/

set_option autoImplicit false

namespace AudioHal

namespace Environment

/-- The byte between a name and a value. -/
def equalsSign : UInt8 := 0x3D

/-- Whether a variable can have a name. -/
def isName (name : List UInt8) : Bool :=
  !name.isEmpty && !name.contains equalsSign && !name.contains 0

end Environment

/-- The variables of a process, in the order in which they were first set. -/
structure Environment where
  bindings : List (List UInt8 × List UInt8)
  named : ∀ b ∈ bindings, Environment.isName b.1

namespace Environment

/-- No variables. -/
def empty : Environment := ⟨[], nofun⟩

/-- A record as the process sees it. -/
def recordOf (binding : List UInt8 × List UInt8) : List UInt8 :=
  binding.1 ++ equalsSign :: binding.2

/-- The value of a name: what follows the name and an equals sign in the first record that begins
with them. -/
def get? (env : Environment) (name : List UInt8) : Option (List UInt8) :=
  if name.isEmpty || name.contains 0 then none
  else
    (env.bindings.find? fun b => (name ++ [equalsSign]).isPrefixOf (recordOf b)).map fun b =>
      (recordOf b).drop (name.length + 1)

/-- Bindings in which a name has another value, in its old place if it has one. -/
def setBinding (name value : List UInt8) :
    List (List UInt8 × List UInt8) → List (List UInt8 × List UInt8)
  | [] => [(name, value)]
  | b :: rest => if b.1 = name then (name, value) :: rest else b :: setBinding name value rest

theorem named_setBinding {name value : List UInt8} (h : isName name)
    {bindings : List (List UInt8 × List UInt8)} (hb : ∀ b ∈ bindings, isName b.1) :
    ∀ b ∈ setBinding name value bindings, isName b.1 := by
  induction bindings with
  | nil =>
    intro b hm
    rw [List.mem_singleton.1 hm]
    exact h
  | cons c rest ih =>
    intro b hm
    unfold setBinding at hm
    split at hm
    · rcases List.mem_cons.1 hm with rfl | hm
      · exact h
      · exact hb b (List.mem_cons_of_mem _ hm)
    · rcases List.mem_cons.1 hm with rfl | hm
      · exact hb _ List.mem_cons_self
      · exact ih (fun b hb' => hb b (List.mem_cons_of_mem _ hb')) b hm

/-- Gives a variable a value. -/
def set (env : Environment) (name value : List UInt8) : Environment :=
  if h : isName name ∧ !value.contains 0 then
    ⟨setBinding name value env.bindings, named_setBinding h.1 env.named⟩
  else env

/-- Takes a variable away. -/
def remove (env : Environment) (name : List UInt8) : Environment where
  bindings := env.bindings.filter (·.1 != name)
  named b hb := env.named b (List.mem_filter.1 hb).1

/-! ## Reading after a change -/

theorem equalsSign_not_mem_of_isName {name : List UInt8} (h : isName name) :
    equalsSign ∉ name := by
  simp only [isName, Bool.and_eq_true, Bool.not_eq_true', List.contains_eq_mem,
    decide_eq_false_iff_not] at h
  exact h.1.2

theorem isEmpty_of_isName {name : List UInt8} (h : isName name) :
    (name.isEmpty || name.contains 0) = false := by
  simp only [isName, Bool.and_eq_true, Bool.not_eq_true'] at h
  rw [h.1.1, h.2, Bool.or_false]

/-- Of two names without an equals sign, one begins the other's record only if they are equal. -/
theorem isPrefixOf_recordOf {key name value : List UInt8} (hk : equalsSign ∉ key)
    (hn : equalsSign ∉ name) :
    (key ++ [equalsSign]).isPrefixOf (recordOf (name, value)) = decide (name = key) := by
  rw [Bool.eq_iff_iff, List.isPrefixOf_iff_prefix, decide_eq_true_eq]
  constructor
  · rintro ⟨tail, h⟩
    rw [recordOf, List.append_assoc, List.singleton_append] at h
    induction key generalizing name with
    | nil =>
      cases name with
      | nil => rfl
      | cons c cs =>
        rw [List.nil_append, List.cons_append, List.cons.injEq] at h
        exact absurd (h.1 ▸ List.mem_cons_self) hn
    | cons d ds ih =>
      cases name with
      | nil =>
        rw [List.nil_append, List.cons_append, List.cons.injEq] at h
        exact absurd (h.1 ▸ List.mem_cons_self) hk
      | cons c cs =>
        rw [List.cons_append, List.cons_append, List.cons.injEq] at h
        rw [h.1, ih (fun hm => hk (List.mem_cons_of_mem _ hm))
          (fun hm => hn (List.mem_cons_of_mem _ hm)) h.2]
  · rintro rfl
    exact ⟨value, by rw [recordOf, List.append_assoc, List.singleton_append]⟩

theorem drop_recordOf (name value : List UInt8) :
    (recordOf (name, value)).drop (name.length + 1) = value := by
  rw [recordOf, List.drop_append, List.drop_eq_nil_of_le (Nat.le_succ _), List.nil_append,
    Nat.add_sub_cancel_left, List.drop_succ_cons, List.drop_zero]

/-- A key without an equals sign is looked up among the names. -/
theorem get?_eq_lookup (env : Environment) {key : List UInt8} (hk : equalsSign ∉ key) :
    env.get? key =
      if key.isEmpty || key.contains 0 then none else env.bindings.lookup key := by
  unfold get?
  split
  · rfl
  · obtain ⟨bindings, named⟩ := env
    show (bindings.find? _).map _ = bindings.lookup key
    induction bindings with
    | nil => rfl
    | cons b rest ih =>
      obtain ⟨name, value⟩ := b
      have hn : equalsSign ∉ name := equalsSign_not_mem_of_isName (named _ List.mem_cons_self)
      by_cases h : name = key
      · subst h
        rw [List.find?_cons_of_pos (by rw [isPrefixOf_recordOf hk hn]; exact decide_eq_true rfl),
          Option.map_some, drop_recordOf, List.lookup_cons_self]
      · rw [List.find?_cons_of_neg (by rw [isPrefixOf_recordOf hk hn]; simpa using h),
          ih fun b hb => named b (List.mem_cons_of_mem _ hb), List.lookup_cons,
          beq_eq_false_iff_ne.2 (Ne.symm h)]

theorem lookup_setBinding (name value key : List UInt8)
    (bindings : List (List UInt8 × List UInt8)) :
    (setBinding name value bindings).lookup key =
      if key = name then some value else bindings.lookup key := by
  induction bindings with
  | nil =>
    by_cases h : key = name
    · simp [setBinding, h]
    · simp [setBinding, h, List.lookup_cons, beq_eq_false_iff_ne.2 h]
  | cons b rest ih =>
    obtain ⟨c, v⟩ := b
    unfold setBinding
    by_cases hc : c = name
    · subst hc
      by_cases h : key = c
      · simp [h]
      · simp [h, List.lookup_cons, beq_eq_false_iff_ne.2 h]
    · rw [if_neg hc, List.lookup_cons, ih, List.lookup_cons]
      by_cases h : key = c
      · subst h
        simp [hc]
      · simp [beq_eq_false_iff_ne.2 h]

theorem get?_set (env : Environment) {name value key : List UInt8} (hn : isName name)
    (hv : value.contains 0 = false) (hk : equalsSign ∉ key) :
    (env.set name value).get? key = if key = name then some value else env.get? key := by
  have hset : env.set name value =
      ⟨setBinding name value env.bindings, named_setBinding hn env.named⟩ :=
    dif_pos ⟨hn, by rw [hv]; rfl⟩
  rw [hset, get?_eq_lookup _ hk, get?_eq_lookup _ hk, lookup_setBinding]
  by_cases h : key = name
  · subst h
    rw [isEmpty_of_isName hn, if_pos rfl, if_pos rfl]
    rfl
  · rw [if_neg h, if_neg h]

theorem lookup_filter_ne (name key : List UInt8) (bindings : List (List UInt8 × List UInt8)) :
    (bindings.filter (·.1 != name)).lookup key =
      if key = name then none else bindings.lookup key := by
  induction bindings with
  | nil => simp
  | cons b rest ih =>
    obtain ⟨c, v⟩ := b
    by_cases hc : c = name
    · subst hc
      rw [List.filter_cons_of_neg (by simp), ih, List.lookup_cons]
      by_cases h : key = c
      · simp [h]
      · simp [h, beq_eq_false_iff_ne.2 h]
    · rw [List.filter_cons_of_pos (by simpa using hc), List.lookup_cons, ih, List.lookup_cons]
      by_cases h : key = c
      · subst h
        simp [hc]
      · simp [beq_eq_false_iff_ne.2 h]

theorem get?_remove (env : Environment) {name key : List UInt8} (hk : equalsSign ∉ key) :
    (env.remove name).get? key = if key = name then none else env.get? key := by
  rw [get?_eq_lookup _ hk, get?_eq_lookup _ hk]
  show (if key.isEmpty || key.contains 0 then none
    else (env.bindings.filter (·.1 != name)).lookup key) = _
  rw [lookup_filter_ne]
  by_cases h : key = name
  · rw [if_pos h, if_pos h, ite_self]
  · rw [if_neg h, if_neg h]

end Environment

end AudioHal

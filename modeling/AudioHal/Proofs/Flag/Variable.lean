import AudioHal.Flag.Variable
import AudioHal.Proofs.Flag.Boolean
import AudioHal.Proofs.Text.Utf8

/-! # Flags and their variables

Which flags have a variable in common, and what a variable says about its flag.

* `Flag.variableChar_eq_iff`: which characters of a name a variable does not tell apart.
* `Flag.variableName_eq_iff`: two flags have one variable if their names differ in such characters
  alone.
* `Environment.get?_eq_lookup_of_plain`, `Environment.get?_set_of_ne`: a variable has the value it
  is bound to, whatever happens to others.
* `Flag.readVariable_eq_some_iff_encode`, `Flag.readVariable_eq_error_iff`: what it says.
* `Flag.agree_of_variableName_eq`: flags with one variable say the same in every environment.
* `Flag.exists_apart`: flags with two variables are told apart by some environment.
* `Flag.variables_told_apart`: both together, with what a flag says in a given environment.
-/

set_option autoImplicit false

namespace AudioHal

namespace Environment

variable {env : Environment} {key name : List UInt8}

@[simp] theorem get?_empty (key : List UInt8) : empty.get? key = none := by
  simp [get?, empty]

theorem get?_eq_lookup_of_plain (hk : equalsSign ∉ key) (h0 : 0 ∉ key) :
    env.get? key = env.bindings.lookup key := by
  rw [get?_eq_lookup env hk]
  cases key with
  | cons c cs => simp [h0]
  | nil =>
    -- no variable has the empty name
    have hn : ∀ b ∈ env.bindings, ([] != b.1) = true := by
      intro b hb
      have hname := env.named b hb
      cases hb1 : b.1 with
      | nil => simp [hb1, isName] at hname
      | cons c cs => rfl
    exact (List.lookup_eq_none_iff.2 hn).symm

theorem get?_set_of_ne (hk : equalsSign ∉ key) (h : key ≠ name) (value : List UInt8) :
    (env.set name value).get? key = env.get? key := by
  by_cases hc : isName name ∧ !value.contains 0
  · rw [get?_set env hc.1 (by simpa using hc.2) hk, if_neg h]
  · rw [set, dif_neg hc]

theorem get?_remove_of_ne (hk : equalsSign ∉ key) (h : key ≠ name) :
    (env.remove name).get? key = env.get? key := by
  rw [get?_remove env hk, if_neg h]

end Environment

namespace Flag

open Text

variable {env env' : Environment} {stem f g : String}

/-! ## Names of variables -/

/-- A text that can be part of the name of a variable. -/
def IsNamePart (s : String) : Prop :=
  '=' ∉ s.toList ∧ '\x00' ∉ s.toList

/-- The characters that an underscore stands for. -/
def separators : List Char :=
  ['-', '.', '_']

theorem not_mem_separators {c : Char} (h : c.isAlpha) : c ∉ separators := by
  have hseparators : ∀ s ∈ separators, s.isAlpha = false := by simp [separators]
  intro hm
  rw [hseparators c hm] at h
  cases h

theorem variableChar_of_not_mem {c : Char} (h : c ∉ separators) : variableChar c = c.toUpper := by
  rw [variableChar, if_neg]
  intro hc
  rcases hc with rfl | rfl
  · exact h (by decide)
  · exact h (by decide)

theorem variableChar_eq_underscore_iff {c : Char} : variableChar c = '_' ↔ c ∈ separators := by
  refine ⟨fun h => ?_, fun h => ?_⟩
  · by_contra hc
    rw [variableChar_of_not_mem hc] at h
    -- the underscore is no letter, so that nothing else has it for its capital form
    have hlower : '_'.toLower = c.toLower := toUpper_eq_toUpper_iff.1 h.symm
    rw [← eq_of_toLower_eq_toLower rfl hlower] at hc
    exact hc (by decide)
  · have hseparators : ∀ s ∈ separators, variableChar s = '_' := by simp [separators, variableChar]
    exact hseparators c h

/-- A variable's name does not tell separators apart, nor a letter from A to Z from itself in the
other case; any other two characters it does. -/
theorem variableChar_eq_iff {c d : Char} : variableChar c = variableChar d ↔
    c = d ∨ (c ∈ separators ∧ d ∈ separators) ∨
      (c.isAlpha ∧ d.isAlpha ∧ c.toLower = d.toLower) := by
  refine ⟨fun h => ?_, fun h => ?_⟩
  · by_cases hd : d ∈ separators
    · rw [variableChar_eq_underscore_iff.2 hd, variableChar_eq_underscore_iff] at h
      exact .inr (.inl ⟨h, hd⟩)
    · have hc : c ∉ separators := fun hc => by
        rw [variableChar_eq_underscore_iff.2 hc, eq_comm, variableChar_eq_underscore_iff] at h
        exact hd h
      rw [variableChar_of_not_mem hc, variableChar_of_not_mem hd, toUpper_eq_toUpper_iff] at h
      cases ha : c.isAlpha with
      | false => exact .inl (eq_of_toLower_eq_toLower ha h)
      | true =>
        have hda : d.isAlpha := by
          rw [← Char.isAlpha_toLower_eq_isAlpha, ← h, Char.isAlpha_toLower_eq_isAlpha, ha]
        exact .inr (.inr ⟨rfl, hda, h⟩)
  · rcases h with rfl | ⟨hc, hd⟩ | ⟨hc, hd, h⟩
    · rfl
    · rw [variableChar_eq_underscore_iff.2 hc, variableChar_eq_underscore_iff.2 hd]
    · rw [variableChar_of_not_mem (not_mem_separators hc),
        variableChar_of_not_mem (not_mem_separators hd), toUpper_eq_toUpper_iff.2 h]

theorem variableName_eq_iff : variableName stem f = variableName stem g ↔
    List.Forall₂ (fun c d => variableChar c = variableChar d) f.toList g.toList := by
  rw [variableName, variableName, String.append_right_inj, ← String.toList_inj,
    String.toList_ofList, String.toList_ofList, ← List.forall₂_eq_eq_eq,
    List.forall₂_map_left_iff, List.forall₂_map_right_iff]

/-- Only separators and letters stand for characters other than themselves. -/
theorem eq_of_variableChar {c d : Char} (hd : d ∉ separators) (ha : d.isAlpha = false)
    (h : variableChar c = d) : c = d := by
  have hself : variableChar d = d := by
    rw [variableChar_of_not_mem hd, Char.toUpper_eq_of_not_isLower]
    intro hl
    rw [Char.isAlpha, hl, Bool.or_true] at ha
    cases ha
  rcases variableChar_eq_iff.1 (h.trans hself.symm) with heq | ⟨-, hs⟩ | ⟨-, hl, -⟩
  · exact heq
  · exact absurd hs hd
  · rw [ha] at hl
    cases hl

theorem not_mem_variableName {d : Char} (hd : d ∉ separators) (ha : d.isAlpha = false)
    (hs : d ∉ stem.toList) (hf : d ∉ f.toList) : d ∉ (variableName stem f).toList := by
  rw [variableName, String.toList_append, String.toList_ofList]
  intro hm
  rcases List.mem_append.1 hm with hm | hm
  · exact hs hm
  · obtain ⟨c, hc, he⟩ := List.mem_map.1 hm
    exact hf (eq_of_variableChar hd ha he ▸ hc)

theorem equalsSign_not_mem (hs : IsNamePart stem) (hf : IsNamePart f) :
    Environment.equalsSign ∉ Utf8.encode (variableName stem f) := fun hm =>
  not_mem_variableName (by decide) (by decide) hs.1 hf.1 (Utf8.mem_of_mem_encode hm (by decide))

theorem zero_not_mem (hs : IsNamePart stem) (hf : IsNamePart f) :
    0 ∉ Utf8.encode (variableName stem f) := fun hm =>
  not_mem_variableName (by decide) (by decide) hs.2 hf.2 (Utf8.mem_of_mem_encode hm (by decide))

theorem isName_variableName (hs : IsNamePart stem) (hf : IsNamePart f)
    (hne : variableName stem f ≠ "") : Environment.isName (Utf8.encode (variableName stem f)) := by
  have hbytes : Utf8.encode (variableName stem f) ≠ [] := fun h => hne (Utf8.encode_inj.1 h)
  simp [Environment.isName, hbytes, equalsSign_not_mem hs hf, zero_not_mem hs hf]

/-! ## Answers -/

theorem readVariable_eq_some_iff_encode {x : Bool} : readVariable env stem f = .ok (some x) ↔
    ∃ text, env.get? (Utf8.encode (variableName stem f)) = some (Utf8.encode text) ∧
      Says x text := by
  rw [readVariable_eq_some_iff]
  simp only [Utf8.decode?_eq_some_iff, readBool_eq_ok_iff]
  constructor
  · rintro ⟨bytes, text, hv, rfl, hb⟩
    exact ⟨text, hv, hb⟩
  · rintro ⟨text, hv, hb⟩
    exact ⟨_, text, hv, rfl, hb⟩

/-- The complaint names the flag and quotes what the variable holds, if need be with marks in place
of what spells no character. -/
theorem readVariable_eq_error_iff {e : Failure} : readVariable env stem f = .error e ↔
    ∃ bytes, env.get? (Utf8.encode (variableName stem f)) = some bytes ∧
      (∀ text, bytes = Utf8.encode text → ∀ x, ¬Says x text) ∧
      e = .notBoolean f (Utf8.decodeLossy bytes) := by
  unfold readVariable
  cases env.get? (Utf8.encode (variableName stem f)) with
  | none => simp
  | some bytes =>
    simp only [Option.some.injEq, exists_eq_left']
    cases hd : Utf8.decode? bytes with
    | none =>
      have hno : ∀ text, bytes ≠ Utf8.encode text := fun text h => by
        rw [← Utf8.decode?_eq_some_iff, hd] at h
        cases h
      simp [hno, eq_comm]
    | some text =>
      obtain rfl := Utf8.decode?_eq_some_iff.1 hd
      have hmap : (readBool f text).map some = .error e ↔ readBool f text = .error e := by
        cases readBool f text <;> simp [Except.map]
      simp [hmap, readBool_eq_error_iff, Utf8.encode_inj, Utf8.decodeLossy_encode]

/-- Two answers are the same value, are both silent, or complain of the same text. -/
def Answer.Agree : Answer → Answer → Prop
  | .ok a, .ok b => a = b
  | .error (.notBoolean _ v), .error (.notBoolean _ w) => v = w
  | _, _ => False

theorem agree_of_variableName_eq (h : variableName stem f = variableName stem g)
    (env : Environment) : (readVariable env stem f).Agree (readVariable env stem g) := by
  cases hf : readVariable env stem f with
  | ok value =>
    have hg : readVariable env stem g = .ok value := by
      cases value with
      | none => rwa [readVariable_eq_none_iff, ← h, ← readVariable_eq_none_iff]
      | some x => rwa [readVariable_eq_some_iff_encode, ← h, ← readVariable_eq_some_iff_encode]
    rw [hg]
    rfl
  | error e =>
    obtain ⟨bytes, hv, hno, rfl⟩ := readVariable_eq_error_iff.1 hf
    rw [readVariable_eq_error_iff.2 ⟨bytes, h ▸ hv, hno, rfl⟩]
    rfl

/-! ## Environments that tell flags apart -/

/-- Where the variable of one flag alone is set, the other flag is silent. -/
theorem exists_apart (hs : IsNamePart stem) (hf : IsNamePart f) (hg : IsNamePart g)
    (h : variableName stem f ≠ variableName stem g) (hne : variableName stem f ≠ "") :
    ∃ env, readVariable env stem f = .ok (some true) ∧ readVariable env stem g = .ok none := by
  let env := Environment.empty.set (Utf8.encode (variableName stem f)) (Utf8.encode "true")
  have hget : ∀ key, Environment.equalsSign ∉ key → env.get? key =
      if key = Utf8.encode (variableName stem f) then some (Utf8.encode "true") else none := by
    intro key hk
    rw [Environment.get?_set _ (isName_variableName hs hf hne) (by decide) hk,
      Environment.get?_empty]
  refine ⟨env, readVariable_eq_some_iff.2 ⟨_, "true", ?_, Utf8.decode?_encode "true", rfl⟩,
    readVariable_eq_none_iff.2 ?_⟩
  · rw [hget _ (equalsSign_not_mem hs hf), if_pos rfl]
  · rw [hget _ (equalsSign_not_mem hs hg), if_neg fun he => h (Utf8.encode_inj.1 he).symm]

theorem variableName_eq_of_agree (hs : IsNamePart stem) (hf : IsNamePart f) (hg : IsNamePart g)
    (h : ∀ env, (readVariable env stem f).Agree (readVariable env stem g)) :
    variableName stem f = variableName stem g := by
  by_contra hne
  -- one of the two names is not empty, so that a variable can have it
  by_cases hempty : variableName stem f = ""
  · have hne' : variableName stem g ≠ "" := fun he => hne (hempty.trans he.symm)
    obtain ⟨env, htrue, hnone⟩ := exists_apart hs hg hf (Ne.symm hne) hne'
    have hagree := h env
    rw [htrue, hnone] at hagree
    cases hagree
  · obtain ⟨env, htrue, hnone⟩ := exists_apart hs hf hg hne hempty
    have hagree := h env
    rw [htrue, hnone] at hagree
    cases hagree

theorem readVariable_congr (h : env.get? (Utf8.encode (variableName stem f)) =
    env'.get? (Utf8.encode (variableName stem f))) :
    readVariable env stem f = readVariable env' stem f := by
  rw [readVariable, readVariable, h]

/-- **Environments tell two flags apart exactly if their variables' names do.** Two flags say the
same in every environment if their names have the same length and differ, character by character,
only in the case of a letter from A to Z or in which of hyphen, point and underscore they have. In a
given environment a flag is silent if its variable is not set, has the truth value that its
variable spells, and otherwise complains with its own name; no other variable matters. -/
theorem variables_told_apart (stem f g : String) (hs : IsNamePart stem) (hf : IsNamePart f)
    (hg : IsNamePart g) :
    ((∀ env, (readVariable env stem f).Agree (readVariable env stem g)) ↔
      List.Forall₂ (fun c d => variableChar c = variableChar d) f.toList g.toList) ∧
    ∀ env,
      let name := Utf8.encode (variableName stem f)
      let value? := env.bindings.lookup name
      (readVariable env stem f = .ok none ↔ value? = none) ∧
      (∀ x, readVariable env stem f = .ok (some x) ↔
        ∃ text, value? = some (Utf8.encode text) ∧ readBool f text = .ok x) ∧
      (∀ e, readVariable env stem f = .error e ↔ ∃ bytes, value? = some bytes ∧
        (∀ text, bytes = Utf8.encode text → ∀ x, readBool f text ≠ .ok x) ∧
        e = .notBoolean f (Utf8.decodeLossy bytes)) ∧
      ∀ other, other ≠ name →
        (∀ value, readVariable (env.set other value) stem f = readVariable env stem f) ∧
        readVariable (env.remove other) stem f = readVariable env stem f := by
  have hk := equalsSign_not_mem hs hf
  refine ⟨⟨fun h => variableName_eq_iff.1 (variableName_eq_of_agree hs hf hg h),
    fun h => agree_of_variableName_eq (variableName_eq_iff.2 h)⟩, fun env => ?_⟩
  have hvalue : env.get? (Utf8.encode (variableName stem f)) = env.bindings.lookup _ :=
    Environment.get?_eq_lookup_of_plain hk (zero_not_mem hs hf)
  simp only [ne_eq, readBool_eq_ok_iff, ← hvalue]
  exact ⟨readVariable_eq_none_iff, fun x => readVariable_eq_some_iff_encode,
    fun e => readVariable_eq_error_iff, fun other hne =>
      ⟨fun value => readVariable_congr (Environment.get?_set_of_ne hk (Ne.symm hne) value),
        readVariable_congr (Environment.get?_remove_of_ne hk (Ne.symm hne))⟩⟩

/-- Only letters from A to Z have a case here. -/
theorem accented_variables_told_apart :
    IsNamePart "X_" ∧ IsNamePart "a-b.é" ∧ IsNamePart "A.B_é" ∧ IsNamePart "a-b.É" ∧
    (∀ env, (readVariable env "X_" "a-b.é").Agree (readVariable env "X_" "A.B_é")) ∧
    ¬∀ env, (readVariable env "X_" "a-b.é").Agree (readVariable env "X_" "a-b.É") := by
  have hx : IsNamePart "X_" := by unfold IsNamePart; decide
  have hf : IsNamePart "a-b.é" := by unfold IsNamePart; decide
  have hg : IsNamePart "A.B_é" := by unfold IsNamePart; decide
  have hg' : IsNamePart "a-b.É" := by unfold IsNamePart; decide
  exact ⟨hx, hf, hg, hg', (variables_told_apart "X_" _ _ hx hf hg).1.2 (by decide),
    fun h => absurd ((variables_told_apart "X_" _ _ hx hf hg').1.1 h) (by decide)⟩

end Flag

end AudioHal

import AudioHal.Flag.Boolean
import AudioHal.Host.Environment

/-! # Flags in the environment

A flag has an environment variable, named by a common beginning and the name of the flag in capital
letters, points and hyphens turned into underscores.

* `Flag.variableName`: the name of the variable.
* `Flag.readVariable`: what the variable says.
* `Flag.readVariable_eq_none_iff`, `Flag.readVariable_eq_some_iff`: when it says nothing, and when
  it says a truth value.
-/

set_option autoImplicit false

namespace AudioHal.Flag

/-- A character of a flag's name as a variable's name has it. Only the letters a to z have capital
forms here. -/
def variableChar (c : Char) : Char :=
  if c = '-' ∨ c = '.' then '_' else c.toUpper

/-- The name of the variable of a flag. -/
def variableName (stem flag : String) : String :=
  stem ++ .ofList (flag.toList.map variableChar)

/-- What the variable of a flag says. -/
def readVariable (env : Environment) (stem flag : String) : Answer :=
  match env.get? (Utf8.encode (variableName stem flag)) with
  | none => .ok none
  | some bytes =>
    match Utf8.decode? bytes with
    | some text => (readBool flag text).map some
    | none => .error (.notBoolean flag (Utf8.decodeLossy bytes))

section
variable {env : Environment} {stem flag : String}

theorem readVariable_eq_none_iff :
    readVariable env stem flag = .ok none ↔
      env.get? (Utf8.encode (variableName stem flag)) = none := by
  unfold readVariable
  split
  · rename_i h
    simp [h]
  · rename_i bytes h
    rw [h]
    split
    · rename_i text _
      cases readBool flag text <;> simp [Except.map]
    · simp

theorem readVariable_eq_some_iff {b : Bool} :
    readVariable env stem flag = .ok (some b) ↔
      ∃ bytes text, env.get? (Utf8.encode (variableName stem flag)) = some bytes ∧
        Utf8.decode? bytes = some text ∧ readBool flag text = .ok b := by
  constructor
  · intro h
    unfold readVariable at h
    split at h
    · cases h
    · rename_i bytes hv
      split at h
      · rename_i text hd
        refine ⟨bytes, text, hv, hd, ?_⟩
        cases hb : readBool flag text with
        | error e => simp [hb, Except.map] at h
        | ok c => simpa [hb, Except.map] using h
      · cases h
  · rintro ⟨bytes, text, hv, hd, hb⟩
    simp [readVariable, hv, hd, hb, Except.map]

end

end AudioHal.Flag

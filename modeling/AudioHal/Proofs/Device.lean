import AudioHal.Proofs.Catalog

/-! # Devices and their names

The direction of a device is one bit of its number, and its names are strings of a table. The rules
of a table do not tie the one to the other, so that a row which gives an output the name of an input
could pass the check. It is the rows themselves that have it right, aliases included; from them it
comes to every string that is parsed and to every symbol that is given.

* `Device.count_kinds`: a device is no device, an input or an output, and only one of them.
* `Device.BearsOut`: what a symbol tells of a device is so.
* `Device.bearsOut_of_ofSymbolWith?`: a device bears out whatever it is parsed from.
* `Device.names_truthful`: so does it for its own symbol, which thus begins like any other name.
-/

set_option autoImplicit false

namespace AudioHal.Device

variable {b : Build} {d : Device} {s : String} {v : Visibility}

/-! ## Directions -/

theorem isOutput_eq (h : d ≠ .none) : d.isOutput = !d.isInput := by
  have hbits : d.bits ≠ 0 := fun h0 => h (congrArg mk h0)
  rw [isOutput, bne_iff_ne.2 hbits, Bool.true_and]

/-- Of the three kinds of devices every device belongs to one. -/
theorem count_kinds (d : Device) : [d == .none, d.isInput, d.isOutput].count true = 1 := by
  by_cases h : d = .none
  · subst h
    rfl
  · rw [beq_false_of_ne h, isOutput_eq h]
    cases d.isInput <;> rfl

/-! ## What symbols tell -/

/-- What the symbols of devices that record begin with. -/
def inputStem : List Char :=
  "AUDIO_DEVICE_IN_".toList

/-- What the symbols of devices that play begin with. -/
def outputStem : List Char :=
  "AUDIO_DEVICE_OUT_".toList

/-- What the symbols of devices that policy chooses end in; the second one is the older. -/
def defaultEndings : List (List Char) :=
  ["_DEFAULT".toList, "_STUB".toList]

/-- What a symbol tells of a device is so: its beginning tells the direction, and its end whether
policy chooses the device. -/
structure BearsOut (d : Device) (s : String) : Prop where
  input : d.isInput ↔ inputStem <+: s.toList
  output : d.isOutput ↔ outputStem <+: s.toList
  byPolicy : d.isDefault ↔ ∃ ending ∈ defaultEndings, ending <:+ s.toList

instance (d : Device) (s : String) : Decidable (d.BearsOut s) :=
  decidable_of_iff
    ((d.isInput ↔ inputStem <+: s.toList) ∧ (d.isOutput ↔ outputStem <+: s.toList) ∧
      (d.isDefault ↔ ∃ ending ∈ defaultEndings, ending <:+ s.toList))
    ⟨fun h => ⟨h.1, h.2.1, h.2.2⟩, fun h => ⟨h.input, h.output, h.byPolicy⟩⟩

/-- Every row has it right, of whatever role. -/
theorem bearsOut_of_row :
    ∀ e ∈ (Nameable.table .framework : Table Device).entries, e.value.BearsOut e.symbol := by
  decide +kernel

/-! ## Names -/

theorem bearsOut_of_ofSymbolWith? (h : Nameable.ofSymbolWith? b s v = some d) : d.BearsOut s := by
  obtain ⟨e, he, -, rfl, rfl⟩ := Table.exists_of_parseWith_eq_some h
  -- devices have the same rows in every build
  exact bearsOut_of_row e he

/-- A device that has a name has a symbol, and that one it bears out too. -/
theorem exists_symbol?_of_ofSymbolWith? (h : Nameable.ofSymbolWith? b s v = some d) :
    ∃ c, Nameable.symbol? b d = some c ∧ d.BearsOut c := by
  have w := Domain.table_wellFormed b .device
  obtain ⟨c, hc⟩ := w.exists_project h
  have hparse : Nameable.ofSymbolWith? b c .framework = some d := w.parseWith_of_project hc
  exact ⟨c, hc, bearsOut_of_ofSymbolWith? hparse⟩

/-- **The name of a device never lies about its direction.** A device is either no device or an
input or an output. Whatever string it is parsed from, in any build and for anybody, begins like the
names of its direction and of no other, and ends like the names of devices that policy chooses
exactly if policy chooses it. So the symbol that takes the place of the string begins alike. -/
theorem names_truthful :
    (∀ d : Device, [d == .none, d.isInput, d.isOutput].count true = 1) ∧
    ∀ (b : Build) (s : String) (v : Visibility) (d : Device),
      Nameable.ofSymbolWith? b s v = some d →
        (d.isInput ↔ inputStem <+: s.toList) ∧
        (d.isOutput ↔ outputStem <+: s.toList) ∧
        (d.isDefault ↔ ∃ ending ∈ defaultEndings, ending <:+ s.toList) ∧
        ∃ c, Nameable.symbol? b d = some c ∧
          (inputStem <+: c.toList ↔ inputStem <+: s.toList) ∧
          (outputStem <+: c.toList ↔ outputStem <+: s.toList) := by
  refine ⟨count_kinds, fun b s v d h => ?_⟩
  have hs := bearsOut_of_ofSymbolWith? h
  obtain ⟨c, hc, hbears⟩ := exists_symbol?_of_ofSymbolWith? h
  exact ⟨hs.input, hs.output, hs.byPolicy, c, hc, hbears.input.symm.trans hs.input,
    hbears.output.symm.trans hs.output⟩

/-- The older name of the default output has an end of its own, and tells the same. -/
theorem outStub_names_truthful :
    Nameable.ofSymbolWith? .vendor "AUDIO_DEVICE_OUT_STUB" .vendor = some outDefault ∧
      outDefault.isOutput ∧ ¬outDefault.isInput ∧ outDefault.isDefault ∧
      Nameable.symbol? .vendor outDefault = some "AUDIO_DEVICE_OUT_DEFAULT" ∧
      outputStem <+: "AUDIO_DEVICE_OUT_DEFAULT".toList := by
  have hp : Nameable.ofSymbolWith? .vendor "AUDIO_DEVICE_OUT_STUB" .vendor = some outDefault := by
    decide +kernel
  have hsymbol : Nameable.symbol? .vendor outDefault = some "AUDIO_DEVICE_OUT_DEFAULT" := by
    decide +kernel
  obtain ⟨hin, hout, hdefault, c, hc, -, hstem⟩ := names_truthful.2 _ _ _ _ hp
  obtain rfl : "AUDIO_DEVICE_OUT_DEFAULT" = c := Option.some.inj (hsymbol.symm.trans hc)
  exact ⟨hp, hout.2 (by decide), fun h => absurd (hin.1 h) (by decide), hdefault.2 (by decide),
    hsymbol, hstem.2 (by decide)⟩

end AudioHal.Device

import AudioHal.Proofs.Domain.Raw
import AudioHal.Proofs.Table.Current
import AudioHal.Proofs.Wire.Coding

/-! # Named values on the wire

The values of the nine types with one table travel as symbols. Writing looks a value up, reading
looks a string up, and by the rules of a table the one undoes the other, older symbols giving way to
current ones.

* `Wire.encode_named_eq_ok_iff`, `Wire.decode_named_eq_ok_iff`: what is written and what is read.
* `Wire.encode_named_eq_error_iff`, `Wire.decode_named_eq_error_iff`: what is said of the rest.
* `Wire.decode_encode_named`, `Wire.encode_of_decode_named`: there and back, from either end.
* `Wire.named_lossless`: all of it for lists.
-/

set_option autoImplicit false

namespace AudioHal.Wire

variable {b : Build} {t : NamedType} {s : String} {a : t.Carrier} {f : Fault}

/-! ## One value -/

theorem encode_named_eq_ok_iff : encode b a = .ok s ↔ Nameable.symbol? b a = some s := by
  simp only [encode]
  cases Nameable.symbol? b a <;> simp

theorem encode_named_eq_error_iff :
    encode b a = .error f ↔ Nameable.symbol? b a = none ∧ f = .unnamed t.domain := by
  simp only [encode, NamedType.nameable_domain]
  cases Nameable.symbol? b a <;> simp [eq_comm]

theorem decode_named_eq_ok_iff :
    decode b (.text s) = .ok a ↔ Nameable.ofSymbol? b s = some a :=
  decode_text_eq_ok_iff

theorem decode_named_eq_error_iff {v : Value} :
    (decode b v : Except Fault t.Carrier) = .error f ↔
      (∃ s, v = .text s ∧ (Nameable.ofSymbol? b s : Option t.Carrier) = none ∧
        f = .unknown ⟨t.domain, s⟩) ∨
      (∀ s, v ≠ .text s) ∧ f = .notText v t.domain := by
  have hd : Coded.domain t.Carrier b = t.domain := NamedType.nameable_domain b t
  rw [decode_eq_error_iff, hd]
  rfl

theorem decode_encode_named (h : encode b a = .ok s) : decode b (.text s) = .ok a := by
  rw [encode_named_eq_ok_iff, NamedType.symbol?_eq] at h
  rw [decode_named_eq_ok_iff, NamedType.ofSymbol?_eq]
  exact Domain.table_parse_of_project h

/-- What has been read is written as the current symbol. -/
theorem encode_of_decode_named (h : decode b (.text s) = .ok a) :
    encode b a = .ok ((t.domain.table b).current s) := by
  rw [decode_named_eq_ok_iff, NamedType.ofSymbol?_eq] at h
  rw [encode_named_eq_ok_iff, NamedType.symbol?_eq]
  exact (t.domain.table_wellFormed b).project_of_parseWith h

/-! ## Lists -/

theorem encodeAll_named_eq_ok_iff {xs : List t.Carrier} {ss : List String} :
    encodeAll b xs = .ok ss ↔ xs.map (Nameable.symbol? b) = ss.map some := by
  simp only [encodeAll_eq_ok_iff, encode_named_eq_ok_iff]
  exact forall₂_eq_some_iff

/-- **Lists of named values lose nothing on the wire, and what is read comes out in current
symbols.** A list is written exactly if every value has a symbol, as these symbols in order, and is
read back as the same list. A document value is read as a list exactly if it is a sequence of
strings that stand for values in the build; written again, every older symbol has given way to the
current one and every other string is as it was, which a second time changes nothing. Where a list
cannot be written, or read, the complaint is that of its first value without a symbol, or of its
first element that is no string or an unknown one. -/
theorem named_lossless (b : Build) (t : NamedType) :
    -- one value
    (∀ (a : t.Carrier) f,
      encode b a = .error f ↔ Nameable.symbol? b a = none ∧ f = .unnamed t.domain) ∧
    (∀ v f, (decode b v : Except Fault t.Carrier) = .error f ↔
      (∃ s, v = .text s ∧ (Nameable.ofSymbol? b s : Option t.Carrier) = none ∧
        f = .unknown ⟨t.domain, s⟩) ∨
      (∀ s, v ≠ .text s) ∧ f = .notText v t.domain) ∧
    -- lists of values
    (∀ xs : List t.Carrier,
      ((∃ ss, encodeAll b xs = .ok ss) ↔ ∀ x ∈ xs, ∃ s, Nameable.symbol? b x = some s) ∧
      (∀ ss, encodeAll b xs = .ok ss ↔ xs.map (Nameable.symbol? b) = ss.map some) ∧
      (∀ ss, encodeAll b xs = .ok ss → decodeAll b (.sequence (ss.map .text)) = .ok xs) ∧
      ∀ f, encodeAll b xs = .error f ↔ FirstFault (encode b) xs f) ∧
    -- values of documents
    (∀ v : Value,
      ((∃ xs : List t.Carrier, decodeAll b v = .ok xs) ↔ ∃ items, v = .sequence items ∧
        ∀ i ∈ items, ∃ s, i = .text s ∧ ∃ a : t.Carrier, Nameable.ofSymbol? b s = some a) ∧
      (∀ xs : List t.Carrier, decodeAll b v = .ok xs ↔ ∃ ss : List String,
        v = .sequence (ss.map .text) ∧ ss.map (Nameable.ofSymbol? b) = xs.map some) ∧
      ∀ f, (decodeAll b v : Except Fault (List t.Carrier)) = .error f ↔
        (∃ items, v = .sequence items ∧
          FirstFault (decode b : Value → Except Fault t.Carrier) items f) ∨
        (∀ items, v ≠ .sequence items) ∧ f = .notSequence v) ∧
    -- from strings to current symbols
    let current := (t.domain.table b).current
    (∀ (ss : List String) (xs : List t.Carrier), decodeAll b (.sequence (ss.map .text)) = .ok xs →
      encodeAll b xs = .ok (ss.map current) ∧
        decodeAll b (.sequence ((ss.map current).map .text)) = .ok xs) ∧
    (∀ e ∈ (t.domain.table b).aliases, ∃ c ∈ (t.domain.table b).canonical,
      c.value = e.value ∧ current e.symbol = c.symbol) ∧
    (∀ s, (∀ e ∈ (t.domain.table b).aliases, e.symbol ≠ s) → current s = s) ∧
    ∀ s, current (current s) = current s := by
  have w := t.domain.table_wellFormed b
  refine ⟨fun a f => encode_named_eq_error_iff, fun v f => decode_named_eq_error_iff,
    fun xs => ⟨?writable, fun ss => encodeAll_named_eq_ok_iff,
      fun ss => decodeAll_encodeAll fun _ _ => decode_encode_named,
      fun f => encodeAll_eq_error_iff⟩,
    fun v => ⟨exists_decodeAll_iff, fun xs => decodeAll_eq_ok_iff, fun f => decodeAll_eq_error_iff⟩,
    fun ss xs h => ?rewritten, fun e he => ?older,
    fun s => Table.current_of_not_alias, w.current_current⟩
  case writable => simp only [exists_encodeAll_iff, encode_named_eq_ok_iff]
  case rewritten =>
    have hw := encodeAll_of_decodeAll (fun _ _ => encode_of_decode_named) h
    exact ⟨hw, decodeAll_encodeAll (fun _ _ => decode_encode_named) hw⟩
  case older =>
    obtain ⟨c, hc, hv, hs⟩ := (Table.project_eq_some_iff w.valuesUnique).1 (w.current_alias he)
    exact ⟨c, hc, hv, hs.symm⟩

/-- An older name of the default output is read and gives way to its current one; an element that is
no string is complained of before one that is unknown. -/
theorem stub_named_lossless :
    let values : List NamedType.device.Carrier := [Device.outDefault, Device.inHdmi]
    let texts := ["AUDIO_DEVICE_OUT_STUB", "AUDIO_DEVICE_IN_HDMI"]
    decodeAll .vendor (.sequence (texts.map .text)) = .ok values ∧
      encodeAll .vendor values = .ok ["AUDIO_DEVICE_OUT_DEFAULT", "AUDIO_DEVICE_IN_HDMI"] ∧
      (decodeAll .vendor (.sequence [.text "AUDIO_DEVICE_OUT_STUB", .null, .text "STUB"]) :
        Except Fault (List NamedType.device.Carrier)) = .error (.notText .null .device) := by
  intro values texts
  obtain ⟨-, hfault, -, hread, hwritten, -⟩ := named_lossless .vendor .device
  have hvalues : texts.map (Nameable.ofSymbol? .vendor) = values.map some := by decide +kernel
  have hd : decodeAll .vendor (.sequence (texts.map .text)) = .ok values :=
    ((hread _).2.1 values).2 ⟨texts, rfl, hvalues⟩
  have hcurrent : texts.map (Domain.device.table .vendor).current
      = ["AUDIO_DEVICE_OUT_DEFAULT", "AUDIO_DEVICE_IN_HDMI"] := by decide +kernel
  refine ⟨hd, hcurrent ▸ (hwritten texts values hd).1, ((hread _).2.2 _).2 (.inl ⟨_, rfl, ?_⟩)⟩
  refine ⟨[.text "AUDIO_DEVICE_OUT_STUB"], .null, [.text "STUB"], rfl, ?_, ?_⟩
  · rw [List.forall_mem_singleton]
    exact ⟨_, decode_named_eq_ok_iff.2 (List.cons.inj hvalues).1⟩
  · exact (hfault _ _).2 (.inr ⟨nofun, rfl⟩)

end AudioHal.Wire

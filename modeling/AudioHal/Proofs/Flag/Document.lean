import AudioHal.Flag.Source
import AudioHal.Proofs.Flag.Settings
import AudioHal.Proofs.Text.Utf8
import AudioHal.Proofs.Toml.Keys

/-! # What a document sets

Of a document only its entry `flags` matters: it must be a table of truth values or be missing, and
the document sets what it maps.

* `Flag.SetsFlags`: such an entry. `Flag.Maps`: what it maps.
* `Flag.settings?_eq_some_iff`: the settings of a document are those its entry maps.
* `Flag.SameEntry`, `Flag.settings?_congr`: documents with the same entry have the same settings.
* `Flag.flags_table_decides`: all of it, for texts.
-/

set_option autoImplicit false

namespace AudioHal.Flag

variable {document document' : Toml.Table} {entries entries' : List (String × Toml.Value)}
  {pairs : List (String × Bool)} {settings : Settings} {text origin name : String} {b : Bool}
  {entry entry' : Option Toml.Value}

/-! ## Tables of truth values -/

/-- An entry for flags is missing, or is a table of truth values. -/
def SetsFlags (entry : Option Toml.Value) : Prop :=
  entry = none ∨
    ∃ entries, entry = some (.table entries) ∧ ∀ e ∈ entries, ∃ b, e.2 = .boolean b

/-- An entry for flags maps a name to a truth value. -/
def Maps (entry : Option Toml.Value) (name : String) (b : Bool) : Prop :=
  ∃ entries, entry = some (.table entries) ∧ entries.lookup name = some (.boolean b)

/-- The keys of an entry for flags. -/
def keysOf : Option Toml.Value → List String
  | some (.table entries) => entries.map (·.1)
  | _ => []

theorem setting?_eq_some_iff {e : String × Toml.Value} {p : String × Bool} :
    setting? e = some p ↔ e = (p.1, .boolean p.2) := by
  obtain ⟨name, v⟩ := e
  obtain ⟨name', b⟩ := p
  cases v <;> simp [setting?]

theorem mapM_setting?_eq_some_iff : entries.mapM setting? = some pairs ↔
    entries = pairs.map fun p => (p.1, .boolean p.2) := by
  rw [mapM_eq_some_iff]
  induction entries generalizing pairs with
  | nil => cases pairs <;> simp
  | cons e entries ih => cases pairs <;> simp [ih, setting?_eq_some_iff]

theorem exists_eq_map_boolean_iff : (∃ pairs : List (String × Bool),
    entries = pairs.map fun p => (p.1, .boolean p.2)) ↔ ∀ e ∈ entries, ∃ b, e.2 = .boolean b := by
  constructor
  · rintro ⟨pairs, rfl⟩ e he
    obtain ⟨p, -, rfl⟩ := List.mem_map.1 he
    exact ⟨p.2, rfl⟩
  · intro h
    induction entries with
    | nil => exact ⟨[], rfl⟩
    | cons e entries ih =>
      obtain ⟨⟨b, hb⟩, h⟩ := List.forall_mem_cons.1 h
      obtain ⟨pairs, rfl⟩ := ih h
      exact ⟨(e.1, b) :: pairs, by rw [List.map_cons, ← hb]⟩

/-! ## Settings of a document -/

theorem settings?_eq_some_iff : settings? document = some settings ↔
    document.lookup "flags" = none ∧ settings = .empty ∨
      ∃ pairs : List (String × Bool), settings = .ofList pairs ∧
        document.lookup "flags" = some (.table (pairs.map fun p => (p.1, .boolean p.2))) := by
  unfold settings?
  cases document.lookup "flags" with
  | none => simp [eq_comm]
  | some v =>
    cases v with
    | table entries =>
      simp only [Option.map_eq_some_iff, mapM_setting?_eq_some_iff]
      simp [and_comm, eq_comm]
    | _ => simp

theorem exists_settings?_iff :
    (∃ settings, settings? document = some settings) ↔ SetsFlags (document.lookup "flags") := by
  simp only [settings?_eq_some_iff, SetsFlags]
  constructor
  · rintro ⟨settings, ⟨hnone, -⟩ | ⟨pairs, -, htable⟩⟩
    · exact .inl hnone
    · exact .inr ⟨_, htable, exists_eq_map_boolean_iff.1 ⟨pairs, rfl⟩⟩
  · rintro (hnone | ⟨entries, htable, hall⟩)
    · exact ⟨.empty, .inl ⟨hnone, rfl⟩⟩
    · obtain ⟨pairs, rfl⟩ := exists_eq_map_boolean_iff.2 hall
      exact ⟨.ofList pairs, .inr ⟨pairs, rfl, htable⟩⟩

theorem nodup_entries (h : (Toml.Value.table document).KeysDiffer)
    (hl : document.lookup "flags" = some (.table entries)) : (entries.map (·.1)).Nodup := by
  cases h with
  | table _ hv =>
    cases hv _ (Toml.mem_of_lookup hl) with
    | table hn _ => exact hn

theorem nodup_names {f : String × Bool → String × Toml.Value} (hf : ∀ p, (f p).1 = p.1)
    (h : ((pairs.map f).map (·.1)).Nodup) : (pairs.map (·.1)).Nodup := by
  rw [List.map_map] at h
  rwa [show (fun p : String × Bool => p.1) = (·.1) ∘ f from funext fun p => (hf p).symm]

theorem get?_settings? (h : (Toml.Value.table document).KeysDiffer)
    (hs : settings? document = some settings) :
    settings.get? name = some b ↔ Maps (document.lookup "flags") name b := by
  rcases settings?_eq_some_iff.1 hs with ⟨hnone, rfl⟩ | ⟨pairs, rfl, htable⟩
  · rw [hnone]
    exact iff_of_false nofun nofun
  · have hn := nodup_entries h htable
    rw [Settings.get?_ofList_of_nodup (nodup_names (fun _ => rfl) hn), htable]
    simp [Maps, lookup_eq_some_iff_mem hn]

theorem size_settings? (h : (Toml.Value.table document).KeysDiffer)
    (hs : settings? document = some settings) :
    (keysOf (document.lookup "flags")).Nodup ∧
      settings.size = (keysOf (document.lookup "flags")).length := by
  rcases settings?_eq_some_iff.1 hs with ⟨hnone, rfl⟩ | ⟨pairs, rfl, htable⟩
  · rw [hnone]
    exact ⟨List.nodup_nil, rfl⟩
  · have hn := nodup_entries h htable
    rw [htable, Settings.size_ofList_of_nodup (nodup_names (fun _ => rfl) hn)]
    exact ⟨hn, by simp [keysOf]⟩

/-! ## Documents with one entry -/

/-- Two values are equal up to the order of keys in their tables. -/
inductive SameValue : Toml.Value → Toml.Value → Prop
  | refl (v : Toml.Value) : SameValue v v
  | sequence {items items' : List Toml.Value} : items.length = items'.length →
    (∀ (i : Nat) v v', items[i]? = some v → items'[i]? = some v' → SameValue v v') →
    SameValue (.sequence items) (.sequence items')
  | table {entries entries' : List (String × Toml.Value)} :
    (∀ key, (entries.lookup key).isSome = (entries'.lookup key).isSome) →
    (∀ key v v', entries.lookup key = some v → entries'.lookup key = some v' → SameValue v v') →
    SameValue (.table entries) (.table entries')

theorem SameValue.symm {v v' : Toml.Value} (h : SameValue v v') : SameValue v' v := by
  induction h with
  | refl v => exact .refl v
  | sequence hl _ ih => exact .sequence hl.symm fun i v v' hv hv' => ih i v' v hv' hv
  | table hk _ ih =>
    exact .table (fun key => (hk key).symm) fun key v v' hv hv' => ih key v' v hv' hv

theorem SameValue.eq_boolean {v : Toml.Value} (h : SameValue (.boolean b) v) : v = .boolean b := by
  cases h
  rfl

/-- What stands at a key in one of two equal tables stands there in the other. -/
theorem SameValue.lookup {v : Toml.Value} (h : SameValue (.table entries) (.table entries'))
    (hl : entries.lookup name = some v) :
    ∃ v', entries'.lookup name = some v' ∧ SameValue v v' := by
  cases h with
  | refl => exact ⟨v, hl, .refl v⟩
  | table hk hv =>
    obtain ⟨v', hl'⟩ := Option.isSome_iff_exists.1 ((hk name).symm.trans (by rw [hl]; rfl))
    exact ⟨v', hl', hv name v v' hl hl'⟩

/-- Two entries are both missing or have the same value. -/
abbrev SameEntry : Option Toml.Value → Option Toml.Value → Prop :=
  Option.Rel SameValue

theorem SameEntry.symm (h : SameEntry entry entry') : SameEntry entry' entry := by
  cases h with
  | none => exact .none
  | some h => exact .some h.symm

theorem SameEntry.exists_table (h : SameEntry (some (.table entries)) entry) :
    ∃ entries', entry = some (.table entries') ∧ SameValue (.table entries) (.table entries') := by
  cases h with
  | some h =>
    cases h with
    | refl => exact ⟨entries, rfl, .refl _⟩
    | @table _ entries' hk hv => exact ⟨entries', rfl, .table hk hv⟩

theorem Maps.of_same (h : SameEntry entry entry') (hm : Maps entry name b) :
    Maps entry' name b := by
  obtain ⟨entries, rfl, hl⟩ := hm
  obtain ⟨entries', he, hsame⟩ := h.exists_table
  obtain ⟨v, hl', hv⟩ := hsame.lookup hl
  exact ⟨entries', he, by rw [hl', hv.eq_boolean]⟩

theorem SetsFlags.of_same (h : SameEntry entry (document.lookup "flags"))
    (hd : (Toml.Value.table document).KeysDiffer) (hs : SetsFlags entry) :
    SetsFlags (document.lookup "flags") := by
  rcases hs with rfl | ⟨entries, rfl, hall⟩
  · generalize document.lookup "flags" = entry' at h ⊢
    cases h
    exact .inl rfl
  · obtain ⟨entries', he', hsame⟩ := h.exists_table
    refine .inr ⟨entries', he', fun e he => ?_⟩
    have hl' := (lookup_eq_some_iff_mem (nodup_entries hd he')).2 he
    obtain ⟨v, hl, hv⟩ := hsame.symm.lookup hl'
    obtain ⟨b, rfl⟩ := hall _ (Toml.mem_of_lookup hl)
    exact ⟨b, hv.symm.eq_boolean⟩

theorem settings?_of_same (h : SameEntry (document.lookup "flags") (document'.lookup "flags"))
    (hd : (Toml.Value.table document).KeysDiffer) (hd' : (Toml.Value.table document').KeysDiffer)
    (hs : settings? document = some settings) : settings? document' = some settings := by
  have hsets := (exists_settings?_iff.1 ⟨settings, hs⟩).of_same h hd'
  obtain ⟨settings', hs'⟩ := exists_settings?_iff.2 hsets
  have heq : settings' = settings := by
    refine Settings.eq_of_get? fun name => Option.ext fun b => ?_
    rw [get?_settings? hd hs, get?_settings? hd' hs']
    exact ⟨Maps.of_same h.symm, Maps.of_same h⟩
  rw [hs', heq]

theorem settings?_congr (h : SameEntry (document.lookup "flags") (document'.lookup "flags"))
    (hd : (Toml.Value.table document).KeysDiffer) (hd' : (Toml.Value.table document').KeysDiffer) :
    settings? document = settings? document' :=
  Option.ext fun _ => ⟨settings?_of_same h hd hd', settings?_of_same h.symm hd' hd⟩

/-! ## Texts -/

theorem parse_eq_ok_iff : parse text origin = .ok settings ↔
    ∃ document, Toml.parse text = some document ∧ settings? document = some settings := by
  rw [← Option.bind_eq_some_iff, parse]
  cases (Toml.parse text).bind settings? <;> simp

theorem parse_eq_error (h : ∀ settings, parse text origin ≠ .ok settings) :
    parse text origin = .error (.malformed origin) := by
  unfold parse at *
  split
  · rename_i settings hs
    exact absurd (by rw [hs]) (h settings)
  · rfl

/-- **A document sets what its entry `flags` maps, and nothing else in it matters.** It is accepted
if there is no such entry or if it is a table of truth values; one other value in that table is
enough to refuse the whole. What is accepted answers with the truth value that the table maps a name
to, and with nothing for other names. Documents that have the same entry are accepted alike and
answer alike. -/
theorem flags_table_decides {text : String} {document : Toml.Table}
    (h : Toml.parse text = some document) :
    let entry := document.lookup "flags"
    ((∃ settings, parse text inlineOrigin = .ok settings) ↔ SetsFlags entry) ∧
    (¬SetsFlags entry → parse text inlineOrigin = .error (.malformed inlineOrigin)) ∧
    (∀ settings, parse text inlineOrigin = .ok settings →
      (∀ host flag, (∃ answer, Leaf.read host (.document settings) flag = .ok answer) ∧
        ∀ b, Leaf.read host (.document settings) flag = .ok (some b) ↔ Maps entry flag b) ∧
      (keysOf entry).Nodup ∧ settings.size = (keysOf entry).length) ∧
    ∀ text' document', Toml.parse text' = some document' →
      SameEntry entry (document'.lookup "flags") →
      parse text inlineOrigin = parse text' inlineOrigin := by
  intro entry
  have hd := Toml.keysDiffer_of_parse h
  have hok : ∀ settings,
      parse text inlineOrigin = .ok settings ↔ settings? document = some settings := by
    simp [parse_eq_ok_iff, h]
  have haccepted : (∃ settings, parse text inlineOrigin = .ok settings) ↔ SetsFlags entry := by
    simp only [hok, exists_settings?_iff, entry]
  refine ⟨haccepted, fun hn => parse_eq_error fun settings hs => hn (haccepted.1 ⟨settings, hs⟩),
    fun settings hs => ?_, fun text' document' h' he => ?_⟩
  · rw [hok] at hs
    refine ⟨fun host flag => ⟨⟨_, rfl⟩, fun b => ?_⟩, size_settings? hd hs⟩
    rw [Leaf.read, Except.ok.injEq]
    exact get?_settings? hd hs
  · have hd' := Toml.keysDiffer_of_parse h'
    unfold parse
    rw [h, h', Option.bind_some, Option.bind_some, settings?_congr he hd hd']

/-- A dotted key makes a table like any other, and one list among its values spoils it. -/
theorem dotted_flags_table_decides :
    (∃ settings, parse "flags.a = true\nother = 1" inlineOrigin = .ok settings ∧
      settings.size = 1 ∧
      ∀ host b, Leaf.read host (.document settings) "a" = .ok (some b) ↔ b = true) ∧
    parse "flags.a = true\nother = 1" inlineOrigin = parse "[flags]\na = true" inlineOrigin ∧
    parse "[flags]\na = true\nb = [true]" inlineOrigin = .error (.malformed inlineOrigin) := by
  have hdotted : Toml.parse "flags.a = true\nother = 1" =
      some [("flags", .table [("a", .boolean true)]), ("other", .integer 1)] := by cbv
  have htable : Toml.parse "[flags]\na = true" =
      some [("flags", .table [("a", .boolean true)])] := by cbv
  have hspoiled : Toml.parse "[flags]\na = true\nb = [true]" =
      some [("flags", .table [("a", .boolean true), ("b", .sequence [.boolean true])])] := by cbv
  obtain ⟨haccepted, -, hread, hsame⟩ := flags_table_decides hdotted
  obtain ⟨settings, hs⟩ := haccepted.2 (.inr ⟨_, rfl, by simp⟩)
  obtain ⟨hanswer, -, hsize⟩ := hread settings hs
  refine ⟨⟨settings, hs, hsize, fun host b => ?_⟩, hsame _ _ htable (.some (.refl _)), ?_⟩
  · rw [(hanswer host "a").2 b]
    simp [Maps, List.lookup, eq_comm]
  · refine (flags_table_decides hspoiled).2.1 ?_
    rintro (hnone | ⟨entries, he, hall⟩)
    · cases hnone
    · cases he
      obtain ⟨b, hb⟩ := hall ("b", .sequence [.boolean true]) (.tail _ (.head _))
      cases hb

end AudioHal.Flag

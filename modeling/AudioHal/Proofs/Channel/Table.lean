import AudioHal.Proofs.Catalog

/-! # The names of channel masks, over all directions

The tables of the three directions can be used as if they were one: a row of one and a row of
another that have a symbol or a named value in common are one and the same row.

* `ChannelMask.table_consistent`: any two of the tables agree in this sense.
* `ChannelMask.symbol?_agree`, `ChannelMask.ofSymbol?_agree`: hence neither the symbol of a mask nor
  the mask of a symbol depends on the direction that has it.
* `ChannelMask.findSome?_ofSymbol?_eq_some_iff`: the directions may be asked in any order.
* `ChannelMask.firstSymbol?`: the symbol of a mask, without saying in which direction.
* `ChannelMask.representation?_of_symbol?`: the tag of a named mask tells which directions can have
  its symbol.
* `ChannelMask.exists_symbol?_of_ofSymbol?`: a mask that has been parsed has a symbol, the one
  parsed unless that is an older one (`ChannelMask.IsAlias`).
* `ChannelMask.Speakable`: the masks that symbols can stand for.
-/

set_option autoImplicit false

namespace AudioHal

/-! ## Tables that agree -/

namespace Table

variable {α : Type} {t u : Table α}

/-- Rows of two tables that have a symbol or a named value in common are the same row. -/
def Consistent (t u : Table α) : Prop :=
  ∀ e ∈ t.entries, ∀ e' ∈ u.entries, e.symbol = e'.symbol ∨ e.SharesValue e' → e = e'

instance [DecidableEq α] (t u : Table α) : Decidable (t.Consistent u) := by
  unfold Consistent
  infer_instance

theorem Consistent.symm (h : t.Consistent u) : u.Consistent t := by
  rintro e he e' he' (hs | ⟨hg, hg', hv⟩)
  · exact (h e' he' e he (.inl hs.symm)).symm
  · exact (h e' he' e he (.inr ⟨hg', hg, hv.symm⟩)).symm

theorem WellFormed.consistent (w : t.WellFormed) : t.Consistent t := by
  rintro e he e' he' (hs | ⟨hg, hg', hv⟩)
  · exact w.symbolsUnique e he e' he' hs
  · exact w.valuesUnique e (mem_canonical.2 ⟨he, hg⟩) e' (mem_canonical.2 ⟨he', hg'⟩) hv

theorem Consistent.parseWith_agree (h : t.Consistent u) {s : String} {v v' : Visibility} {a a' : α}
    (ht : t.parseWith s v = some a) (hu : u.parseWith s v' = some a') : a = a' := by
  obtain ⟨e, he, -, rfl, rfl⟩ := exists_of_parseWith_eq_some ht
  obtain ⟨e', he', -, hs, rfl⟩ := exists_of_parseWith_eq_some hu
  rw [h e he e' he' (.inl hs.symm)]

end Table

namespace ChannelMask

open Table

/-! ## Rows -/

theorem table_wellFormed (d : Direction) : (table d).WellFormed := by
  cases d with
  | output => exact Domain.table_wellFormed .framework .outputChannelMask
  | input => exact Domain.table_wellFormed .framework .inputChannelMask
  | index => exact Domain.table_wellFormed .framework .indexChannelMask

theorem table_consistent (d d' : Direction) : (table d).Consistent (table d') := by
  -- the relation is symmetric, so that three pairs are enough
  have hoi : (table .output).Consistent (table .input) := by decide +kernel
  have hox : (table .output).Consistent (table .index) := by decide +kernel
  have hix : (table .input).Consistent (table .index) := by decide +kernel
  cases d <;> cases d' <;>
    first | exact (table_wellFormed _).consistent | assumption | (apply Consistent.symm; assumption)

/-- Nothing about masks is reserved for the framework. -/
theorem role_ne_frameworkOnly (d : Direction) :
    ∀ e ∈ (table d).entries, e.role ≠ .frameworkOnly := by
  cases d <;> decide +kernel

theorem isParsed_of_givesSymbol {d : Direction} {e : Entry ChannelMask}
    (he : e ∈ (table d).entries) (hg : e.role.givesSymbol) (v : Visibility) :
    e.role.isParsed v := by
  rw [Role.isParsed_eq (role_ne_frameworkOnly d e he) v .framework]
  exact Role.isParsed_framework hg

/-- How masks that have names in a direction are represented, apart from the empty one. -/
def Direction.representation : Direction → Representation
  | .output => .position
  | .input => .position
  | .index => .index

theorem representation?_of_row (d : Direction) : ∀ e ∈ (table d).canonical,
    e.value = .none ∨ e.value.representation? = some d.representation := by
  cases d <;> decide +kernel

theorem ne_all_of_row (d : Direction) : ∀ e ∈ (table d).canonical,
    e.value ≠ .outAll ∧ e.value ≠ .inAll := by
  cases d <;> decide +kernel

/-! ## Symbols of masks -/

variable {b : Build} {d d' : Direction} {m m' : ChannelMask} {s s' : String}

theorem symbol?_eq_some_iff :
    m.symbol? d = some s ↔ ∃ e ∈ (table d).canonical, e.value = m ∧ e.symbol = s :=
  project_eq_some_iff (table_wellFormed d).valuesUnique

theorem ofSymbol?_eq_some_iff : ofSymbol? b d s = some m ↔
    ∃ e ∈ (table d).entries, e.role.isParsed b.visibility ∧ e.symbol = s ∧ e.value = m :=
  parseWith_eq_some_iff (table_wellFormed d).symbolsUnique

/-- A parsed mask comes from a row that is no sentinel. -/
theorem exists_row_of_ofSymbol? (h : ofSymbol? b d s = some m) :
    ∃ e ∈ (table d).entries, e.role ≠ .sentinel ∧ e.symbol = s ∧ e.value = m := by
  obtain ⟨e, he, hp, hs, hm⟩ := ofSymbol?_eq_some_iff.1 h
  refine ⟨e, he, fun hr => ?_, hs, hm⟩
  rw [hr, Role.isParsed_sentinel] at hp
  cases hp

/-- The empty mask is named alike in every direction. -/
theorem none_symbol? (d : Direction) : ChannelMask.none.symbol? d = some "AUDIO_CHANNEL_NONE" := by
  cases d <;> rfl

theorem symbol?_agree (h : m.symbol? d = some s) (h' : m.symbol? d' = some s') : s = s' := by
  obtain ⟨e, he, rfl, rfl⟩ := symbol?_eq_some_iff.1 h
  obtain ⟨e', he', hv, rfl⟩ := symbol?_eq_some_iff.1 h'
  obtain ⟨he, hg⟩ := mem_canonical.1 he
  obtain ⟨he', hg'⟩ := mem_canonical.1 he'
  rw [table_consistent d d' e he e' he' (.inr ⟨hg, hg', hv.symm⟩)]

theorem ofSymbol?_agree (h : ofSymbol? b d s = some m) (h' : ofSymbol? b d' s = some m') :
    m = m' :=
  (table_consistent d d').parseWith_agree h h'

/-- Whatever the order in which all directions are asked, the first answer is the only one. -/
theorem findSome?_ofSymbol?_eq_some_iff {ds : List Direction} (hds : ∀ d, d ∈ ds) :
    ds.findSome? (fun d => ofSymbol? b d s) = some m ↔ ∃ d, ofSymbol? b d s = some m := by
  constructor
  · intro h
    obtain ⟨d, -, hd⟩ := List.exists_of_findSome?_eq_some h
    exact ⟨d, hd⟩
  · rintro ⟨d, hd⟩
    cases h : ds.findSome? fun d => ofSymbol? b d s with
    | none =>
      have hnone := List.findSome?_eq_none_iff.1 h d (hds d)
      rw [hd] at hnone
      cases hnone
    | some m' =>
      obtain ⟨d', -, hd'⟩ := List.exists_of_findSome?_eq_some h
      rw [ofSymbol?_agree hd' hd]

theorem ofSymbol?_of_symbol? (b : Build) (h : m.symbol? d = some s) : ofSymbol? b d s = some m := by
  obtain ⟨e, he, hv, hs⟩ := symbol?_eq_some_iff.1 h
  obtain ⟨he, hg⟩ := mem_canonical.1 he
  exact ofSymbol?_eq_some_iff.2 ⟨e, he, isParsed_of_givesSymbol he hg _, hs, hv⟩

/-- A mask that is not empty has a symbol only in the directions that its tag allows. -/
theorem representation?_of_symbol? (h : m.symbol? d = some s) (hm : m ≠ .none) :
    m.representation? = some d.representation := by
  obtain ⟨e, he, rfl, -⟩ := symbol?_eq_some_iff.1 h
  exact (representation?_of_row d e he).resolve_left hm

/-- A tag rules out the directions of the other representation. -/
theorem symbol?_eq_none (hm : m ≠ .none) (hr : m.representation? ≠ some d.representation) :
    m.symbol? d = none := by
  cases h : m.symbol? d with
  | none => rfl
  | some s => exact absurd (representation?_of_symbol? h hm) hr

/-- The symbol of a mask in the first direction that has one. -/
def firstSymbol? (m : ChannelMask) : Option String :=
  m.symbol? .output <|> m.symbol? .input <|> m.symbol? .index

/-- Any direction that has a symbol has the first one. -/
theorem firstSymbol?_eq_some_iff : m.firstSymbol? = some s ↔ ∃ d, m.symbol? d = some s := by
  simp only [firstSymbol?, Option.orElse_eq_orElse, Option.orElse_eq_or, Option.or_eq_some_iff]
  constructor
  · rintro (h | ⟨-, h | ⟨-, h⟩⟩) <;> exact ⟨_, h⟩
  · rintro ⟨d, h⟩
    rcases ho : m.symbol? .output with _ | s'
    · rcases hi : m.symbol? .input with _ | s'
      · cases d with
        | output => rw [ho] at h; cases h
        | input => rw [hi] at h; cases h
        | index => exact .inr ⟨rfl, .inr ⟨rfl, h⟩⟩
      · exact .inr ⟨rfl, .inl (congrArg some (symbol?_agree hi h))⟩
    · exact .inl (congrArg some (symbol?_agree ho h))

/-! ## Older symbols -/

/-- An older symbol of a mask, in some direction. -/
def IsAlias (s : String) : Prop :=
  ∃ d, ∃ e ∈ (table d).aliases, e.symbol = s

/-- A symbol that a row gives to its value is nowhere an older one. -/
theorem not_isAlias_of_row {e : Entry ChannelMask} (he : e ∈ (table d).entries)
    (hg : e.role.givesSymbol) : ¬IsAlias e.symbol := by
  rintro ⟨d', a, ha, hs⟩
  obtain ⟨ha, hl⟩ := mem_aliases.1 ha
  rw [table_consistent d d' e he a ha (.inl hs.symm), hl] at hg
  cases hg

/-- A mask that has been parsed has a symbol: the one parsed, unless that is an older one. -/
theorem exists_symbol?_of_ofSymbol? (h : ofSymbol? b d s = some m) :
    ∃ c, m.symbol? d = some c ∧ (c = s ↔ ¬IsAlias s) := by
  have w := table_wellFormed d
  obtain ⟨e, he, hp, rfl, rfl⟩ := ofSymbol?_eq_some_iff.1 h
  rcases Role.givesSymbol_or_legacy hp with hg | hl
  · exact ⟨e.symbol, w.project_row he hg, iff_of_true rfl (not_isAlias_of_row he hg)⟩
  · obtain ⟨c, hc, hne⟩ := w.project_alias he hl
    exact ⟨c, hc, iff_of_false hne (not_not_intro ⟨d, e, mem_aliases.2 ⟨he, hl⟩, rfl⟩)⟩

/-! ## Masks without names -/

/-- A mask that a symbol can stand for: it has a tag that means something and is neither the mask
of all outputs nor that of all inputs. -/
structure Speakable (m : ChannelMask) : Prop where
  ne_invalid : m ≠ .invalid
  ne_outAll : m ≠ .outAll
  ne_inAll : m ≠ .inAll
  tag : m.bits >>> 30 ≠ 1 ∧ m.bits >>> 30 ≠ 3

theorem speakable_of_symbol? (h : m.symbol? d = some s) : m.Speakable := by
  obtain ⟨e, he, rfl, -⟩ := symbol?_eq_some_iff.1 h
  obtain ⟨hout, hin⟩ := ne_all_of_row d e he
  have hr : e.value.representation? ≠ none := by
    rcases representation?_of_row d e he with hv | hv
    · rw [hv]; decide
    · rw [hv]; nofun
  refine ⟨fun hv => hr (by rw [hv]; rfl), hout, hin, fun ht => hr ?_, fun ht => hr ?_⟩ <;>
    rw [representation?, ht] <;> rfl

end ChannelMask

end AudioHal

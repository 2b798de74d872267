import AudioHal.Toml.Document
import Mathlib

/-! # Keys of a document

However a document is written, no table in it has a key twice: every line that would give one a
second time is refused.

* `Toml.Value.KeysDiffer`: no table inside a value has a key twice.
* `Toml.keysDiffer_put`: the one way to change an unfinished table keeps it so.
* `Toml.keysDiffer_assign`, `Toml.keysDiffer_within`: assignments and headers do, at any depth.
* `Toml.Reader.Yields`, `Toml.value_keysDiffer`: values that are written on one spot, among them
  inline tables.
* `Toml.keysDiffer_of_parse`: whole documents.
-/

set_option autoImplicit false

namespace AudioHal.Toml

/-- No table inside a value has a key twice. -/
inductive Value.KeysDiffer : Value → Prop
  | text (s : String) : KeysDiffer (.text s)
  | integer (n : Int) : KeysDiffer (.integer n)
  | real (negative : Bool) (m : Magnitude) : KeysDiffer (.real negative m)
  | boolean (b : Bool) : KeysDiffer (.boolean b)
  | moment (m : Moment) : KeysDiffer (.moment m)
  | sequence {items : List Value} : (∀ v ∈ items, v.KeysDiffer) → KeysDiffer (.sequence items)
  | table {entries : List (String × Value)} : (entries.map (·.1)).Nodup →
    (∀ e ∈ entries, e.2.KeysDiffer) → KeysDiffer (.table entries)

variable {entries sub : Entries} {ts : List Entries} {item : Item} {v : Value}
  {key : String} {path : List String}

/-! ## Unfinished tables -/

theorem plainEntries_eq (entries : Entries) :
    plainEntries entries = entries.map fun e => (e.1, e.2.plain) := by
  induction entries with
  | nil => rfl
  | cons e rest ih => rw [plainEntries, ih, List.map_cons]

theorem plainElements_eq (ts : List Entries) :
    plainElements ts = ts.map fun entries => .table (plainEntries entries) := by
  induction ts with
  | nil => rfl
  | cons entries rest ih => rw [plainElements, ih, List.map_cons]

/-- An unfinished table is going to have no key twice, nor any table inside it. -/
def KeysDiffer (entries : Entries) : Prop :=
  (Value.table (plainEntries entries)).KeysDiffer

theorem keysDiffer_iff : KeysDiffer entries ↔
    (entries.map (·.1)).Nodup ∧ ∀ e ∈ entries, e.2.plain.KeysDiffer := by
  have hkeys : (plainEntries entries).map (·.1) = entries.map (·.1) := by
    rw [plainEntries_eq, List.map_map]
    rfl
  unfold KeysDiffer
  constructor
  · intro h
    cases h with
    | table hn hv =>
      refine ⟨hkeys ▸ hn, fun e he => hv (e.1, e.2.plain) ?_⟩
      rw [plainEntries_eq]
      exact List.mem_map_of_mem he
  · rintro ⟨hn, hv⟩
    refine .table (hkeys ▸ hn) fun e he => ?_
    rw [plainEntries_eq] at he
    obtain ⟨d, hd, rfl⟩ := List.mem_map.1 he
    exact hv d hd

theorem keysDiffer_nil : KeysDiffer [] :=
  keysDiffer_iff.2 ⟨List.nodup_nil, nofun⟩

theorem keysDiffer_tables_iff :
    (Item.tables ts).plain.KeysDiffer ↔ ∀ entries ∈ ts, KeysDiffer entries := by
  rw [Item.plain, plainElements_eq]
  constructor
  · intro h entries he
    cases h with
    | sequence hv => exact hv _ (List.mem_map_of_mem he)
  · intro h
    refine .sequence fun v hv => ?_
    obtain ⟨entries, he, rfl⟩ := List.mem_map.1 hv
    exact h entries he

theorem mem_of_lookup {α : Type} {pairs : List (String × α)} {a : α}
    (h : pairs.lookup key = some a) : (key, a) ∈ pairs := by
  obtain ⟨before, after, rfl, -⟩ := List.lookup_eq_some_iff.1 h
  exact List.mem_append_right _ List.mem_cons_self

theorem keysDiffer_of_lookup (h : KeysDiffer entries) (hl : entries.lookup key = some item) :
    item.plain.KeysDiffer :=
  (keysDiffer_iff.1 h).2 _ (mem_of_lookup hl)

theorem keysDiffer_put (h : KeysDiffer entries) (hi : item.plain.KeysDiffer) :
    KeysDiffer (put key item entries) := by
  obtain ⟨hn, hv⟩ := keysDiffer_iff.1 h
  rw [keysDiffer_iff]
  unfold put
  split
  · have hkeys : (entries.map fun e => if e.1 = key then (key, item) else e).map (·.1) =
        entries.map (·.1) := by
      rw [List.map_map]
      refine List.map_congr_left fun e _ => ?_
      by_cases he : e.1 = key <;> simp [he]
    refine ⟨hkeys ▸ hn, fun e he => ?_⟩
    obtain ⟨d, hd, rfl⟩ := List.mem_map.1 he
    split
    · exact hi
    · exact hv d hd
  · rename_i hnone
    have hfresh : key ∉ entries.map (·.1) := by
      intro hm
      obtain ⟨e, he, rfl⟩ := List.mem_map.1 hm
      have hne := List.lookup_eq_none_iff.1 (Option.not_isSome_iff_eq_none.1 hnone) e he
      simp at hne
    refine ⟨?_, fun e he => ?_⟩
    · rw [List.map_append, List.map_singleton]
      refine List.nodup_append.2 ⟨hn, List.nodup_singleton _, fun d hd c hc => ?_⟩
      rw [List.mem_singleton.1 hc]
      rintro rfl
      exact hfresh hd
    · rcases List.mem_append.1 he with he | he
      · exact hv e he
      · rw [List.mem_singleton.1 he]
        exact hi

/-! ## Lines -/

theorem keysDiffer_getLast (h : (Item.tables ts).plain.KeysDiffer) :
    KeysDiffer (ts.getLast?.getD []) := by
  rw [keysDiffer_tables_iff] at h
  cases he : ts.getLast? with
  | none => exact keysDiffer_nil
  | some entries => exact h entries (List.mem_of_getLast? he)

theorem keysDiffer_replaceLast (h : (Item.tables ts).plain.KeysDiffer)
    (hs : KeysDiffer sub) : (replaceLast ts sub).plain.KeysDiffer := by
  unfold replaceLast
  rw [keysDiffer_tables_iff] at *
  intro entries he
  rcases List.mem_append.1 he with he | he
  · exact h entries (List.dropLast_subset _ he)
  · rw [List.mem_singleton.1 he]
    exact hs

/-- What changes the table at a key keeps the whole table right. -/
theorem keysDiffer_of_map_put {make : Entries → Item} {result : Option Entries} {after : Entries}
    (h : KeysDiffer entries) (hm : (result.map fun sub => put key (make sub) entries) = some after)
    (hs : ∀ sub, result = some sub → (make sub).plain.KeysDiffer) : KeysDiffer after := by
  obtain ⟨sub, hsub, rfl⟩ := Option.map_eq_some_iff.1 hm
  exact keysDiffer_put h (hs sub hsub)

theorem keysDiffer_assign (hv : v.KeysDiffer) {after : Entries} (h : KeysDiffer entries)
    (ha : assign v path entries = some after) : KeysDiffer after := by
  induction path generalizing entries after with
  | nil => cases ha
  | cons key path ih =>
    cases path with
    | nil =>
      unfold assign at ha
      split at ha
      · cases ha
      · cases ha
        exact keysDiffer_put h hv
    | cons next path =>
      unfold assign at ha
      cases hl : entries.lookup key with
      | none =>
        simp only [hl] at ha
        exact keysDiffer_of_map_put h ha fun sub hs => ih keysDiffer_nil hs
      | some item =>
        have hi := keysDiffer_of_lookup h hl
        cases item with
        | value => simp [hl] at ha
        | table standing sub =>
          cases standing with
          | explicit => simp [hl] at ha
          | implied =>
            simp only [hl] at ha
            split at ha
            · cases ha
            · exact keysDiffer_of_map_put h ha fun sub hs => ih hi hs
          | dotted =>
            simp only [hl] at ha
            exact keysDiffer_of_map_put h ha fun sub hs => ih hi hs
        | tables elements =>
          simp only [hl] at ha
          split at ha
          · cases ha
          · exact keysDiffer_of_map_put h ha fun sub hs =>
              keysDiffer_replaceLast hi (ih (keysDiffer_getLast hi) hs)

/-- What a change does to a table it also does to a table inside another. -/
theorem keysDiffer_within {change : Entries → Option Entries}
    (hc : ∀ {before after}, KeysDiffer before → change before = some after → KeysDiffer after)
    {after : Entries} (h : KeysDiffer entries) (hw : within change path entries = some after) :
    KeysDiffer after := by
  induction path generalizing entries after with
  | nil => exact hc h hw
  | cons key path ih =>
    unfold within at hw
    cases hl : entries.lookup key with
    | none =>
      simp only [hl] at hw
      exact keysDiffer_of_map_put h hw fun sub hs => ih keysDiffer_nil hs
    | some item =>
      have hi := keysDiffer_of_lookup h hl
      cases item with
      | value => simp [hl] at hw
      | table standing sub =>
        simp only [hl] at hw
        exact keysDiffer_of_map_put h hw fun sub hs => ih hi hs
      | tables elements =>
        simp only [hl] at hw
        exact keysDiffer_of_map_put h hw fun sub hs =>
          keysDiffer_replaceLast hi (ih (keysDiffer_getLast hi) hs)

theorem keysDiffer_openTable {after : Entries} (h : KeysDiffer entries)
    (ho : openTable key entries = some after) : KeysDiffer after := by
  unfold openTable at ho
  split at ho
  · cases ho
    exact keysDiffer_put h keysDiffer_nil
  · rename_i sub hl
    cases ho
    have hi := keysDiffer_of_lookup h hl
    exact keysDiffer_put h hi
  · cases ho

theorem keysDiffer_openElement {after : Entries} (h : KeysDiffer entries)
    (ho : openElement key entries = some after) : KeysDiffer after := by
  unfold openElement at ho
  split at ho
  · cases ho
    refine keysDiffer_put h (keysDiffer_tables_iff.2 fun entries he => ?_)
    rw [List.mem_singleton.1 he]
    exact keysDiffer_nil
  · rename_i elements hl
    cases ho
    have hi := keysDiffer_tables_iff.1 (keysDiffer_of_lookup h hl)
    refine keysDiffer_put h (keysDiffer_tables_iff.2 fun entries he => ?_)
    rcases List.mem_append.1 he with he | he
    · exact hi entries he
    · rw [List.mem_singleton.1 he]
      exact keysDiffer_nil
  · cases ho

/-! ## Values -/

/-- Whatever a reader recognises has a property. -/
def Reader.Yields {α : Type} (r : Reader α) (P : α → Prop) : Prop :=
  ∀ cs a rest, r cs = some (a, rest) → P a

theorem Reader.exists_of_map {α β : Type} {r : Reader α} {f : α → β} {cs rest : List Char} {b : β}
    (h : r.map f cs = some (b, rest)) : ∃ a, r cs = some (a, rest) ∧ b = f a := by
  obtain ⟨⟨a, rest⟩, ha, he⟩ := Option.map_eq_some_iff.1 h
  cases he
  exact ⟨a, ha, rfl⟩

theorem real?_keysDiffer {negative : Bool} {digits places : List Char} {power : Int}
    (h : real? negative digits places power = some v) : v.KeysDiffer := by
  simp only [real?, Option.ite_none_left_eq_some, Option.some.injEq] at h
  rw [← h.2]
  exact .real _ _

theorem integer?_keysDiffer {negative : Bool} {n : Nat} (h : integer? negative n = some v) :
    v.KeysDiffer := by
  simp only [integer?, Option.ite_none_right_eq_some, Option.some.injEq] at h
  rw [← h.2]
  exact .integer _

theorem keysDiffer_of_map_pair {o : Option Value} {rest rest' : List Char}
    (h : (o.map fun w => (w, rest)) = some (v, rest')) (ho : ∀ w, o = some w → w.KeysDiffer) :
    v.KeysDiffer := by
  obtain ⟨w, hw, he⟩ := Option.map_eq_some_iff.1 h
  cases he
  exact ho _ hw

theorem unsigned_keysDiffer (negative : Bool) : (unsigned negative).Yields Value.KeysDiffer := by
  intro cs v rest h
  unfold unsigned at h
  split at h
  · cases h
    exact .real _ _
  · cases h
    exact .real _ _
  · obtain ⟨⟨digits, rest⟩, -, h⟩ := Option.bind_eq_some_iff.1 h
    simp only at h
    split at h
    · split at h
      · exact keysDiffer_of_map_pair h fun w => real?_keysDiffer
      · exact keysDiffer_of_map_pair h fun w => real?_keysDiffer
    · split at h
      · exact keysDiffer_of_map_pair h fun w => real?_keysDiffer
      · exact keysDiffer_of_map_pair h fun w => integer?_keysDiffer

theorem basedInteger_keysDiffer : basedInteger.Yields Value.KeysDiffer := by
  have hbased : ∀ base, Reader.Yields (basedInteger.based base) Value.KeysDiffer := by
    intro base cs v rest h
    obtain ⟨⟨digits, rest⟩, -, h⟩ := Option.bind_eq_some_iff.1 h
    exact keysDiffer_of_map_pair h fun w => integer?_keysDiffer
  intro cs v rest h
  unfold basedInteger at h
  split at h
  · exact hbased _ _ _ _ h
  · exact hbased _ _ _ _ h
  · exact hbased _ _ _ _ h
  · cases h

theorem Reader.Yields.orElse {α : Type} {r s : Reader α} {P : α → Prop} (hr : r.Yields P)
    (hs : s.Yields P) : Reader.Yields (fun cs => (r cs <|> s cs)) P := by
  intro cs a rest h
  cases hc : r cs with
  | none => exact hs cs a rest (by simpa [hc] using h)
  | some p => exact hr cs a rest (by simpa [hc] using h)

theorem scalar_keysDiffer : scalar.Yields Value.KeysDiffer := by
  have htext : (Reader.map Value.text anyString).Yields Value.KeysDiffer := by
    intro cs v rest h
    obtain ⟨s, -, rfl⟩ := Reader.exists_of_map h
    exact .text s
  have hmoment : (Reader.map Value.moment moment).Yields Value.KeysDiffer := by
    intro cs v rest h
    obtain ⟨m, -, rfl⟩ := Reader.exists_of_map h
    exact .moment m
  have hnumber : number.Yields Value.KeysDiffer := fun _ _ _ h => unsigned_keysDiffer _ _ _ _ h
  intro cs v rest h
  unfold scalar at h
  split at h
  · cases h
    exact .boolean _
  · cases h
    exact .boolean _
  · exact (htext.orElse (hmoment.orElse basedInteger_keysDiffer)).orElse hnumber _ _ _ h

theorem elements_keysDiffer {r : Reader Value} (hr : r.Yields Value.KeysDiffer) (n : Nat) :
    (elements r n).Yields fun vs => ∀ v ∈ vs, v.KeysDiffer := by
  induction n with
  | zero => nofun
  | succ n ih =>
    intro cs vs rest h
    unfold elements at h
    split at h
    · cases h
      nofun
    · obtain ⟨⟨v, rest⟩, hv, h⟩ := Option.bind_eq_some_iff.1 h
      have hv := hr _ _ _ hv
      simp only at h
      split at h
      · obtain ⟨vs, hvs, rfl⟩ := Reader.exists_of_map h
        exact List.forall_mem_cons.2 ⟨hv, ih _ _ _ hvs⟩
      · cases h
        exact List.forall_mem_cons.2 ⟨hv, nofun⟩
      · cases h

theorem binding_keysDiffer {r : Reader Value} (hr : r.Yields Value.KeysDiffer) :
    (binding r).Yields fun b => b.2.KeysDiffer := by
  intro cs b rest h
  obtain ⟨⟨path, rest⟩, -, h⟩ := Option.bind_eq_some_iff.1 h
  simp only at h
  split at h
  · obtain ⟨v, hv, rfl⟩ := Reader.exists_of_map h
    exact hr _ _ _ hv
  · cases h

theorem bindings_keysDiffer {r : Reader Value} (hr : r.Yields Value.KeysDiffer) (n : Nat) :
    (bindings r n).Yields fun bs => ∀ b ∈ bs, b.2.KeysDiffer := by
  induction n with
  | zero => nofun
  | succ n ih =>
    intro cs bs rest h
    obtain ⟨⟨b, rest⟩, hb, h⟩ := Option.bind_eq_some_iff.1 h
    have hb := binding_keysDiffer hr _ _ _ hb
    simp only at h
    split at h
    · obtain ⟨bs, hbs, rfl⟩ := Reader.exists_of_map h
      exact List.forall_mem_cons.2 ⟨hb, ih _ _ _ hbs⟩
    · cases h
      exact List.forall_mem_cons.2 ⟨hb, nofun⟩
    · cases h

theorem keysDiffer_assignAll {bs : List (List String × Value)} (hb : ∀ b ∈ bs, b.2.KeysDiffer)
    {after : Entries} (h : KeysDiffer entries)
    (ha : bs.foldlM (fun entries (path, v) => assign v path entries) entries = some after) :
    KeysDiffer after := by
  induction bs generalizing entries with
  | nil =>
    cases ha
    exact h
  | cons b bs ih =>
    obtain ⟨hv, hb⟩ := List.forall_mem_cons.1 hb
    rw [List.foldlM_cons] at ha
    obtain ⟨next, hn, ha⟩ := Option.bind_eq_some_iff.1 ha
    exact ih hb (keysDiffer_assign hv h hn) ha

theorem inlineTable_keysDiffer {r : Reader Value} (hr : r.Yields Value.KeysDiffer) :
    (inlineTable r).Yields Value.KeysDiffer := by
  intro cs v rest h
  unfold inlineTable at h
  split at h
  · cases h
    exact keysDiffer_nil
  · obtain ⟨⟨bs, rest⟩, hbs, h⟩ := Option.bind_eq_some_iff.1 h
    obtain ⟨entries, he, heq⟩ := Option.map_eq_some_iff.1 h
    cases heq
    exact keysDiffer_assignAll (bindings_keysDiffer hr _ _ _ _ hbs) keysDiffer_nil he

theorem value_keysDiffer (depth : Nat) : (value depth).Yields Value.KeysDiffer := by
  induction depth with
  | zero => exact scalar_keysDiffer
  | succ depth ih =>
    intro cs v rest h
    unfold value at h
    split at h
    · obtain ⟨vs, hvs, rfl⟩ := Reader.exists_of_map h
      exact .sequence (elements_keysDiffer ih _ _ _ _ hvs)
    · exact inlineTable_keysDiffer ih _ _ _ h
    · exact scalar_keysDiffer _ _ _ h

/-! ## Documents -/

/-- A line gives no key a value with a table that has a key twice. -/
def Statement.KeysDiffer : Statement → Prop
  | .assignment _ v => v.KeysDiffer
  | _ => True

theorem statement_keysDiffer : statement.Yields Statement.KeysDiffer := by
  intro cs s rest h
  unfold statement at h
  split at h
  · obtain ⟨⟨path, rest⟩, -, h⟩ := Option.bind_eq_some_iff.1 h
    simp only at h
    split at h
    · cases h
      trivial
    · cases h
  · obtain ⟨⟨path, rest⟩, -, h⟩ := Option.bind_eq_some_iff.1 h
    simp only at h
    split at h
    · cases h
      trivial
    · cases h
  · obtain ⟨b, hb, rfl⟩ := Reader.exists_of_map h
    exact binding_keysDiffer (value_keysDiffer _) _ _ _ hb

theorem statements_keysDiffer {n : Nat} {cs : List Char} {lines : List Statement}
    (h : statements n cs = some lines) : ∀ s ∈ lines, s.KeysDiffer := by
  induction n generalizing cs lines with
  | zero => cases h
  | succ n ih =>
    unfold statements at h
    split at h
    · cases h
      nofun
    · split at h
      · obtain ⟨rest, -, h⟩ := Option.bind_eq_some_iff.1 h
        exact ih h
      · obtain ⟨⟨s, rest⟩, hs, h⟩ := Option.bind_eq_some_iff.1 h
        obtain ⟨rest, -, h⟩ := Option.bind_eq_some_iff.1 h
        obtain ⟨lines, hl, rfl⟩ := Option.map_eq_some_iff.1 h
        exact List.forall_mem_cons.2 ⟨statement_keysDiffer _ _ _ hs, ih hl⟩

theorem keysDiffer_take {p q : Progress} {s : Statement} (hs : s.KeysDiffer)
    (h : KeysDiffer p.root) (ht : p.take s = some q) : KeysDiffer q.root := by
  have hopened : ∀ {path : List String} {change : String → Entries → Option Entries},
      (∀ key {before after}, KeysDiffer before → change key before = some after →
        KeysDiffer after) →
      Progress.take.opened p path change = some q → KeysDiffer q.root := by
    intro path change hc ho
    obtain ⟨last, -, ho⟩ := Option.bind_eq_some_iff.1 ho
    obtain ⟨root, hr, rfl⟩ := Option.map_eq_some_iff.1 ho
    exact keysDiffer_within (hc last) h hr
  cases s with
  | table path => exact hopened (fun key => keysDiffer_openTable) ht
  | element path => exact hopened (fun key => keysDiffer_openElement) ht
  | assignment key v =>
    obtain ⟨root, hr, rfl⟩ := Option.map_eq_some_iff.1 ht
    exact keysDiffer_within (keysDiffer_assign hs) h hr

theorem keysDiffer_takeAll {lines : List Statement} (hl : ∀ s ∈ lines, s.KeysDiffer)
    {p q : Progress} (h : KeysDiffer p.root) (ht : lines.foldlM Progress.take p = some q) :
    KeysDiffer q.root := by
  induction lines generalizing p with
  | nil =>
    cases ht
    exact h
  | cons s lines ih =>
    obtain ⟨hs, hl⟩ := List.forall_mem_cons.1 hl
    rw [List.foldlM_cons] at ht
    obtain ⟨next, hn, ht⟩ := Option.bind_eq_some_iff.1 ht
    exact ih hl (keysDiffer_take hs h hn) ht

/-- **No table of a document has a key twice**, nor has any table inside its values. -/
theorem keysDiffer_of_parse {text : String} {document : Table} (h : parse text = some document) :
    (Value.table document).KeysDiffer := by
  obtain ⟨lines, hl, ha⟩ := Option.bind_eq_some_iff.1 h
  obtain ⟨p, hp, rfl⟩ := Option.map_eq_some_iff.1 ha
  exact keysDiffer_takeAll (statements_keysDiffer hl) keysDiffer_nil hp

end AudioHal.Toml

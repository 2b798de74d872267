import AudioHal.Flag.Boolean
import AudioHal.Text.Quoted

/-! # Settings

Truth values by name. Names are all different and stand in order, so that settings that answer
alike are equal.

* `Flag.Settings.insert`: gives a name its value, replacing an older one.
* `Flag.Settings.get?_insert`: reading after writing.
* `Flag.Settings.describe`: settings for developers.
-/

set_option autoImplicit false

namespace AudioHal.Flag

/-- Truth values by name, in the order of the names. -/
structure Settings where
  entries : List (String × Bool)
  sorted : entries.Pairwise fun a b => a.1 < b.1
deriving DecidableEq

namespace Settings

/-- No settings. -/
def empty : Settings := ⟨[], .nil⟩

instance : Inhabited Settings := ⟨empty⟩

/-- The value of a name. -/
def get? (s : Settings) (name : String) : Option Bool :=
  s.entries.lookup name

/-- How many names there are. -/
def size (s : Settings) : Nat :=
  s.entries.length

/-- Whether there are no names. -/
def isEmpty (s : Settings) : Bool :=
  s.entries.isEmpty

/-- Puts a name with its value where it belongs. -/
def insertEntry (name : String) (value : Bool) : List (String × Bool) → List (String × Bool)
  | [] => [(name, value)]
  | e :: rest =>
    if name < e.1 then (name, value) :: e :: rest
    else if name = e.1 then (name, value) :: rest
    else e :: insertEntry name value rest

theorem mem_insertEntry {name : String} {value : Bool} {entries : List (String × Bool)}
    {e : String × Bool} (h : e ∈ insertEntry name value entries) :
    e = (name, value) ∨ e ∈ entries := by
  induction entries with
  | nil => exact .inl (List.mem_singleton.1 h)
  | cons d rest ih =>
    unfold insertEntry at h
    split at h
    · exact List.mem_cons.1 h
    · split at h
      · exact (List.mem_cons.1 h).imp_right (List.mem_cons_of_mem _)
      · rcases List.mem_cons.1 h with rfl | h
        · exact .inr List.mem_cons_self
        · exact (ih h).imp_right (List.mem_cons_of_mem _)

theorem insertEntry_sorted (name : String) (value : Bool) {entries : List (String × Bool)}
    (h : entries.Pairwise fun a b => a.1 < b.1) :
    (insertEntry name value entries).Pairwise fun a b => a.1 < b.1 := by
  induction entries with
  | nil => exact List.pairwise_singleton _ _
  | cons d rest ih =>
    obtain ⟨hd, hrest⟩ := List.pairwise_cons.1 h
    unfold insertEntry
    split
    · rename_i hlt
      refine List.pairwise_cons.2 ⟨fun e he => ?_, h⟩
      rcases List.mem_cons.1 he with rfl | he
      · exact hlt
      · exact String.lt_trans hlt (hd e he)
    · split
      · rename_i heq
        exact List.pairwise_cons.2 ⟨fun e he => heq ▸ hd e he, hrest⟩
      · rename_i hle hne
        refine List.pairwise_cons.2 ⟨fun e he => ?_, ih hrest⟩
        rcases mem_insertEntry he with rfl | he
        · exact Std.lt_of_le_of_ne (String.not_lt.1 hle) (Ne.symm hne)
        · exact hd e he

/-- Gives a name its value. -/
def insert (s : Settings) (name : String) (value : Bool) : Settings :=
  ⟨insertEntry name value s.entries, insertEntry_sorted name value s.sorted⟩

theorem lookup_insertEntry (name : String) (value : Bool) (entries : List (String × Bool))
    (k : String) :
    (insertEntry name value entries).lookup k =
      if k = name then some value else entries.lookup k := by
  induction entries with
  | nil =>
    by_cases hk : k = name
    · simp [insertEntry, hk]
    · simp [insertEntry, List.lookup_cons, beq_eq_false_iff_ne.2 hk, hk]
  | cons e rest ih =>
    obtain ⟨d, b⟩ := e
    unfold insertEntry
    by_cases hk : k = name
    · subst hk
      split
      · simp
      · split
        · simp
        · rename_i hne
          simp [List.lookup_cons, beq_eq_false_iff_ne.2 hne, ih]
    · split
      · simp [List.lookup_cons, beq_eq_false_iff_ne.2 hk]
      · split
        · rename_i heq
          subst heq
          simp [List.lookup_cons, beq_eq_false_iff_ne.2 hk]
        · simp [List.lookup_cons, ih, hk]

theorem get?_insert (s : Settings) (name : String) (value : Bool) (k : String) :
    (s.insert name value).get? k = if k = name then some value else s.get? k :=
  lookup_insertEntry name value s.entries k

/-- Gives names their values, one after another. -/
def insertAll (s : Settings) (pairs : List (String × Bool)) : Settings :=
  pairs.foldl (fun s p => s.insert p.1 p.2) s

/-- The settings that pairs describe; of two pairs with one name the later one counts. -/
def ofList (pairs : List (String × Bool)) : Settings :=
  empty.insertAll pairs

/-- One name and its value for developers. -/
def describeEntry (e : String × Bool) : String :=
  Text.quote e.1 ++ ": " ++ spell e.2

/-- Settings for developers. -/
def describe (s : Settings) : String :=
  "\x7b" ++ ", ".intercalate (s.entries.map describeEntry) ++ "\x7d"

end Settings

end AudioHal.Flag

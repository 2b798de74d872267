/-! # Raw integers

Every named value is a number of a fixed width. Outside its own type it travels as an unbounded
integer, wide enough for a 32-bit mask and for a negative marker alike.

* `RawValue`: the two conversions, tied by one law: `ofRaw? r` is the value whose number is `r`,
  and nothing where no value has that number. A number outside the width is therefore refused,
  never wrapped.
* `RawValue.sort`, `RawValue.distinct`, `RawValue.order`: values in the order of their numbers.
-/

set_option autoImplicit false

namespace AudioHal

/-- A type whose values are numbers of a fixed width. -/
class RawValue (α : Type) where
  /-- The number of a value. -/
  toRaw : α → Int
  /-- The value with a number, where there is one. -/
  ofRaw? : Int → Option α
  /-- The two agree. -/
  ofRaw?_eq_some_iff : ∀ {r : Int} {a : α}, ofRaw? r = some a ↔ toRaw a = r

namespace RawValue

variable {α β : Type} [RawValue α]

@[simp]
theorem ofRaw?_toRaw (a : α) : ofRaw? (toRaw a) = some a :=
  ofRaw?_eq_some_iff.2 rfl

theorem toRaw_inj {a b : α} : toRaw a = toRaw b ↔ a = b :=
  ⟨fun h => Option.some.inj ((ofRaw?_toRaw a).symm.trans (ofRaw?_eq_some_iff.2 h.symm)),
    fun h => h ▸ rfl⟩

theorem ofRaw?_eq_none_iff {r : Int} : (ofRaw? r : Option α) = none ↔ ∀ a : α, toRaw a ≠ r := by
  constructor
  · intro h a ha
    rw [ofRaw?_eq_some_iff.2 ha] at h
    cases h
  · intro h
    cases hr : (ofRaw? r : Option α) with
    | none => rfl
    | some a => exact absurd (ofRaw?_eq_some_iff.1 hr) (h a)

/-- A type that wraps a raw value, one for one, is a raw value. -/
@[reducible]
def wrap (close : α → β) (opened : β → α) (opened_close : ∀ a, opened (close a) = a)
    (close_opened : ∀ b, close (opened b) = b) : RawValue β where
  toRaw b := toRaw (opened b)
  ofRaw? r := (ofRaw? r : Option α).map close
  ofRaw?_eq_some_iff := by
    intro r b
    rw [Option.map_eq_some_iff]
    constructor
    · rintro ⟨a, ha, rfl⟩
      rw [opened_close]
      exact ofRaw?_eq_some_iff.1 ha
    · intro h
      exact ⟨opened b, ofRaw?_eq_some_iff.2 h, close_opened b⟩

/-- How two values compare by number. -/
def order (a b : α) : Ordering :=
  compare (toRaw a) (toRaw b)

/-- Values by ascending number. -/
def sort (xs : List α) : List α :=
  xs.mergeSort fun a b => toRaw a ≤ toRaw b

/-- How many different values a list holds. -/
def distinct [DecidableEq α] (xs : List α) : Nat :=
  xs.eraseDups.length

end RawValue

/-- An unsigned word counts from 0 to 2³² - 1. -/
instance : RawValue UInt32 where
  toRaw a := a.toNat
  ofRaw? r := if 0 ≤ r ∧ r < UInt32.size then some (.ofNat r.toNat) else none
  ofRaw?_eq_some_iff := by
    intro r a
    have ha := a.toNat_lt
    simp only [UInt32.size]
    split
    · rw [Option.some.injEq, ← UInt32.toNat_inj,
        UInt32.toNat_ofNat_of_lt' (by simp only [UInt32.size]; omega)]
      omega
    · simp only [reduceCtorEq, false_iff]
      omega

/-- A signed word counts from -2³¹ to 2³¹ - 1. -/
instance : RawValue Int32 where
  toRaw a := a.toInt
  ofRaw? r := if Int32.minValue.toInt ≤ r ∧ r ≤ Int32.maxValue.toInt then some (.ofInt r) else none
  ofRaw?_eq_some_iff := by
    intro r a
    have h1 := a.minValue_le_toInt
    have h2 := a.toInt_le
    simp only [Int32.toInt_minValue, Int32.toInt_maxValue] at h1 h2 ⊢
    split
    · rename_i h
      rw [Option.some.injEq, ← Int32.toInt_inj, Int32.toInt_ofInt_of_le (by omega) (by omega)]
      exact eq_comm
    · simp only [reduceCtorEq, false_iff]
      omega

end AudioHal

import AudioHal.Wire.Coding
import Mathlib.Data.List.Forall2

/-! # Lists on the wire

A list is written, or read, exactly when each of its elements is, and element by element.

* `Wire.encodeAll_eq_ok_iff`, `Wire.decodeAll_eq_ok_iff`: what lists travel as.
* `Wire.FirstFault`, `Wire.encodeAll_eq_error_iff`, `Wire.decodeAll_eq_error_iff`: what is said of a
  list that cannot be written, or read.
* `Wire.decodeAll_encodeAll`, `Wire.encodeAll_of_decodeAll`, `Wire.exists_encodeAll_of_decodeAll`:
  what holds of every value and its symbol holds of lists.
-/

set_option autoImplicit false

namespace AudioHal.Wire

/-- A traversal succeeds with the results of its steps. -/
theorem mapM_eq_ok_iff {ε α β : Type} {f : α → Except ε β} {xs : List α} {ys : List β} :
    xs.mapM f = .ok ys ↔ List.Forall₂ (fun x y => f x = .ok y) xs ys := by
  induction xs generalizing ys with
  | nil =>
    rw [List.mapM_nil, List.forall₂_nil_left_iff]
    exact ⟨fun h => by cases h; rfl, fun h => h ▸ rfl⟩
  | cons x xs ih =>
    rw [List.mapM_cons, List.forall₂_cons_left_iff]
    constructor
    · intro h
      cases hx : f x with
      | error e => rw [hx] at h; cases h
      | ok y =>
        cases hr : xs.mapM f with
        | error e => rw [hx, hr] at h; cases h
        | ok rest =>
          rw [hx, hr] at h
          cases h
          exact ⟨y, rest, rfl, ih.1 hr, rfl⟩
    · rintro ⟨y, rest, hx, hr, rfl⟩
      rw [hx, ih.2 hr]
      rfl

theorem forall₂_eq_some_iff {α β : Type} {f : α → Option β} {xs : List α} {ys : List β} :
    List.Forall₂ (fun x y => f x = some y) xs ys ↔ xs.map f = ys.map some := by
  rw [← List.forall₂_eq_eq_eq, List.forall₂_map_left_iff, List.forall₂_map_right_iff]

theorem exists_mapM_iff {ε α β : Type} {f : α → Except ε β} {xs : List α} :
    (∃ ys, xs.mapM f = .ok ys) ↔ ∀ x ∈ xs, ∃ y, f x = .ok y := by
  simp only [mapM_eq_ok_iff]
  induction xs with
  | nil => exact iff_of_true ⟨[], .nil⟩ nofun
  | cons x xs ih =>
    simp only [List.forall₂_cons_left_iff, List.forall_mem_cons, ← ih]
    constructor
    · rintro ⟨-, y, ys, hx, hxs, rfl⟩
      exact ⟨⟨y, hx⟩, ys, hxs⟩
    · rintro ⟨⟨y, hx⟩, ys, hxs⟩
      exact ⟨y :: ys, y, ys, hx, hxs, rfl⟩

/-- The first element that fails does so with the fault `e`. -/
def FirstFault {ε α β : Type} (f : α → Except ε β) (xs : List α) (e : ε) : Prop :=
  ∃ before x after, xs = before ++ x :: after ∧ (∀ y ∈ before, ∃ z, f y = .ok z) ∧ f x = .error e

theorem firstFault_cons_iff {ε α β : Type} {f : α → Except ε β} {x : α} {xs : List α} {e : ε} :
    FirstFault f (x :: xs) e ↔ f x = .error e ∨ (∃ y, f x = .ok y) ∧ FirstFault f xs e := by
  constructor
  · rintro ⟨before, z, after, heq, hb, hz⟩
    cases before with
    | nil =>
      obtain ⟨rfl, rfl⟩ := List.cons.inj heq
      exact .inl hz
    | cons y before =>
      obtain ⟨rfl, rfl⟩ := List.cons.inj heq
      obtain ⟨hx, hb⟩ := List.forall_mem_cons.1 hb
      exact .inr ⟨hx, before, z, after, rfl, hb, hz⟩
  · rintro (hx | ⟨hx, before, z, after, rfl, hb, hz⟩)
    · exact ⟨[], x, xs, rfl, nofun, hx⟩
    · exact ⟨x :: before, z, after, rfl, List.forall_mem_cons.2 ⟨hx, hb⟩, hz⟩

theorem mapM_eq_error_iff {ε α β : Type} {f : α → Except ε β} {xs : List α} {e : ε} :
    xs.mapM f = .error e ↔ FirstFault f xs e := by
  induction xs with
  | nil =>
    refine iff_of_false nofun ?_
    rintro ⟨before, x, after, h, -⟩
    simp at h
  | cons x xs ih =>
    rw [List.mapM_cons, firstFault_cons_iff, ← ih]
    cases hx : f x with
    | error e' => simp [bind, Except.bind]
    | ok y => cases hr : xs.mapM f <;> simp [bind, Except.bind, pure, Except.pure]

variable {α : Type} [Coded α] {b : Build}

theorem decode_text_eq_ok_iff {s : String} {a : α} :
    decode b (.text s) = .ok a ↔ decodeText b s = some a := by
  cases h : (decodeText b s : Option α) <;> simp [decode, h]

/-- Nothing but a string is read. -/
theorem decode_eq_ok_iff {v : Value} {a : α} :
    decode b v = .ok a ↔ ∃ s, v = .text s ∧ decodeText b s = some a := by
  constructor
  · intro h
    cases v with
    | text s => exact ⟨s, rfl, decode_text_eq_ok_iff.1 h⟩
    | _ => cases h
  · rintro ⟨s, rfl, hs⟩
    exact decode_text_eq_ok_iff.2 hs

theorem decode_eq_error_iff {v : Value} {f : Fault} :
    (decode b v : Except Fault α) = .error f ↔
      (∃ s, v = .text s ∧ (decodeText b s : Option α) = none ∧
        f = .unknown ⟨Coded.domain α b, s⟩) ∨
      (∀ s, v ≠ .text s) ∧ f = .notText v (Coded.domain α b) := by
  cases v with
  | text s => cases h : (decodeText b s : Option α) <;> simp [decode, h, eq_comm]
  | _ => simp [decode, eq_comm]

theorem encodeAll_eq_ok_iff {xs : List α} {ss : List String} :
    encodeAll b xs = .ok ss ↔ List.Forall₂ (fun x s => encode b x = .ok s) xs ss :=
  mapM_eq_ok_iff

theorem decodeAll_texts_eq_ok_iff {ss : List String} {xs : List α} :
    decodeAll b (.sequence (ss.map .text)) = .ok xs ↔
      List.Forall₂ (fun s x => decode b (.text s) = .ok x) ss xs := by
  rw [← List.forall₂_map_left_iff (R := fun v x => decode b v = .ok x)]
  exact mapM_eq_ok_iff

theorem exists_encodeAll_iff {xs : List α} :
    (∃ ss, encodeAll b xs = .ok ss) ↔ ∀ x ∈ xs, ∃ s, encode b x = .ok s :=
  exists_mapM_iff

/-- A list that can be read is one of strings that stand for values. -/
theorem decodeAll_eq_ok_iff {v : Value} {xs : List α} : decodeAll b v = .ok xs ↔
    ∃ ss : List String, v = .sequence (ss.map .text) ∧ ss.map (decodeText b) = xs.map some := by
  constructor
  · intro h
    cases v with
    | sequence items =>
      have hread := mapM_eq_ok_iff.1 h
      clear h
      induction hread with
      | nil => exact ⟨[], rfl, rfl⟩
      | cons hx _ ih =>
        obtain ⟨s, rfl, hs⟩ := decode_eq_ok_iff.1 hx
        obtain ⟨ss, hv, hss⟩ := ih
        cases hv
        exact ⟨s :: ss, rfl, by rw [List.map_cons, List.map_cons, hs, hss]⟩
    | _ => cases h
  · rintro ⟨ss, rfl, hs⟩
    rw [decodeAll_texts_eq_ok_iff]
    simp only [decode_text_eq_ok_iff]
    exact forall₂_eq_some_iff.2 hs

theorem exists_decodeAll_iff {v : Value} : (∃ xs : List α, decodeAll b v = .ok xs) ↔
    ∃ items, v = .sequence items ∧
      ∀ i ∈ items, ∃ s, i = .text s ∧ ∃ a : α, decodeText b s = some a := by
  have hread : ∀ i, (∃ a : α, decode b i = .ok a) ↔
      ∃ s, i = .text s ∧ ∃ a : α, decodeText b s = some a := by
    intro i
    simp only [decode_eq_ok_iff]
    rw [exists_comm]
    simp only [exists_and_left]
  simp only [← hread]
  cases v with
  | sequence items => simp [decodeAll, exists_mapM_iff]
  | _ => simp [decodeAll]

theorem encodeAll_eq_error_iff {xs : List α} {f : Fault} :
    encodeAll b xs = .error f ↔ FirstFault (encode b) xs f :=
  mapM_eq_error_iff

theorem decodeAll_eq_error_iff {v : Value} {f : Fault} :
    (decodeAll b v : Except Fault (List α)) = .error f ↔
      (∃ items, v = .sequence items ∧ FirstFault (decode b : Value → Except Fault α) items f) ∨
      (∀ items, v ≠ .sequence items) ∧ f = .notSequence v := by
  cases v with
  | sequence items =>
    simp only [decodeAll, mapM_eq_error_iff]
    simp
  | _ => simp [decodeAll, eq_comm]

/-- Where symbols lead back to their values, so do lists of symbols. -/
theorem decodeAll_encodeAll (hf : ∀ (x : α) s, encode b x = .ok s → decode b (.text s) = .ok x)
    {xs : List α} {ss : List String} (h : encodeAll b xs = .ok ss) :
    decodeAll b (.sequence (ss.map .text)) = .ok xs := by
  refine decodeAll_texts_eq_ok_iff.2 (List.Forall₂.flip ?_)
  exact (encodeAll_eq_ok_iff.1 h).imp hf

/-- What is known of a string and the symbol that replaces it is known of lists. -/
theorem exists_encodeAll_of_decodeAll {P : String → String → Prop}
    (hf : ∀ s (x : α), decode b (.text s) = .ok x → ∃ c, encode b x = .ok c ∧ P s c)
    {ss : List String} {xs : List α} (h : decodeAll b (.sequence (ss.map .text)) = .ok xs) :
    ∃ cs, encodeAll b xs = .ok cs ∧ List.Forall₂ P ss cs := by
  simp only [encodeAll_eq_ok_iff]
  have hr := decodeAll_texts_eq_ok_iff.1 h
  clear h
  induction hr with
  | nil => exact ⟨[], .nil, .nil⟩
  | cons hx _ ih =>
    obtain ⟨c, hc, hp⟩ := hf _ _ hx
    obtain ⟨cs, hcs, hps⟩ := ih
    exact ⟨c :: cs, .cons hc hcs, .cons hp hps⟩

/-- Where strings are replaced by the symbols of their values, so are lists of strings. -/
theorem encodeAll_of_decodeAll {g : String → String}
    (hg : ∀ s (x : α), decode b (.text s) = .ok x → encode b x = .ok (g s))
    {ss : List String} {xs : List α} (h : decodeAll b (.sequence (ss.map .text)) = .ok xs) :
    encodeAll b xs = .ok (ss.map g) := by
  rw [encodeAll_eq_ok_iff, List.forall₂_map_right_iff]
  exact ((decodeAll_texts_eq_ok_iff.1 h).imp hg).flip

end AudioHal.Wire

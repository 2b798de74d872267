import AudioHal.Host.Files
import AudioHal.Proofs.Text.Utf8

/-! # Files that are written and read

* `Files.readText_eq_ok_iff`: the text of a file is the one whose bytes it holds;
  `Files.readText_of_error`, `Files.readText_of_not_text`: why there is none.
* `Files.walk_put`: what is no directory is on no way, so that changing it leads nowhere else.
* `Files.write_cases`: a write that has an effect is what is read next.
-/

set_option autoImplicit false

namespace AudioHal.Files

variable {fs : Files} {p : Path} {place next : Location} {node : Node} {bytes : List UInt8}
  {text : String}

theorem readText_eq_ok_iff : fs.readText p = .ok text ↔ fs.read p = .ok (Utf8.encode text) := by
  unfold readText
  cases fs.read p with
  | error obstacle => simp [bind, Except.bind]
  | ok bytes =>
    simp only [bind, Except.bind, Except.ok.injEq, ← Utf8.decode?_eq_some_iff]
    cases Utf8.decode? bytes <;> simp

theorem readText_of_error {obstacle : Obstacle} (h : fs.read p = .error obstacle) :
    fs.readText p = .error obstacle := by
  rw [readText, h]
  rfl

theorem readText_of_not_text (h : fs.read p = .ok bytes) (hn : ∀ text, bytes ≠ Utf8.encode text) :
    fs.readText p = .error .invalidData := by
  unfold readText
  rw [h]
  cases hd : Utf8.decode? bytes with
  | none => simp [bind, Except.bind, hd]
  | some text => exact absurd (Utf8.decode?_eq_some_iff.1 hd) (hn text)

/-! ## Reading after writing -/

theorem lookup_filter_of_ne (h : next ≠ place) (nodes : List (Location × Node)) :
    (nodes.filter (·.1 != place)).lookup next = nodes.lookup next := by
  induction nodes with
  | nil => rfl
  | cons n nodes ih =>
    obtain ⟨key, node⟩ := n
    by_cases hk : key = place
    · subst hk
      rw [List.filter_cons_of_neg (by simp), ih, List.lookup_cons, beq_eq_false_iff_ne.2 h]
    · rw [List.filter_cons_of_pos (by simpa using hk), List.lookup_cons, List.lookup_cons, ih]

theorem node?_put_of_ne (h : next ≠ place) : (fs.put place node).node? next = fs.node? next := by
  simp [node?, put, List.lookup_cons, beq_eq_false_iff_ne.2 h, lookup_filter_of_ne h]

theorem node?_put_self (h : place ≠ []) : (fs.put place node).node? place = some node := by
  simp [node?, put, h]

theorem ne_nil_of_node? (h : fs.node? place ≠ some .directory) : place ≠ [] := by
  rintro rfl
  exact h rfl

/-- What is no directory is on no way, so that changing it leads nowhere else. -/
theorem walk_put (h : fs.node? place ≠ some .directory) (start : Location)
    (components : List (List UInt8)) {dest : Location}
    (hw : fs.walk start components = .ok dest) :
    (fs.put place node).walk start components = .ok dest := by
  induction components generalizing start with
  | nil => exact hw
  | cons component rest ih =>
    unfold walk at hw ⊢
    cases hn : fs.node? start with
    | none => simp [hn] at hw
    | some found =>
      cases found with
      | file bytes => simp [hn] at hw
      | directory =>
        have hne : start ≠ place := by
          rintro rfl
          exact h hn
        rw [node?_put_of_ne hne, hn]
        simp only [hn] at hw ⊢
        cases he : enter start component with
        | error obstacle => simp [he, bind, Except.bind] at hw
        | ok next =>
          rw [he] at hw
          exact ih next hw

theorem resolve_put (h : fs.node? place ≠ some .directory) {dest : Location}
    (hr : fs.resolve p = .ok dest) : (fs.put place node).resolve p = .ok dest := by
  unfold resolve at hr ⊢
  split_ifs at hr ⊢ with hz he hl
  exact walk_put h _ _ hr

theorem read_put (h : fs.node? place ≠ some .directory) (hr : fs.resolve p = .ok place) :
    (fs.put place (.file bytes)).read p = .ok bytes := by
  rw [read, resolve_put h hr]
  simp [bind, Except.bind, node?_put_self (ne_nil_of_node? h)]

/-- A write that has an effect is what is read next. -/
theorem write_cases (fs : Files) (p : Path) (bytes : List UInt8) :
    fs.write p bytes = fs ∨ (fs.write p bytes).read p = .ok bytes := by
  unfold write
  cases hr : fs.resolve p with
  | error obstacle => exact .inl rfl
  | ok place =>
    cases hn : fs.node? place with
    | none => exact .inr (by simpa [hn] using read_put (by rw [hn]; nofun) hr)
    | some node =>
      cases node with
      | directory => exact .inl (by simp [hn])
      | file old => exact .inr (by simpa [hn] using read_put (by rw [hn]; nofun) hr)

end AudioHal.Files

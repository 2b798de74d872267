import AudioHal.Proofs.Table.Positions
import AudioHal.Proofs.Table.Roles

/-! # Rows in another order

Both directions take the first row that fits, so in general the order of the rows shows in the
answers. In a table that passes its check at most one row fits, and the order no longer matters, nor
does it matter which rows stand among those of the framework.

* `Table.WellFormed.perm`: the four rules are about the rows and not about their order.
* `Table.WellFormed.project_perm`, `Table.WellFormed.parseWith_perm`: nor are the answers.
* `Table.order_immaterial`: both together, for the tables that are accepted.
-/

set_option autoImplicit false

namespace AudioHal.Table

variable {α : Type} {t u : Table α}

theorem canonical_perm (h : t.entries.Perm u.entries) : t.canonical.Perm u.canonical :=
  h.filter _

theorem WellFormed.perm (w : t.WellFormed) (h : t.entries.Perm u.entries) : u.WellFormed := by
  have hc : ∀ c, c ∈ t.canonical ↔ c ∈ u.canonical := fun c => (canonical_perm h).mem_iff
  refine ⟨?symbols, ?values, fun a ha hr => ?aliases, fun s hs hr c hcu => ?sentinels⟩
  case symbols => exact (h.pairwise_iff fun hne => Ne.symm hne).1 w.symbols
  case values => exact (h.pairwise_iff fun hn hs => hn hs.symm).1 w.values
  case aliases =>
    obtain ⟨c, hct, hv⟩ := w.aliases a (h.mem_iff.2 ha) hr
    exact ⟨c, (hc c).1 hct, hv⟩
  case sentinels => exact w.sentinels s (h.mem_iff.2 hs) hr c ((hc c).2 hcu)

theorem WellFormed.parseWith_perm (w : t.WellFormed) (h : t.entries.Perm u.entries) (s : String)
    (v : Visibility) : t.parseWith s v = u.parseWith s v := by
  have hu := (w.perm h).symbolsUnique
  exact parseWith_congr w.symbolsUnique hu (fun e => by rw [h.mem_iff]) s

variable [DecidableEq α]

theorem WellFormed.project_perm (w : t.WellFormed) (h : t.entries.Perm u.entries) (a : α) :
    t.project a = u.project a :=
  project_congr w.valuesUnique (w.perm h).valuesUnique (fun _ => (canonical_perm h).mem_iff) a

/-- **The order of the rows is immaterial where the check accepts them.** Of two tables with the
same rows in different orders, or with different rows set apart for the framework, either both are
accepted or neither is, and if they are they answer alike in both directions. -/
theorem order_immaterial (h : t.entries.Perm u.entries) :
    (t.validate = .ok () ↔ u.validate = .ok ()) ∧
      (t.validate = .ok () →
        (∀ a, t.project a = u.project a) ∧ ∀ s v, t.parseWith s v = u.parseWith s v) := by
  rw [validate_eq_ok_iff, validate_eq_ok_iff]
  refine ⟨⟨fun w => w.perm h, fun w => w.perm h.symm⟩, fun w => ?_⟩
  exact ⟨w.project_perm h, w.parseWith_perm h⟩

/-- The small table with its rows turned round and cut in two elsewhere. -/
def sampleTurned : Table UInt32 where
  domain := .gainMode
  rows := [.frameworkOnly "SEVEN" 7, .sentinel "INVALID" 0xFFFFFFFF, .legacy "UNO" 1]
  frameworkRows := [.canonical "ONE" 1, .canonical "ZERO" 0]

/-- The alias now comes before the row it refers to, and the vendor still parses it. -/
theorem sampleTurned_order_immaterial :
    sampleTurned.entries.Perm sample.entries ∧ sampleTurned.validate = .ok () ∧
      sampleTurned.project 1 = some "ONE" ∧ sampleTurned.parseWith "UNO" .vendor = some 1 ∧
      sampleTurned.parseWith "SEVEN" .vendor = none := by
  have h : sampleTurned.entries.Perm sample.entries := by decide +kernel
  have ok : sampleTurned.validate = .ok () := (order_immaterial h).1.2 sample_validate
  obtain ⟨hproject, hparse⟩ := (order_immaterial h).2 ok
  refine ⟨h, ok, ?_, ?_, ?_⟩
  · rw [hproject]
    decide +kernel
  · rw [hparse]
    decide +kernel
  · rw [hparse]
    decide +kernel

end AudioHal.Table

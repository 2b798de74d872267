import AudioHal.Flag.Boolean
import AudioHal.Proofs.Text.Spelling

/-! # The language of truth values

A text is a truth value if it is the digit or a spelling of the word for one, with any blanks around
it, and no other text is.

* `Flag.IsWord`, `Flag.word?_eq_some_iff`: the words that are understood.
* `Flag.Says`: the texts that stand for a truth value, said without reading them.
* `Flag.readBool_eq_ok_iff`, `Flag.readBool_eq_error_iff`: what is read, and what is said of the rest.
* `Flag.readBool_grammar`: both, and what follows for blanks and for the case of letters.
-/

set_option autoImplicit false

namespace AudioHal.Flag

open Text

variable {flag raw raw' p q : String} {b b' : Bool} {cs ds : List Char} {f : Failure}

/-! ## Words -/

/-- The digit for a truth value. -/
def digit : Bool → String
  | true => "1"
  | false => "0"

/-- A word is the digit for a truth value, or spells the word for it. -/
def IsWord (b : Bool) (cs : List Char) : Prop :=
  cs = (digit b).toList ∨ Recased (spell b).toList cs

/-- In small letters a word is the digit or the word for its value. -/
theorem isWord_iff : IsWord b cs ↔
    cs.map Char.toLower = (digit b).toList ∨ cs.map Char.toLower = (spell b).toList := by
  have hcaseless : ∀ c ∈ (digit b).toList, c.toLower = c ∧ c.toUpper = c := by
    cases b <;> simp [digit]
  have hdigit : (digit b).toList.map Char.toLower = (digit b).toList := by
    cases b <;> decide +kernel
  have hspell : (spell b).toList.map Char.toLower = (spell b).toList := by
    cases b <;> decide +kernel
  rw [IsWord, ← recased_iff_eq hcaseless, recased_iff, recased_iff, hdigit, hspell]
  exact or_congr eq_comm eq_comm

theorem word?_eq_some_iff : word? cs = some b ↔ IsWord b cs := by
  rw [isWord_iff]
  unfold word?
  generalize cs.map Char.toLower = small
  by_cases htrue : small = ['1'] ∨ small = "true".toList
  · rw [if_pos htrue]
    cases b with
    | true => exact iff_of_true rfl htrue
    | false => rcases htrue with rfl | rfl <;> decide
  · rw [if_neg htrue]
    by_cases hfalse : small = ['0'] ∨ small = "false".toList
    · rw [if_pos hfalse]
      cases b with
      | true => exact iff_of_false nofun htrue
      | false => exact iff_of_true rfl hfalse
    · rw [if_neg hfalse]
      cases b with
      | true => exact iff_of_false nofun htrue
      | false => exact iff_of_false nofun hfalse

theorem word?_congr (h : cs.map Char.toLower = ds.map Char.toLower) : word? cs = word? ds := by
  rw [word?, word?, h]

theorem IsWord.no_blank (h : IsWord b cs) : ∀ c ∈ cs, isBlank c = false := by
  have hdigit : ∀ c ∈ (digit b).toList, isBlank c = false := by
    cases b <;> simp [digit, Bool.eq_false_iff, isBlank_iff, blanks]
  have hspell : ∀ c ∈ (spell b).toList, isBlank c = false := by
    have hletters : ∀ c ∈ (spell b).toList, c.isAlpha := by cases b <;> simp [spell]
    exact fun c hc => isBlank_of_isAlpha (hletters c hc)
  intro c hc
  -- `c` may be a letter of either case, which only the small letters are asked about
  have hm : c.toLower ∈ cs.map Char.toLower := List.mem_map_of_mem hc
  rw [← isBlank_toLower]
  rcases isWord_iff.1 h with hs | hs
  · exact hdigit _ (hs ▸ hm)
  · exact hspell _ (hs ▸ hm)

/-! ## Texts -/

/-- A text is a word for a truth value with blanks around it. -/
def Says (b : Bool) (raw : String) : Prop :=
  ∃ p c q : String,
    AllBlank p.toList ∧ AllBlank q.toList ∧ raw = p ++ c ++ q ∧ IsWord b c.toList

theorem says_iff : Says b raw ↔ IsWord b (trim raw.toList) := by
  constructor
  · rintro ⟨p, c, q, hp, hq, rfl, hc⟩
    rw [String.toList_append, String.toList_append, trim_append_right hq, trim_append_left hp,
      trim_of_no_blank hc.no_blank]
    exact hc
  · intro h
    obtain ⟨p, q, hp, hq, heq⟩ := exists_trim raw.toList
    refine ⟨.ofList p, .ofList (trim raw.toList), .ofList q, ?_, ?_, ?_, ?_⟩
    · rwa [String.toList_ofList]
    · rwa [String.toList_ofList]
    · rw [← String.ofList_append, ← String.ofList_append, ← heq, String.ofList_toList]
    · rwa [String.toList_ofList]

theorem readBool_eq_ok_iff_word? : readBool flag raw = .ok b ↔ word? (trim raw.toList) = some b := by
  unfold readBool
  cases word? (trim raw.toList) <;> simp

theorem readBool_eq_ok_iff : readBool flag raw = .ok b ↔ Says b raw := by
  rw [readBool_eq_ok_iff_word?, word?_eq_some_iff, says_iff]

theorem readBool_eq_error_iff :
    readBool flag raw = .error f ↔ (∀ b, ¬Says b raw) ∧ f = .notBoolean flag raw := by
  simp only [says_iff, ← word?_eq_some_iff]
  unfold readBool
  cases word? (trim raw.toList) <;> simp [eq_comm]

theorem Says.unique (h : Says b raw) (h' : Says b' raw) : b = b' := by
  rw [says_iff, ← word?_eq_some_iff] at h h'
  exact Option.some.inj (h.symm.trans h')

/-- **A truth value is read from the texts of its grammar and from no others.** These are the digit
for it and every spelling of the word for it, with any blanks on either side; none stands for both
values. Any other text is a failure, which carries the flag and the whole text. So neither blanks
around a text nor the case of its letters matter to what is read. -/
theorem readBool_grammar (flag : String) :
    (∀ raw b, readBool flag raw = .ok b ↔ Says b raw) ∧
    (∀ raw, ¬(Says true raw ∧ Says false raw)) ∧
    (∀ raw f, readBool flag raw = .error f ↔ (∀ b, ¬Says b raw) ∧ f = .notBoolean flag raw) ∧
    (∀ p raw q b, AllBlank p.toList → AllBlank q.toList →
      (readBool flag (p ++ raw ++ q) = .ok b ↔ readBool flag raw = .ok b)) ∧
    ∀ raw raw' b, Recased raw.toList raw'.toList →
      (readBool flag raw' = .ok b ↔ readBool flag raw = .ok b) := by
  refine ⟨fun raw b => readBool_eq_ok_iff, fun raw h => ?both, fun raw f => readBool_eq_error_iff,
    fun p raw q b hp hq => ?blanks, fun raw raw' b h => ?letters⟩
  case both => cases h.1.unique h.2
  case blanks =>
    rw [readBool_eq_ok_iff_word?, readBool_eq_ok_iff_word?, String.toList_append,
      String.toList_append, trim_append_right hq, trim_append_left hp]
  case letters =>
    have htrim : (trim raw.toList).map Char.toLower = (trim raw'.toList).map Char.toLower := by
      rw [← trim_map_toLower, ← trim_map_toLower, recased_iff.1 h]
    rw [readBool_eq_ok_iff_word?, readBool_eq_ok_iff_word?, word?_congr htrim]

/-- Blanks outside ASCII and a mix of cases are no obstacle, but the long s is no s. -/
theorem spaced_readBool_grammar :
    AllBlank "\u3000\t".toList ∧ AllBlank "\u0085".toList ∧ Recased "true".toList "tRuE".toList ∧
      readBool "x" ("\u3000\t" ++ "tRuE" ++ "\u0085") = .ok true ∧
      readBool "x" "fal\u017fe" = .error (.notBoolean "x" "fal\u017fe") := by
  obtain ⟨hread, -, -, hblanks, hletters⟩ := readBool_grammar "x"
  have hp : AllBlank "\u3000\t".toList := List.all_eq_true.1 (by decide +kernel)
  have hq : AllBlank "\u0085".toList := List.all_eq_true.1 (by decide +kernel)
  have hr : Recased "true".toList "tRuE".toList := recased_iff.2 (by decide +kernel)
  have hplain : readBool "x" "true" = .ok true :=
    (hread _ _).2 ⟨"", "true", "", nofun, nofun, rfl, .inr (recased_iff.2 rfl)⟩
  exact ⟨hp, hq, hr, (hblanks _ _ _ _ hp hq).2 ((hletters _ _ _ hr).2 hplain), rfl⟩

end AudioHal.Flag

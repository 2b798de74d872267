import AudioHal.Proofs.Flag.Layers
import AudioHal.Proofs.Flag.Settings

/-! # Which setting counts

Among the pairs that make one map the last one counts; among layers the first one that has a value
does. So to lay maps over one another is to give all their pairs at once, those of the lowest layer
first.

* `Flag.overlay`, `Flag.read_overlay`: maps over one another, and what they say.
* `Flag.Settings.get?_ofList_flatten`: what the pairs of many maps give a name.
* `Flag.overlay_reverses_insertion`: both are the same.
-/

set_option autoImplicit false

namespace AudioHal.Flag

variable {flag : String} {b : Bool}

theorem Tree.foldl_layer {L : Type} (ts us : List (Tree L)) :
    us.foldl Tree.layer (.layered ts) = .layered (ts ++ us) := by
  induction us generalizing ts with
  | nil => rw [List.foldl_nil, List.append_nil]
  | cons u us ih =>
    rw [List.foldl_cons, layer, layers, ih, List.append_assoc, List.singleton_append]

/-- Settings over one another, the first ones on top. -/
def overlay (maps : List Settings) : Tree Leaf :=
  maps.foldl (fun t s => t.layer (.leaf (.fixed s))) (.layered [])

theorem overlay_eq (maps : List Settings) :
    overlay maps = .layered (maps.map fun s => .leaf (.fixed s)) := by
  have h := Tree.foldl_layer [] (maps.map fun s => .leaf (Leaf.fixed s))
  rwa [List.foldl_map] at h

theorem read_overlay (host : Host) (maps : List Settings) (flag : String) :
    Source.read host (overlay maps) flag = .ok (maps.findSome? (·.get? flag)) := by
  show ((overlay maps).consult fun l => Source.read host l flag).1 = _
  rw [overlay_eq, Tree.consult]
  induction maps with
  | nil => rfl
  | cons s maps ih =>
    have hs : Source.read host (Leaf.fixed s) flag = .ok (s.get? flag) := rfl
    rw [List.map_cons, Tree.consultAll_cons, Tree.next_fst, ih, Tree.consult, hs,
      List.findSome?_cons]
    cases s.get? flag <;> rfl

theorem Settings.get?_ofList_flatten (lists : List (List (String × Bool))) (flag : String) :
    (ofList lists.reverse.flatten).get? flag = (lists.map ofList).findSome? (·.get? flag) := by
  induction lists with
  | nil => rfl
  | cons pairs lists ih =>
    rw [List.reverse_cons, List.flatten_append, List.flatten_singleton, ← insertAll_ofList,
      get?_insertAll, ih, List.map_cons, List.findSome?_cons, get?_ofList]
    cases pairs.reverse.lookup flag <;> rfl

/-- **Layers over one another are one map, made from the lowest layer upwards.** What they say of a
flag is what the last pair with its name says in the first layer that has one, and nothing if none
has. Pairs given one after another are given all at once, and the last one with a name counts. -/
theorem overlay_reverses_insertion (host : Host) (flag : String) :
    (∀ lists : List (List (String × Bool)),
      let top := overlay (lists.map .ofList)
      Source.read host top flag =
        Source.read host (Leaf.fixed (.ofList lists.reverse.flatten)) flag ∧
      (∀ b, Source.read host top flag = .ok (some b) ↔
        ∃ before pairs after, lists = before ++ pairs :: after ∧ BindsLast pairs flag b ∧
          ∀ higher ∈ before, ∀ c, (flag, c) ∉ higher) ∧
      (Source.read host top flag = .ok none ↔ ∀ pairs ∈ lists, ∀ c, (flag, c) ∉ pairs)) ∧
    (∀ xs ys : List (String × Bool),
      ys.foldl (fun s p => s.insert p.1 p.2) (Settings.ofList xs) = .ofList (xs ++ ys)) ∧
    ∀ xs b, (Settings.ofList xs).get? flag = some b ↔ BindsLast xs flag b := by
  refine ⟨fun lists => ?_, Settings.insertAll_ofList, fun xs b => Settings.get?_ofList_eq_some_iff⟩
  intro top
  have hread : Source.read host top flag =
      .ok (lists.findSome? fun pairs => (Settings.ofList pairs).get? flag) := by
    rw [read_overlay, List.findSome?_map]
    rfl
  refine ⟨?_, fun b => ?_, ?_⟩
  · rw [read_overlay, ← Settings.get?_ofList_flatten]
    rfl
  · rw [hread, Except.ok.injEq, List.findSome?_eq_some_iff]
    simp only [Settings.get?_ofList_eq_some_iff, Settings.get?_ofList_eq_none_iff]
  · rw [hread, Except.ok.injEq, List.findSome?_eq_none_iff]
    simp only [Settings.get?_ofList_eq_none_iff]

end AudioHal.Flag

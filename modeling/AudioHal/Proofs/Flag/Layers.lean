import AudioHal.Flag.Source

/-! # Layers of sources

However sources are nested, asking them is asking their leaves from left to right until one of them
says something.

* `Flag.Tree.next`: one consultation after another. It is associative (`Flag.Tree.next_assoc`), so
  that layers can be regrouped (`Flag.Tree.consultAll_append`).
* `Flag.Tree.consult_eq_leaves`: a tree is consulted like the list of its leaves.
* `Flag.Tree.consult_of_silent`, `Flag.Tree.consult_of_first`: what consulting a tree finds out, and
  which leaves it asks.
* `Flag.Tree.read_leaves`: all of it together, for every tree in every host.
-/

set_option autoImplicit false

namespace AudioHal.Flag

/-- The first of two answers that says anything. -/
def Answer.otherwise : Answer → Answer → Answer
  | .ok none, b => b
  | .ok (some x), _ => .ok (some x)
  | .error e, _ => .error e

theorem Answer.otherwise_of_ne {a : Answer} (h : a ≠ .ok none) (b : Answer) :
    a.otherwise b = a := by
  rcases a with e | _ | x
  · rfl
  · exact absurd rfl h
  · rfl

theorem Answer.otherwise_eq_ok_some_iff {a b : Answer} {x : Bool} :
    a.otherwise b = .ok (some x) ↔ a = .ok (some x) ∨ a = .ok none ∧ b = .ok (some x) := by
  by_cases h : a = .ok none
  · subst h
    simp [otherwise]
  · rw [otherwise_of_ne h]
    simp [h]

namespace Tree

variable {L : Type} {ask : L → Answer}

/-! ## One consultation after another -/

/-- Two consultations, the second of which takes place only if the first found nothing out. -/
def next (c d : Answer × List L) : Answer × List L :=
  match c with
  | (.ok none, asked) => (d.1, asked ++ d.2)
  | (.ok (some x), asked) => (.ok (some x), asked)
  | (.error e, asked) => (.error e, asked)

theorem next_of_ne {c : Answer × List L} (h : c.1 ≠ .ok none) (d : Answer × List L) :
    next c d = c := by
  obtain ⟨e | _ | x, asked⟩ := c
  · rfl
  · exact absurd rfl h
  · rfl

theorem next_fst (c d : Answer × List L) : (next c d).1 = Answer.otherwise c.1 d.1 := by
  obtain ⟨e | _ | x, asked⟩ := c <;> rfl

theorem next_nothing (c : Answer × List L) : next c (.ok none, []) = c := by
  obtain ⟨e | _ | x, asked⟩ := c
  · rfl
  · simp [next]
  · rfl

theorem next_assoc (c d e : Answer × List L) : next (next c d) e = next c (next d e) := by
  obtain ⟨f | _ | x, asked⟩ := c
  · rfl
  · obtain ⟨f | _ | x, more⟩ := d
    · rfl
    · simp [next]
    · rfl
  · rfl

theorem consultAll_nil : consultAll ask ([] : List (Tree L)) = (.ok none, []) :=
  rfl

theorem consultAll_cons (layer : Tree L) (rest : List (Tree L)) :
    consultAll ask (layer :: rest) = next (consult ask layer) (consultAll ask rest) := by
  rw [consultAll]
  obtain ⟨e | _ | x, asked⟩ := consult ask layer <;> rfl

theorem consultAll_append (xs ys : List (Tree L)) :
    consultAll ask (xs ++ ys) = next (consultAll ask xs) (consultAll ask ys) := by
  induction xs with
  | nil => simp [consultAll_nil, next]
  | cons x xs ih => rw [List.cons_append, consultAll_cons, ih, consultAll_cons, next_assoc]

/-! ## Leaves -/

mutual

theorem consult_eq_leaves : ∀ t : Tree L, consult ask t = consultAll ask (t.leaves.map .leaf)
  | .leaf l => by
    have h : consultAll ask [.leaf l] = (ask l, [l]) := by
      rw [consultAll_cons, consultAll_nil, next_nothing, consult]
    rw [leaves, List.map_singleton, h, consult]
  | .boxed inner => by
    rw [consult, leaves]
    exact consult_eq_leaves inner
  | .layered layers => by
    rw [consult, leaves]
    exact consultAll_eq_leaves layers

theorem consultAll_eq_leaves :
    ∀ ts : List (Tree L), consultAll ask ts = consultAll ask ((leavesAll ts).map .leaf)
  | [] => rfl
  | t :: ts => by
    rw [leavesAll, List.map_append, consultAll_append, ← consult_eq_leaves t,
      ← consultAll_eq_leaves ts, consultAll_cons]

end

theorem leavesAll_eq (ts : List (Tree L)) : leavesAll ts = ts.flatMap leaves := by
  induction ts with
  | nil => rfl
  | cons t ts ih => rw [leavesAll, ih, List.flatMap_cons]

theorem leaves_layered_leaf (ls : List L) : (layered (ls.map leaf)).leaves = ls := by
  rw [leaves, leavesAll_eq, List.flatMap_map]
  simp [leaves]

/-- A further layer stands to the right of those there are. -/
theorem leaves_layer (t below : Tree L) : (t.layer below).leaves = t.leaves ++ below.leaves := by
  have hl : leavesAll t.layers = t.leaves := by
    cases t with
    | layered ts => rw [layers, leaves]
    | leaf l => simp [layers, leaves, leavesAll]
    | boxed inner => simp [layers, leaves, leavesAll]
  rw [layer, leaves, leavesAll_eq, List.flatMap_append, ← leavesAll_eq, hl]
  simp

/-! ## The first leaf that says something -/

theorem consultAll_of_silent {ls : List L} (h : ∀ l ∈ ls, ask l = .ok none) :
    consultAll ask (ls.map leaf) = (.ok none, ls) := by
  induction ls with
  | nil => rfl
  | cons l ls ih =>
    have hl : ask l = .ok none := h l List.mem_cons_self
    have hls : consultAll ask (ls.map leaf) = (.ok none, ls) :=
      ih fun x hx => h x (List.mem_cons_of_mem _ hx)
    rw [List.map_cons, consultAll_cons, hls, consult, hl]
    rfl

theorem consult_of_silent {t : Tree L} (h : ∀ l ∈ t.leaves, ask l = .ok none) :
    t.consult ask = (.ok none, t.leaves) := by
  rw [consult_eq_leaves, consultAll_of_silent h]

/-- The first leaf that says something decides. Those before it are asked in their turn, those after
it are not. -/
theorem consult_of_first {t : Tree L} {before after : List L} {l : L}
    (ht : t.leaves = before ++ l :: after) (hb : ∀ x ∈ before, ask x = .ok none)
    (hl : ask l ≠ .ok none) : t.consult ask = (ask l, before ++ [l]) := by
  have hfirst : consultAll ask ((l :: after).map leaf) = (ask l, [l]) := by
    rw [List.map_cons, consultAll_cons, consult, next_of_ne hl]
  rw [consult_eq_leaves, ht, List.map_append, consultAll_append, consultAll_of_silent hb, hfirst]
  rfl

theorem silent_or_first (ask : L → Answer) (ls : List L) :
    (∀ l ∈ ls, ask l = .ok none) ∨ ∃ before l after, ls = before ++ l :: after ∧
      (∀ x ∈ before, ask x = .ok none) ∧ ask l ≠ .ok none := by
  induction ls with
  | nil => exact .inl nofun
  | cons d ls ih =>
    by_cases hd : ask d = .ok none
    · rcases ih with h | ⟨before, l, after, rfl, hb, hl⟩
      · exact .inl (List.forall_mem_cons.2 ⟨hd, h⟩)
      · exact .inr ⟨d :: before, l, after, rfl, List.forall_mem_cons.2 ⟨hd, hb⟩, hl⟩
    · exact .inr ⟨[], d, ls, rfl, nofun, hd⟩

/-- **Layers are their leaves, asked from left to right until one of them says something.** The
answer is that of the first leaf that gives a value or fails, and nothing if there is none; the
leaves up to that one are asked once each and in order, and no leaf after it. So neither the answer
nor the leaves asked for it tell a tree from the single row of its leaves, or from any other way to
group them. -/
theorem read_leaves [Source L] (host : Host) (flag : String) (t : Tree L) :
    let ask := fun l : L => Source.read host l flag
    let row : Tree L := .layered (t.leaves.map .leaf)
    ((∀ l ∈ t.leaves, ask l = .ok none) ∧ Source.read host t flag = .ok none ∧
        (t.consult ask).2 = t.leaves ∨
      ∃ before l after, t.leaves = before ++ l :: after ∧ (∀ x ∈ before, ask x = .ok none) ∧
        ask l ≠ .ok none ∧ Source.read host t flag = ask l ∧
        (t.consult ask).2 = before ++ [l]) ∧
    (Source.read host t flag = Source.read host row flag ∧ t.consult ask = row.consult ask) ∧
    (∀ u : Tree L, u.leaves = t.leaves →
      Source.read host u flag = Source.read host t flag ∧ u.consult ask = t.consult ask) ∧
    ∀ below : Tree L, (t.layer below).leaves = t.leaves ++ below.leaves := by
  intro ask row
  have hread : ∀ u : Tree L, Source.read host u flag = (u.consult ask).1 := fun _ => rfl
  have regroup : ∀ u v : Tree L, u.leaves = v.leaves →
      Source.read host u flag = Source.read host v flag ∧ u.consult ask = v.consult ask := by
    intro u v h
    have hc : u.consult ask = v.consult ask := by
      rw [consult_eq_leaves u, h, ← consult_eq_leaves v]
    exact ⟨by rw [hread, hread, hc], hc⟩
  refine ⟨?_, regroup t row (leaves_layered_leaf t.leaves).symm, fun u hu => regroup u t hu,
    t.leaves_layer⟩
  rw [hread]
  -- the two cases of the statement are those of the search for a leaf that says something
  rcases silent_or_first ask t.leaves with h | ⟨before, l, after, ht, hb, hl⟩
  · rw [consult_of_silent h]
    exact .inl ⟨h, rfl, rfl⟩
  · rw [consult_of_first ht hb hl]
    exact .inr ⟨before, l, after, ht, hb, hl, rfl, rfl⟩

end Tree

end AudioHal.Flag

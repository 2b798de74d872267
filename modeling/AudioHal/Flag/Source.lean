import AudioHal.Flag.Document
import AudioHal.Flag.Variable
import AudioHal.Host.Basic

/-! # Flag sources

Where flags come from. Sources can be laid over one another: the first that says anything, be it a
value or a failure, decides.

* `Flag.Source`: what can be asked for a flag, in the state of a host.
* `Flag.Leaf`: the sources that look at one place.
* `Flag.Tree`: layers of sources, nested at will; `Flag.Tree.consult` tells the answer and which
  leaves were asked for it, in order.
-/

set_option autoImplicit false

namespace AudioHal.Flag

/-- What can be asked for a flag. -/
class Source (S : Type) where
  /-- The answer, in the state of a host. -/
  read : Host → S → String → Answer

/-- A source that looks at one place. -/
inductive Leaf
  /-- Settings that never change. -/
  | fixed (settings : Settings)
  /-- The environment. -/
  | environment (stem : String)
  /-- The settings of a document that was read before. -/
  | document (settings : Settings)
  /-- A file, looked at each time. -/
  | file (path : Path)
deriving DecidableEq

namespace Leaf

/-- What a leaf says about a flag. -/
def read (host : Host) : Leaf → String → Answer
  | .fixed settings, flag => .ok (settings.get? flag)
  | .environment stem, flag => readVariable host.environment stem flag
  | .document settings, flag => .ok (settings.get? flag)
  | .file path, flag => (load host.files path).map fun settings => settings.get? flag

instance : Source Leaf := ⟨read⟩

end Leaf

/-- Leaves, in layers upon layers. -/
inductive Tree (L : Type)
  | leaf (l : L)
  /-- A source inside another that only passes questions on. -/
  | boxed (inner : Tree L)
  /-- Sources of which the first that says anything decides. -/
  | layered (layers : List (Tree L))

namespace Tree

variable {L : Type}

mutual

/-- The answer of a tree, and the leaves asked for it. -/
def consult (ask : L → Answer) : Tree L → Answer × List L
  | .leaf l => (ask l, [l])
  | .boxed inner => consult ask inner
  | .layered layers => consultAll ask layers

/-- The answer of layers, and the leaves asked for it. A layer is asked only if those before it
said nothing. -/
def consultAll (ask : L → Answer) : List (Tree L) → Answer × List L
  | [] => (.ok none, [])
  | layer :: rest =>
    match consult ask layer with
    | (.ok none, asked) =>
      let (answer, more) := consultAll ask rest
      (answer, asked ++ more)
    | decided => decided

end

mutual

/-- The leaves of a tree, from left to right. -/
def leaves : Tree L → List L
  | .leaf l => [l]
  | .boxed inner => leaves inner
  | .layered layers => leavesAll layers

/-- The leaves of layers, from left to right. -/
def leavesAll : List (Tree L) → List L
  | [] => []
  | layer :: rest => leaves layer ++ leavesAll rest

end

mutual

/-- A tree with other leaves. -/
def map {M : Type} (f : L → M) : Tree L → Tree M
  | .leaf l => .leaf (f l)
  | .boxed inner => .boxed (map f inner)
  | .layered layers => .layered (mapAll f layers)

/-- Layers with other leaves. -/
def mapAll {M : Type} (f : L → M) : List (Tree L) → List (Tree M)
  | [] => []
  | layer :: rest => map f layer :: mapAll f rest

end

/-- The layers of a source; a source that has none is a layer by itself. -/
def layers : Tree L → List (Tree L)
  | .layered layers => layers
  | other => [other]

/-- How many layers a source has. -/
def depth (t : Tree L) : Nat :=
  t.layers.length

/-- One more layer, below those there are. -/
def layer (t below : Tree L) : Tree L :=
  .layered (t.layers ++ [below])

instance [Source L] : Source (Tree L) where
  read host t flag := (t.consult fun l => Source.read host l flag).1

end Tree

end AudioHal.Flag

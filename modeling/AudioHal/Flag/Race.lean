import AudioHal.Flag.Cached

/-! # Flags among threads

Many threads may want a flag before its value is known. One of them becomes responsible for asking
the source; the others wait for what it finds out.

* `Flag.Race`: a cached flag, its host and the threads around it, with a record of what happened.
* `Flag.Race.Move`: what can happen next. Asking the source, writing to the log, making the value
  known and taking it are moves of their own, so that anything may happen in between.
* `Flag.Race.take`, `Flag.Race.run`: the effect of a move, and of a schedule. A move that is not
  possible has no effect.
* `Flag.Cached.getMany`: several threads that want the value at once.
-/

set_option autoImplicit false

namespace AudioHal.Flag

/-- What a thread is about. -/
inductive Thread
  /-- It does not want the value. -/
  | idle
  /-- It waits for the value or has yet to take it. -/
  | waiting
  /-- It is about to ask the source. -/
  | asking
  /-- It has asked the source and is about to write to the log. -/
  | deciding (answer : Answer)
  /-- It has written to the log and is about to make the value known. -/
  | settling (value : Bool)

/-- A cached flag among threads. -/
structure Race (S : Type) where
  flag : Cached S
  host : Host
  /-- What each thread is about. -/
  threads : Nat → Thread
  /-- The thread that is responsible for the value. -/
  chosen : Option Nat
  /-- How often the value was wanted. -/
  wanted : Nat
  /-- What the source was asked, with the host it looked at. -/
  readings : List (Host × Answer)
  /-- The log of the flag. -/
  log : List Event
  /-- The values handed out, in order. -/
  returned : List Bool
  /-- What onlookers saw: the value, if it was known, and whether it was known. -/
  seen : List (Option Bool × Bool)

namespace Race

variable {S : Type}

/-- Nothing has happened yet. -/
def start (host : Host) (flag : Cached S) : Race S where
  flag := flag
  host := host
  threads _ := .idle
  chosen := none
  wanted := 0
  readings := []
  log := []
  returned := []
  seen := []

/-- What can happen next. -/
inductive Move
  /-- A thread wants the value. -/
  | want (thread : Nat)
  /-- The responsible thread asks the source. -/
  | ask (thread : Nat)
  /-- The responsible thread writes to the log what comes of the answer. -/
  | tell (thread : Nat)
  /-- The responsible thread makes the value known. -/
  | settle (thread : Nat)
  /-- A waiting thread takes the value. -/
  | wake (thread : Nat)
  /-- Somebody looks at the value without wanting it. -/
  | look
  /-- The host changes. -/
  | change (c : Host.Change)

/-- A race in which a thread is about something else. -/
def setThread (r : Race S) (thread : Nat) (t : Thread) : Race S :=
  { r with threads := fun i => if i = thread then t else r.threads i }

/-- The effect of a move. -/
def take [Source S] (r : Race S) : Move → Race S
  | .want thread =>
    match r.threads thread with
    | .idle =>
      let r := { r with wanted := r.wanted + 1 }
      match r.flag.peek, r.chosen with
      | none, none => { r.setThread thread .asking with chosen := some thread }
      | _, _ => r.setThread thread .waiting
    | _ => r
  | .ask thread =>
    match r.threads thread with
    | .asking =>
      let answer := Source.read r.host r.flag.source r.flag.name
      { r.setThread thread (.deciding answer) with readings := r.readings ++ [(r.host, answer)] }
    | _ => r
  | .tell thread =>
    match r.threads thread with
    | .deciding answer =>
      let (b, event) := resolve r.flag.name r.flag.fallback answer
      { r.setThread thread (.settling b) with log := r.log ++ [event] }
    | _ => r
  | .settle thread =>
    match r.threads thread with
    | .settling b => { r.setThread thread .waiting with flag := { r.flag with value? := some b } }
    | _ => r
  | .wake thread =>
    match r.threads thread, r.flag.peek with
    | .waiting, some b => { r.setThread thread .idle with returned := r.returned ++ [b] }
    | _, _ => r
  | .look => { r with seen := r.seen ++ [(r.flag.peek, r.flag.isKnown)] }
  | .change c => { r with host := r.host.after c }

/-- The effect of a schedule. -/
def run [Source S] (r : Race S) (moves : List Move) : Race S :=
  moves.foldl take r

/-- The schedule of `n` threads that all want the value before any of them has it. -/
def together (n : Nat) : List Move :=
  let threads := List.range n
  threads.map .want ++ threads.map .ask ++ threads.map .tell ++ threads.map .settle ++
    threads.map .wake

end Race

/-- The values that `n` threads get who want it at once, with the flag and the events. -/
def Cached.getMany {S : Type} [Source S] (host : Host) (f : Cached S) (n : Nat) :
    List Bool × Cached S × List Event :=
  let r := (Race.start host f).run (Race.together n)
  (r.returned, r.flag, r.log)

end AudioHal.Flag

import AudioHal.Flag.Cached
import AudioHal.Proofs.Host.Files

/-! # Flags in files that change

A file can be looked at for every question, once for a document that is kept, or once for a cached
flag. Each of them has the contents of the moment at which it looks.

* `Flag.ask`: what a document says, or why there is none.
* `Flag.ask_load_of_text`, `Flag.ask_load_of_error`, `Flag.ask_load_eq_error`: what comes of a file
  depends on its text alone, up to the path in complaints.
* `Flag.Scene`: a host, documents loaded from its files, and a cached flag over a file;
  `Flag.Scene.take` and `Flag.Scene.run` say what becomes of them.
* `Flag.Scene.host_run`, `Flag.Scene.documents_run`, `Flag.Scene.cached_run_known`: what no run
  changes.
* `Flag.Scene.read_after_write`: a text that was written is what the next question is about.
* `Flag.Scene.contents_when_looked_at`: which contents count, for every run.
-/

set_option autoImplicit false

namespace AudioHal.Flag

/-- What a document says about a flag; one that could not be had says why. -/
def ask (host : Host) (document : Except Failure Settings) (flag : String) : Answer :=
  document >>= fun settings => Leaf.read host (.document settings) flag

/-- An answer in which a malformed text comes from somewhere else. -/
def Answer.relabel (origin : String) : Answer → Answer
  | .error (.malformed _) => .error (.malformed origin)
  | answer => answer

section
variable {host : Host} {path : Path} {flag text origin : String} {e : Failure}

/-! ## Files and texts -/

theorem read_file_eq_ask :
    Leaf.read host (.file path) flag = ask host (load host.files path) flag := by
  simp only [Leaf.read, ask]
  cases load host.files path <;> rfl

theorem ask_parse : ask host (parse text origin) flag =
    (ask host (parse text inlineOrigin) flag).relabel origin := by
  unfold ask parse
  cases (Toml.parse text).bind settings? <;> rfl

theorem ask_parse_eq_error (h : ask host (parse text origin) flag = .error e) :
    e = .malformed origin := by
  unfold ask parse at h
  cases hs : (Toml.parse text).bind settings? with
  | some settings =>
    rw [hs] at h
    cases h
  | none =>
    rw [hs] at h
    cases h
    rfl

theorem load_of_text (h : host.files.read path = .ok (Utf8.encode text)) :
    load host.files path = parse text path.display := by
  rw [load, Files.readText_eq_ok_iff.2 h]

theorem ask_load_of_text (h : host.files.read path = .ok (Utf8.encode text)) :
    ask host (load host.files path) flag =
      (ask host (parse text inlineOrigin) flag).relabel path.display := by
  rw [load_of_text h, ask_parse]

theorem ask_load_of_error {obstacle : Obstacle} (h : host.files.readText path = .error obstacle) :
    ask host (load host.files path) flag = .error (.unreadable path obstacle) := by
  rw [load, h]
  rfl

/-- Complaints about a file have its path. -/
theorem ask_load_eq_error (h : ask host (load host.files path) flag = .error e) :
    (∃ obstacle, e = .unreadable path obstacle) ∨ e = .malformed path.display := by
  cases ht : host.files.readText path with
  | ok text =>
    rw [load_of_text (Files.readText_eq_ok_iff.1 ht)] at h
    exact .inr (ask_parse_eq_error h)
  | error obstacle =>
    rw [ask_load_of_error ht] at h
    cases h
    exact .inl ⟨obstacle, rfl⟩

end

/-! ## Scenes -/

/-- What can happen around files of flags. -/
inductive Act
  /-- The host changes. -/
  | change (c : Host.Change)
  /-- A file is asked for a flag. -/
  | read (path : Path) (flag : String)
  /-- The document in a file is loaded and kept. -/
  | load (path : Path)
  /-- A kept document is asked for a flag. -/
  | consult (n : Nat) (flag : String)
  /-- The cached flag is wanted. -/
  | get

/-- What those who act get for it. -/
inductive Reply
  | done
  | answer (a : Answer)
  | value (b : Bool)

/-- What an act changes outside. -/
def Act.change? : Act → Option Host.Change
  | .change c => some c
  | _ => none

/-- A host, with what was made of its files. -/
structure Scene where
  host : Host
  /-- The documents that were loaded, in order, or why they could not be. -/
  documents : List (Except Failure Settings)
  /-- A cached flag. -/
  cached : Cached Leaf

namespace Scene

/-- Nothing was looked at yet. The cached flag is one in a file. -/
def start (host : Host) (name : String) (fallback : Bool) (path : Path) : Scene :=
  ⟨host, [], .new name fallback (.file path)⟩

/-- The effect of an act, after the reply to it. -/
def take (s : Scene) : Act → Reply × Scene
  | .change c => (.done, { s with host := s.host.after c })
  | .read path flag => (.answer (Leaf.read s.host (.file path) flag), s)
  | .load path => (.done, { s with documents := s.documents ++ [load s.host.files path] })
  | .consult n flag =>
    match s.documents[n]? with
    | some document => (.answer (ask s.host document flag), s)
    | none => (.done, s)
  | .get =>
    let (b, cached, _) := s.cached.get s.host
    (.value b, { s with cached := cached })

/-- The scene after one act after another. -/
def run (s : Scene) (acts : List Act) : Scene :=
  acts.foldl (fun s act => (s.take act).2) s

section
variable {s : Scene} {act : Act} {acts : List Act} {b : Bool}

theorem run_cons : s.run (act :: acts) = (s.take act).2.run acts :=
  rfl

theorem run_append (before later : List Act) :
    s.run (before ++ later) = (s.run before).run later :=
  List.foldl_append ..

theorem take_consult (n : Nat) (flag : String) : (s.take (.consult n flag)).2 = s := by
  simp only [take]
  split <;> rfl

/-- Only changes from outside change the host. -/
theorem host_run (s : Scene) (acts : List Act) :
    (s.run acts).host = s.host.afterAll (acts.filterMap Act.change?) := by
  induction acts generalizing s with
  | nil => rfl
  | cons act acts ih =>
    rw [run_cons, ih]
    cases act with
    | consult n flag =>
      rw [take_consult]
      rfl
    | change | read | load | get => rfl

theorem documents_take : s.documents <+: (s.take act).2.documents := by
  cases act with
  | load path => exact List.prefix_append ..
  | consult n flag => rw [take_consult]
  | change | read | get => exact List.prefix_rfl

/-- Documents that were loaded stay as they are. -/
theorem documents_run (s : Scene) (acts : List Act) : s.documents <+: (s.run acts).documents := by
  induction acts generalizing s with
  | nil => exact List.prefix_rfl
  | cons act acts ih => exact documents_take.trans (ih _)

theorem consult_run {n : Nat} {document : Except Failure Settings}
    (h : s.documents[n]? = some document) (acts : List Act) (flag : String) :
    ((s.run acts).take (.consult n flag)).1 = .answer (ask s.host document flag) := by
  obtain ⟨more, hmore⟩ := documents_run s acts
  have hn : (s.run acts).documents[n]? = some document := by
    rw [← hmore, List.getElem?_append_left (List.getElem?_eq_some_iff.1 h).1, h]
  simp only [take, hn]
  rfl

theorem cached_take_of_ne_get (h : act ≠ .get) : (s.take act).2.cached = s.cached := by
  cases act with
  | get => exact absurd rfl h
  | consult n flag => rw [take_consult]
  | change | read | load => rfl

/-- A cached flag that nobody wants stays as it is. -/
theorem cached_run_of_not_mem (h : .get ∉ acts) : (s.run acts).cached = s.cached := by
  induction acts generalizing s with
  | nil => rfl
  | cons act acts ih =>
    obtain ⟨hact, hacts⟩ := List.ne_and_not_mem_of_not_mem_cons h
    rw [run_cons, ih hacts, cached_take_of_ne_get (Ne.symm hact)]

theorem cached_take_known (h : s.cached.peek = some b) : (s.take act).2.cached = s.cached := by
  by_cases hact : act = .get
  · rw [hact, take, Cached.get_of_peek_eq_some h]
  · exact cached_take_of_ne_get hact

/-- A cached flag that is known stays as it is. -/
theorem cached_run_known (h : s.cached.peek = some b) (acts : List Act) :
    (s.run acts).cached = s.cached := by
  induction acts generalizing s with
  | nil => rfl
  | cons act acts ih =>
    have hact : (s.take act).2.cached = s.cached := cached_take_known h
    rw [run_cons, ih (by rw [hact, h]), hact]

theorem get_run (h : s.cached.peek = some b) (acts : List Act) :
    ((s.run acts).take .get).1 = .value b := by
  have hknown : (s.run acts).cached.peek = some b := by rw [cached_run_known h acts, h]
  rw [take, Cached.get_of_peek_eq_some hknown]

end

/-! ## Binding times -/

section
variable {host : Host} {name : String} {fallback : Bool} {path : Path} {before : List Act}

/-- A text that was written is what the next question is about, unless it could not be written. -/
theorem read_after_write (s : Scene) (p : Path) (text flag : String) :
    let t := (s.take (.change (.writeFile p (Utf8.encode text)))).2
    t = s ∨ (t.take (.read p flag)).1 =
      .answer ((ask t.host (parse text inlineOrigin) flag).relabel p.display) := by
  intro t
  rcases s.host.files.write_cases p (Utf8.encode text) with hsame | hread
  · left
    simp only [t, take, Host.after, hsame]
  · right
    have hread' : t.host.files.read p = .ok (Utf8.encode text) := hread
    rw [take, read_file_eq_ask, ask_load_of_text hread']

theorem consult_run_load (s : Scene) (later : List Act) (p : Path) (flag : String) :
    ((s.run (.load p :: later)).take (.consult s.documents.length flag)).1 =
      .answer (ask s.host (load s.host.files p) flag) := by
  rw [run_cons]
  exact consult_run (List.getElem?_concat_length ..) later flag

theorem get_run_get (s : Scene) (later : List Act) :
    ((s.run (.get :: later)).take .get).1 = (s.take .get).1 := by
  have hknown : (s.take .get).2.cached.peek = some (s.cached.get s.host).1 :=
    Cached.peek_get s.host s.cached
  rw [run_cons, get_run hknown later]
  rfl

theorem take_get_of_not_mem (h : .get ∉ before) :
    let s := (start host name fallback path).run before
    (s.take .get).1 =
      .value (resolve name fallback (ask s.host (load s.host.files path) name)).1 := by
  intro s
  have hcached : s.cached = .new name fallback (.file path) := cached_run_of_not_mem h
  rw [take, hcached, ← read_file_eq_ask]
  rfl

end

/-- **What is made of a file has the contents of the moment at which the file is looked at.** A file
that is asked for a flag is looked at then and there, and answers like a document loaded at that
moment, or like its text, except that a complaint about the text has the path; if there is no text,
the complaint has the path and says why. A document has the contents at the moment of loading and a
cached flag those at the moment it was first wanted, whatever happens later. -/
theorem contents_when_looked_at (host : Host) (name : String) (fallback : Bool) (path : Path)
    (acts : List Act) :
    let start := start host name fallback path
    let now := start.run acts
    now.host = host.afterAll (acts.filterMap Act.change?) ∧
    (∀ p flag,
      let answer := ask now.host (load now.host.files p) flag
      (now.take (.read p flag)).1 = .answer answer ∧
      (∀ e, answer = .error e → (∃ o, e = .unreadable p o) ∨ e = .malformed p.display) ∧
      (∀ text, now.host.files.read p = .ok (Utf8.encode text) →
        answer = (ask now.host (parse text inlineOrigin) flag).relabel p.display) ∧
      (∀ o, now.host.files.read p = .error o → answer = .error (.unreadable p o)) ∧
      ∀ bytes, now.host.files.read p = .ok bytes → (∀ text, bytes ≠ Utf8.encode text) →
        answer = .error (.unreadable p .invalidData)) ∧
    (∀ before p later, acts = before ++ .load p :: later →
      let past := start.run before
      ∀ flag, (now.take (.consult past.documents.length flag)).1 =
        .answer (ask past.host (load past.host.files p) flag)) ∧
    ∀ before later, acts = before ++ .get :: later → .get ∉ before →
      let past := start.run before
      let answer := ask past.host (load past.host.files path) name
      (past.take .get).1 = .value (resolve name fallback answer).1 ∧
        (now.take .get).1 = .value (resolve name fallback answer).1 := by
  intro start now
  refine ⟨host_run _ acts, fun p flag => ?read, ?loaded, ?cached⟩
  case read =>
    exact ⟨congrArg Reply.answer read_file_eq_ask, fun e => ask_load_eq_error,
      fun text => ask_load_of_text, fun o ho => ask_load_of_error (Files.readText_of_error ho),
      fun bytes hb hn => ask_load_of_error (Files.readText_of_not_text hb hn)⟩
  case loaded =>
    rintro before p later rfl past flag
    have hnow : now = past.run (.load p :: later) := run_append before _
    rw [hnow, consult_run_load]
  case cached =>
    rintro before later rfl hn past answer
    have hnow : now = past.run (.get :: later) := run_append before _
    have hfirst : (past.take .get).1 = .value (resolve name fallback answer).1 :=
      take_get_of_not_mem hn
    exact ⟨hfirst, by rw [hnow, get_run_get, hfirst]⟩

/-- A file that is edited after its document was loaded and after the cached flag was wanted. -/
theorem edited_contents :
    let p := Path.ofText "/flags.toml"
    let write := fun text => Act.change (.writeFile p (Utf8.encode text))
    let s := (start ⟨.empty, ⟨[], []⟩⟩ "a" false p).run
      [write "[flags]\na = true", .load p, .get, write "flags.a = false"]
    (s.take (.read p "a")).1 = .answer (.ok (some false)) ∧
      (s.take (.consult 0 "a")).1 = .answer (.ok (some true)) ∧
      (s.take .get).1 = .value true := by
  intro p write s
  obtain ⟨-, hread, hload, hget⟩ := contents_when_looked_at ⟨.empty, ⟨[], []⟩⟩ "a" false p
    [write "[flags]\na = true", .load p, .get, write "flags.a = false"]
  have hload := hload [write "[flags]\na = true"] p [.get, write "flags.a = false"] rfl "a"
  have hget := hget [write "[flags]\na = true", .load p] [write "flags.a = false"] rfl
    (by simp [write])
  refine ⟨(hread p "a").1.trans ?_, hload.trans ?_, hget.2.trans ?_⟩
  all_goals
    subst write p
    cbv

end Scene

end AudioHal.Flag

import FunctionHost.State.Store
/-!
# Concurrent read-modify-writes against a version-gated store

`Scoped.set` is a loop of rounds, each a read, a call of the update on what the read found, and a
write of the update's value at the version the read found. Here the loop is cut at its two
requests: `SetPhase` says where a read-modify-write stands between requests, and
`SetPhase.afterRead` and `SetPhase.afterWrite` what an answer does to it. Fed the scoped
client's own answers one after another (`Scoped.drive`), these transitions are
`Scoped.setFrom` itself.

Many clients then share one entry of a store that gates writes on versions, as the test store
does: a write is accepted when it carries the entry's version (0 when there is no entry), and
then stores its value one version on; a read answers the entry, or not found. A `World` holds
the entry, each client's phase and the values its update saw, and the log of accepted writes, a
history variable that nothing reads. An `Event` is one request reaching the store, so a list of
events is any interleaving of the clients' requests and of writes by other writers. Nothing
deletes the entry.

**Results.**
* `setFrom_eq_drive`: the rounds of `Scoped.setFrom` are the phase transitions, driven by the
  client's own requests.
* `World.step_store`: a step either leaves the entry and the log as they were, or logs one
  accepted write that replaced the entry's value and stored its own one version on.
* `World.sound_run`: every run keeps `World.Sound`. Its key part: a client about to write at
  the entry's current version read exactly the entry's current value, since every accepted
  write moves the version on.
* `set_race_serializable`: in every run, a client that finished with a value wrote that value,
  made by its last update call from exactly the value the store held just before the write;
  the stored value is the accepted updates applied in order to the initial value, the version
  counts them, and a refused write leaves the store alone.
-/
namespace FunctionHost.State

open Json

/-- Where a read-modify-write stands between two requests. -/
inductive SetPhase where
  /-- Round `round` is about to read; `left` more rounds may follow a conflict. -/
  | reading (left round : Nat)
  /-- Round `round` read `seen` at `version` and is about to write `next` at that version. -/
  | writing (left round : Nat) (seen : Option Value) (next : Value) (version : Nat)
  /-- The read-modify-write has ended. -/
  | finished (result : Except Fault Value)

namespace SetPhase

/-- The phase of a read-modify-write with `rounds` rounds left, the next one numbered `round`. -/
def start : Nat → Nat → SetPhase
  | 0, _ =>
    .finished (.error (Fault.transient "set failed after max retries due to version conflicts"))
  | left + 1, round => .reading left round

/-- The values an update sees after a read: the current one, unless the read failed. -/
def seen (g : Except Fault Entry) : List (Option Value) :=
  match Scoped.current g with
  | .ok (cur, _) => [cur]
  | .error _ => []

def afterRead (update : Nat → Option Value → Except Fault Value) (left round : Nat)
    (g : Except Fault Entry) : SetPhase :=
  match Scoped.current g with
  | .error f => .finished (.error f)
  | .ok (cur, version) =>
    match update round cur with
    | .error f => .finished (.error f)
    | .ok next => .writing left round cur next version

/-- The phase after round `round`'s write of `next` was answered `w`. -/
def afterWrite (left round : Nat) (next : Value) (w : Except Fault Unit) : SetPhase :=
  match w with
  | .ok () => .finished (.ok next)
  | .error f => if f.kind = .conflict then start left (round + 1) else .finished (.error f)

/-- A bound on the requests a phase may still make, lowered by every answer. -/
def pending : SetPhase → Nat
  | .reading left _ => 2 * left + 2
  | .writing left _ _ _ _ => 2 * left + 1
  | .finished _ => 0

theorem pending_start (left round : Nat) : (start left round).pending ≤ 2 * left := by
  cases left with
  | zero => simp [start, pending]
  | succ n => simp only [start, pending]; omega

theorem pending_afterRead (update : Nat → Option Value → Except Fault Value) (left round : Nat)
    (g : Except Fault Entry) : (afterRead update left round g).pending < 2 * left + 2 := by
  unfold afterRead
  split
  · simp [pending]
  · split <;> simp [pending]

theorem pending_afterWrite (left round : Nat) (next : Value) (w : Except Fault Unit) :
    (afterWrite left round next w).pending < 2 * left + 1 := by
  unfold afterWrite
  split
  · simp [pending]
  · split
    · have := pending_start left (round + 1)
      omega
    · simp [pending]

end SetPhase

namespace Scoped

/-- A read-modify-write from a phase, its requests answered by the scoped client one after
another. -/
def drive (s : Scoped) (key : String) (update : Nat → Option Value → Except Fault Value) :
    SetPhase → Moment → List (Option Value) → SetOutcome
  | .finished r, t, calls => ⟨r, calls, t⟩
  | .reading left round, t, calls =>
    let (g, t1) := s.get key t
    s.drive key update (SetPhase.afterRead update left round g) t1 (calls ++ SetPhase.seen g)
  | .writing left round _ next version, t, calls =>
    let (w, t1) := s.setKv key next version t
    s.drive key update (SetPhase.afterWrite left round next w) t1 calls
termination_by p => p.pending
decreasing_by
  · exact SetPhase.pending_afterRead update left round _
  · exact SetPhase.pending_afterWrite left round next _

theorem setFrom_eq_drive (s : Scoped) (key : String)
    (update : Nat → Option Value → Except Fault Value) (rounds round : Nat) (t : Moment)
    (calls : List (Option Value)) :
    s.setFrom key update rounds round t calls =
      s.drive key update (SetPhase.start rounds round) t calls := by
  induction rounds generalizing round t calls with
  | zero => simp [setFrom, SetPhase.start, drive]
  | succ left ih =>
    rw [setFrom, SetPhase.start, drive]
    rcases hg : s.get key t with ⟨g, t1⟩
    simp only [SetPhase.afterRead, SetPhase.seen]
    rcases hc : current g with f | ⟨cur, version⟩
    · simp [drive]
    · rcases hu : update round cur with f | next
      · simp [hu, drive]
      · simp only [hu, drive]
        rcases hw : s.setKv key next version t1 with ⟨w, t2⟩
        rcases w with f | ⟨⟩
        · simp only [SetPhase.afterWrite]
          split
          · exact ih (round + 1) t2 (calls ++ [cur])
          · simp [drive]
        · simp [SetPhase.afterWrite, drive]

end Scoped

/-! ## A version-gated store and its clients -/

/-- The version a write must carry to replace an entry: the entry's, or 0 when there is none. -/
def versionOf : Option Entry → Nat
  | some e => e.version
  | none => 0

def valueOf (c : Option Entry) : Option Value := c.map Entry.value

/-- How the store answers a read of `key`, as the client reads the answer. -/
def readAnswer (key : String) : Option Entry → Except Fault Entry
  | some e => .ok e
  | none => .error (Fault.notFound ("key not found: " ++ key))

/-- How the store answers a write at `version`, as the client reads the answer. -/
def writeAnswer (c : Option Entry) (version : Nat) : Except Fault Unit :=
  if version = versionOf c then .ok () else .error (Fault.conflict "version conflict on set")

@[simp] theorem versionOf_some (e : Entry) : versionOf (some e) = e.version := rfl

@[simp] theorem valueOf_some (e : Entry) : valueOf (some e) = some e.value := rfl

theorem current_readAnswer (key : String) (c : Option Entry) :
    Scoped.current (readAnswer key c) = .ok (valueOf c, versionOf c) := by
  cases c <;> rfl

/-- Who made an accepted write: a client in one of its rounds, or another writer. -/
inductive Author where
  | client (i round : Nat)
  | other

/-- An accepted write: who made it, the value it replaced (none when there was no entry), and the
value it stored. -/
structure Accepted where
  author : Author
  before : Option Value
  after : Value

/-- The update an accepted write applied: a client's update in the round that wrote, or, for
another writer, its own value. -/
def Accepted.update (updates : Nat → Nat → Option Value → Except Fault Value) (e : Accepted) :
    Option Value → Except Fault Value :=
  match e.author with
  | .client i round => updates i round
  | .other => fun _ => .ok e.after

/-- The updates of accepted writes applied in order, from a value. -/
def replay (updates : Nat → Nat → Option Value → Except Fault Value) :
    List Accepted → Option Value → Except Fault (Option Value)
  | [], v => .ok v
  | e :: rest, v =>
    match e.update updates v with
    | .ok next => replay updates rest (some next)
    | .error f => .error f

theorem replay_append (updates : Nat → Nat → Option Value → Except Fault Value)
    (log : List Accepted) (e : Accepted) (v : Option Value) :
    replay updates (log ++ [e]) v =
      (replay updates log v).bind fun u => (e.update updates u).map some := by
  induction log generalizing v with
  | nil => cases h : e.update updates v <;> simp [replay, h, Except.bind, Except.map]
  | cons d rest ih =>
    simp only [List.cons_append, replay]
    cases d.update updates v with
    | ok next => exact ih (some next)
    | error f => rfl

/-- A client running a read-modify-write: its phase, and the values its update has seen. -/
structure Client where
  phase : SetPhase
  calls : List (Option Value)

/-- Clients sharing one entry of a version-gated store, with the log of accepted writes. -/
structure World where
  entry : Option Entry
  clients : List Client
  log : List Accepted

/-- One request reaching the store. -/
inductive Event where
  /-- Client `i` sends its next request and is answered. -/
  | client (i : Nat)
  /-- Another writer writes `value` at `version`. -/
  | other (value : Value) (version : Nat)

namespace World

/-- Clients allowed the given numbers of rounds, none begun, over the entry `init`. -/
def start (init : Option Entry) (rounds : List Nat) : World :=
  ⟨init, rounds.map fun n => ⟨SetPhase.start n 1, []⟩, []⟩

/-- The store takes a write of `v` at `version` by `author`: when `version` is the entry's, the
value is stored one version on and the write is logged; otherwise nothing changes. -/
def put (w : World) (author : Author) (v : Value) (version : Nat) : World :=
  if version = versionOf w.entry then
    { w with entry := some ⟨v, version + 1⟩, log := w.log ++ [⟨author, valueOf w.entry, v⟩] }
  else w

def setClient (w : World) (i : Nat) (c : Client) : World := { w with clients := w.clients.set i c }

/-- One request reaching the store. Client `i` reads or writes as its phase says, `updates i`
being its update; a client that has finished, or is not there, sends nothing. -/
def step (updates : Nat → Nat → Option Value → Except Fault Value) (key : String) (w : World) :
    Event → World
  | .client i =>
    match w.clients[i]? with
    | none => w
    | some c =>
      match c.phase with
      | .reading left round =>
        let g := readAnswer key w.entry
        w.setClient i ⟨SetPhase.afterRead (updates i) left round g, c.calls ++ SetPhase.seen g⟩
      | .writing left round _ next version =>
        (w.put (.client i round) next version).setClient i
          ⟨SetPhase.afterWrite left round next (writeAnswer w.entry version), c.calls⟩
      | .finished _ => w
  | .other v version => w.put .other v version

def run (updates : Nat → Nat → Option Value → Except Fault Value) (key : String) (w : World)
    (evs : List Event) : World :=
  evs.foldl (step updates key) w

/-! ## What a step does to the store -/

variable {updates : Nat → Nat → Option Value → Except Fault Value} {key : String}

@[simp] theorem setClient_entry (w : World) (i : Nat) (c : Client) :
    (w.setClient i c).entry = w.entry := rfl

@[simp] theorem setClient_log (w : World) (i : Nat) (c : Client) :
    (w.setClient i c).log = w.log := rfl

@[simp] theorem put_clients (w : World) (a : Author) (v : Value) (n : Nat) :
    (w.put a v n).clients = w.clients := by
  unfold put
  split <;> rfl

theorem put_accepted (w : World) (a : Author) (v : Value) {n : Nat} (h : n = versionOf w.entry) :
    (w.put a v n).entry = some ⟨v, n + 1⟩ ∧ (w.put a v n).log = w.log ++ [⟨a, valueOf w.entry, v⟩] := by
  simp [put, h]

theorem put_refused (w : World) (a : Author) (v : Value) {n : Nat} (h : n ≠ versionOf w.entry) :
    w.put a v n = w := by
  simp [put, h]

/-- The store's side of a write: refused, it changes nothing; accepted, it logs the write and
stores its value one version on. -/
theorem put_store (w : World) (a : Author) (v : Value) (n : Nat) :
    ((w.put a v n).entry = w.entry ∧ (w.put a v n).log = w.log) ∨
      ((w.put a v n).entry = some ⟨v, versionOf w.entry + 1⟩ ∧
        (w.put a v n).log = w.log ++ [⟨a, valueOf w.entry, v⟩]) := by
  by_cases h : n = versionOf w.entry
  · right
    obtain ⟨he, hl⟩ := put_accepted w a v h
    rw [he, hl, h]
    exact ⟨rfl, rfl⟩
  · left
    rw [put_refused w a v h]
    exact ⟨rfl, rfl⟩

theorem step_reading {w : World} {i : Nat} {c : Client} {left round : Nat}
    (hc : w.clients[i]? = some c) (hp : c.phase = .reading left round) :
    w.step updates key (.client i) = w.setClient i
      ⟨SetPhase.afterRead (updates i) left round (readAnswer key w.entry),
        c.calls ++ SetPhase.seen (readAnswer key w.entry)⟩ := by
  simp [step, hc, hp]

theorem step_writing {w : World} {i : Nat} {c : Client} {left round : Nat} {seen : Option Value}
    {next : Value} {version : Nat} (hc : w.clients[i]? = some c)
    (hp : c.phase = .writing left round seen next version) :
    w.step updates key (.client i) = (w.put (.client i round) next version).setClient i
      ⟨SetPhase.afterWrite left round next (writeAnswer w.entry version), c.calls⟩ := by
  simp [step, hc, hp]

theorem step_absent {w : World} {i : Nat} (hc : w.clients[i]? = none) :
    w.step updates key (.client i) = w := by
  simp [step, hc]

theorem step_finished {w : World} {i : Nat} {c : Client} {r : Except Fault Value}
    (hc : w.clients[i]? = some c) (hp : c.phase = .finished r) :
    w.step updates key (.client i) = w := by
  simp [step, hc, hp]

theorem step_store (w : World) (ev : Event) :
    ((w.step updates key ev).entry = w.entry ∧ (w.step updates key ev).log = w.log) ∨
      ∃ a v, (w.step updates key ev).entry = some ⟨v, versionOf w.entry + 1⟩ ∧
        (w.step updates key ev).log = w.log ++ [⟨a, valueOf w.entry, v⟩] := by
  cases ev with
  | other v n =>
    rcases put_store w .other v n with h | h
    · exact .inl h
    · exact .inr ⟨.other, v, h⟩
  | client i =>
    cases hc : w.clients[i]? with
    | none => rw [step_absent hc]; exact .inl ⟨rfl, rfl⟩
    | some c =>
      cases hp : c.phase with
      | reading left round =>
        rw [step_reading hc hp]
        exact .inl ⟨rfl, rfl⟩
      | writing left round seen next version =>
        rw [step_writing hc hp]
        rcases put_store w (.client i round) next version with h | h
        · exact .inl h
        · exact .inr ⟨.client i round, next, h⟩
      | finished r => rw [step_finished hc hp]; exact .inl ⟨rfl, rfl⟩

/-! ## The invariant -/

/-- What a client keeps against the entry and the log. About to write at the entry's version, it
read the entry's value, and its update made from that value the value it writes. Finished with a
value, it wrote that value in a logged write, its last update call made from the value that write
replaced. -/
def ClientSound (updates : Nat → Nat → Option Value → Except Fault Value)
    (entry : Option Entry) (log : List Accepted) (i : Nat) (c : Client) : Prop :=
  (∀ left round seen next version, c.phase = .writing left round seen next version →
    version ≤ versionOf entry ∧ (version = versionOf entry → valueOf entry = seen) ∧
      updates i round seen = .ok next ∧ c.calls.getLast? = some seen) ∧
  (∀ v, c.phase = .finished (.ok v) →
    ∃ round before, ⟨.client i round, before, v⟩ ∈ log ∧ c.calls.getLast? = some before ∧
      updates i round before = .ok v)

/-- What every run from the entry `init` keeps: the version counts the accepted writes, the
accepted updates replayed from the initial value give the stored one, and every client keeps
`ClientSound`. -/
structure Sound (updates : Nat → Nat → Option Value → Except Fault Value) (init : Option Entry)
    (w : World) : Prop where
  version : versionOf w.entry = versionOf init + w.log.length
  replay : replay updates w.log (valueOf init) = .ok (valueOf w.entry)
  clients : ∀ i c, w.clients[i]? = some c → ClientSound updates w.entry w.log i c

/-- A client that has not begun keeps `ClientSound` whatever the store holds. -/
theorem clientSound_start (entry : Option Entry) (log : List Accepted) (i rounds round : Nat)
    (calls : List (Option Value)) :
    ClientSound updates entry log i ⟨SetPhase.start rounds round, calls⟩ := by
  unfold ClientSound
  cases rounds with
  | zero => exact ⟨fun _ _ _ _ _ h => (by cases h), fun _ h => (by cases h)⟩
  | succ left => exact ⟨fun _ _ _ _ _ h => (by cases h), fun _ h => (by cases h)⟩

/-- An accepted write by anyone keeps every client's `ClientSound`: it moves the version past
every version a client read, and only adds to the log. -/
theorem ClientSound.put {w : World} {i : Nat} {c : Client}
    (h : ClientSound updates w.entry w.log i c) (a : Author) (v : Value) (n : Nat) :
    ClientSound updates (w.put a v n).entry (w.put a v n).log i c := by
  rcases put_store w a v n with ⟨he, hl⟩ | ⟨he, hl⟩
  · rw [he, hl]
    exact h
  · obtain ⟨hw, hf⟩ := h
    rw [he, hl]
    refine ⟨?_, ?_⟩
    · intro left round seen next version hp
      obtain ⟨hle, -, hu, hl⟩ := hw left round seen next version hp
      refine ⟨by simp only [versionOf_some]; omega, ?_, hu, hl⟩
      intro heq
      simp only [versionOf_some] at heq
      omega
    · intro u hp
      obtain ⟨round, before, hm, hl, hu⟩ := hf u hp
      exact ⟨round, before, List.mem_append_left _ hm, hl, hu⟩

theorem clientSound_read (entry : Option Entry) (log : List Accepted) (i left round : Nat)
    (calls : List (Option Value)) :
    ClientSound updates entry log i
      ⟨SetPhase.afterRead (updates i) left round (readAnswer key entry),
        calls ++ SetPhase.seen (readAnswer key entry)⟩ := by
  unfold ClientSound
  simp only [SetPhase.afterRead, SetPhase.seen, current_readAnswer]
  cases hu : updates i round (valueOf entry) with
  | error f => exact ⟨fun _ _ _ _ _ h => (by cases h), fun _ h => (by cases h)⟩
  | ok next =>
    refine ⟨?_, fun _ h => (by cases h)⟩
    intro left' round' seen next' version h
    simp only [SetPhase.writing.injEq] at h
    obtain ⟨-, rfl, rfl, rfl, rfl⟩ := h
    exact ⟨Nat.le_refl _, fun _ => rfl, hu, List.getLast?_concat⟩

theorem afterWrite_accepted (left round : Nat) (next : Value) {entry : Option Entry}
    {version : Nat} (h : version = versionOf entry) :
    SetPhase.afterWrite left round next (writeAnswer entry version) = .finished (.ok next) := by
  simp [SetPhase.afterWrite, writeAnswer, h]

theorem afterWrite_refused (left round : Nat) (next : Value) {entry : Option Entry}
    {version : Nat} (h : version ≠ versionOf entry) :
    SetPhase.afterWrite left round next (writeAnswer entry version) =
      SetPhase.start left (round + 1) := by
  simp [SetPhase.afterWrite, writeAnswer, h, Fault.conflict, Fault.new]

/-- A client whose write was just accepted finishes with the value it wrote, and that write is
the last one logged. -/
theorem clientSound_accepted {w : World} {i left round version : Nat} {c : Client}
    {seen : Option Value} {next : Value} (hacc : version = versionOf w.entry)
    (hseen : valueOf w.entry = seen) (hu : updates i round seen = .ok next)
    (hl : c.calls.getLast? = some seen) :
    ClientSound updates (w.put (.client i round) next version).entry
      (w.put (.client i round) next version).log i
      ⟨SetPhase.afterWrite left round next (writeAnswer w.entry version), c.calls⟩ := by
  obtain ⟨-, hlog⟩ := put_accepted w (.client i round) next hacc
  rw [hlog, afterWrite_accepted left round next hacc]
  refine ⟨fun _ _ _ _ _ hp => (by cases hp), ?_⟩
  intro v hp
  simp only [SetPhase.finished.injEq, Except.ok.injEq] at hp
  subst hp
  refine ⟨round, seen, ?_, hl, hu⟩
  rw [hseen]
  exact List.mem_append_right _ (List.mem_singleton_self _)

/-- Replacing client `i` keeps `Sound` when the other clients and the new one keep
`ClientSound`. -/
theorem sound_setClient {init : Option Entry} {w : World} {i : Nat} {c : Client}
    (hv : versionOf w.entry = versionOf init + w.log.length)
    (hr : replay updates w.log (valueOf init) = .ok (valueOf w.entry))
    (hothers : ∀ j d, j ≠ i → w.clients[j]? = some d → ClientSound updates w.entry w.log j d)
    (hc : ClientSound updates w.entry w.log i c) : Sound updates init (w.setClient i c) := by
  refine ⟨hv, hr, ?_⟩
  intro j d hd
  simp only [setClient, List.getElem?_set] at hd
  by_cases hj : i = j
  · subst hj
    rw [if_pos rfl] at hd
    split at hd
    · simp only [Option.some.injEq] at hd
      subst hd
      exact hc
    · cases hd
  · rw [if_neg hj] at hd
    exact hothers j d (Ne.symm hj) hd

/-- A write by another writer keeps `Sound`: accepted, its update is the constant of its value. -/
theorem Sound.putOther {init : Option Entry} {w : World} (hs : Sound updates init w) (v : Value)
    (n : Nat) : Sound updates init (w.put .other v n) := by
  have hclients : ∀ i c, (w.put .other v n).clients[i]? = some c →
      ClientSound updates (w.put .other v n).entry (w.put .other v n).log i c := by
    intro i c hc
    rw [put_clients] at hc
    exact (hs.clients i c hc).put .other v n
  by_cases h : n = versionOf w.entry
  · obtain ⟨he, hl⟩ := put_accepted w .other v h
    refine ⟨?_, ?_, hclients⟩
    · rw [he, hl, versionOf_some, List.length_append, h, hs.version]
      rfl
    · rw [he, hl, replay_append, hs.replay]
      rfl
  · rw [put_refused w .other v h]
    exact hs

theorem sound_start (init : Option Entry) (rounds : List Nat) :
    Sound updates init (start init rounds) := by
  refine ⟨rfl, rfl, ?_⟩
  intro i c hc
  simp only [start, List.getElem?_map, Option.map_eq_some_iff] at hc
  obtain ⟨n, -, rfl⟩ := hc
  exact clientSound_start _ _ i n 1 []

theorem Sound.step {init : Option Entry} {w : World} (hs : Sound updates init w) (ev : Event) :
    Sound updates init (w.step updates key ev) := by
  cases ev with
  | other v n => exact hs.putOther v n
  | client i =>
    cases hc : w.clients[i]? with
    | none => rw [step_absent hc]; exact hs
    | some c =>
      have hothers : ∀ j d, j ≠ i → w.clients[j]? = some d →
          ClientSound updates w.entry w.log j d :=
        fun j d _ hd => hs.clients j d hd
      cases hp : c.phase with
      | reading left round =>
        rw [step_reading hc hp]
        exact sound_setClient hs.version hs.replay hothers (clientSound_read _ _ i left round _)
      | writing left round seen next version =>
        rw [step_writing hc hp]
        obtain ⟨-, hseen, hu, hl⟩ := (hs.clients i c hc).1 left round seen next version hp
        by_cases hacc : version = versionOf w.entry
        · -- the version the client read is still the entry's, so it read the current value
          have hval := hseen hacc
          obtain ⟨he, hlog⟩ := put_accepted w (.client i round) next hacc
          refine sound_setClient ?_ ?_ ?_ (clientSound_accepted hacc hval hu hl)
          · rw [he, hlog, versionOf_some, List.length_append, hacc, hs.version]
            rfl
          · rw [he, hlog, replay_append, hs.replay, hval]
            simp [Accepted.update, hu, Except.bind, Except.map]
          · intro j d _ hd
            rw [put_clients] at hd
            exact (hs.clients j d hd).put _ next version
        · rw [put_refused w _ next hacc]
          refine sound_setClient hs.version hs.replay hothers ?_
          rw [afterWrite_refused left round next hacc]
          exact clientSound_start _ _ i left (round + 1) c.calls
      | finished r => rw [step_finished hc hp]; exact hs

theorem sound_run {init : Option Entry} (evs : List Event) :
    ∀ {w : World}, Sound updates init w → Sound updates init (w.run updates key evs) := by
  induction evs with
  | nil => intro w hs; exact hs
  | cons ev rest ih => intro w hs; exact ih (hs.step ev)

end World

theorem set_race_serializable (updates : Nat → Nat → Option Value → Except Fault Value)
    (key : String) (init : Option Entry) (rounds : List Nat) (evs : List Event) :
    let w := (World.start init rounds).run updates key evs
    (∀ i c v, w.clients[i]? = some c → c.phase = .finished (.ok v) →
      ∃ round before, ⟨.client i round, before, v⟩ ∈ w.log ∧ c.calls.getLast? = some before ∧
        updates i round before = .ok v) ∧
    replay updates w.log (valueOf init) = .ok (valueOf w.entry) ∧
    versionOf w.entry = versionOf init + w.log.length ∧
    (∀ (u : World) i c left round seen next version, u.clients[i]? = some c →
      c.phase = .writing left round seen next version → version ≠ versionOf u.entry →
        (u.step updates key (.client i)).entry = u.entry ∧
          (u.step updates key (.client i)).log = u.log) := by
  intro w
  have hs : World.Sound updates init w := World.sound_run evs (World.sound_start init rounds)
  refine ⟨fun i c v hc hp => (hs.clients i c hc).2 v hp, hs.replay, hs.version, ?_⟩
  intro u i c left round seen next version hc hp hne
  rw [World.step_writing hc hp, World.put_refused u _ next hne]
  exact ⟨rfl, rfl⟩

end FunctionHost.State

import FunctionHost.Proofs.OptimisticSet
/-!
# The rounds of a read-modify-write, against any store

`Scoped.set` sends its requests to a store that answers each one with a response or with the
error its transport ended in. Here the store is any `Responder`: a function from the request and
a state the answers move on to the answer and the next state. The scoped client's own network is
one (`Scoped.responder`, the clock moving on); a scripted store that answers in turn from a list,
whatever the request, is another. `SetPhase.against` runs the phases of `Scoped.set` against a
responder and records what happened: each read with its answer, each update call with what it was
given and what it returned, each write with its value, version and answer.

`SetCourse` states the documented course of the rounds without the loop. A round is one read.
Only when that read found the entry (`200` with a body that decodes as an entry) or found the key
missing (`404`) is the update called, once, on the entry's value or on nothing; only when the
update gave a value is it written, once, at the version the read found (0 for a missing key).
A write answered `200` ends the operation with the value written; `409` starts the next round;
any other answer, the read's failure or the update's failure ends it with that error. When every
allowed round lost its race the operation fails as transient.

Results:
* `current_readReply_found`, `readReply_unfound`: what a read's answer leaves the round with.
* `set_eq_against`: `Scoped.set` is the run of its phases against its own network.
* `against_course`: every run against every responder follows `SetCourse`.
* `SetCourse.reads_le`, `SetCourse.notFound_update`: at most one read per allowed round, and a
  not-found result only ever comes from the update.
* `set_rounds_follow_answers`: all of it, for every scoped client.
-/
namespace FunctionHost.State

open Json Transport

/-- A request of a read-modify-write: the read of its key, or the write of a value at a
version. -/
inductive Ask where
  | read
  | write (value : Value) (version : Nat)

/-- A store answering requests one after another, each with a response or with the error its
transport ended in; `σ` is what moves on from one answer to the next. -/
abbrev Responder (σ : Type) := Ask → σ → Except HttpError Response × σ

/-- One thing a read-modify-write did, with what came back. -/
inductive SetAct where
  /-- A read, answered `answer`. -/
  | read (answer : Except HttpError Response)
  /-- A call of the update on `seen`, which returned `result`. -/
  | update (seen : Option Value) (result : Except Fault Value)
  /-- A write of `value` at `version`, answered `answer`. -/
  | write (value : Value) (version : Nat) (answer : Except HttpError Response)

namespace SetAct

def isRead : SetAct → Bool
  | .read _ => true
  | _ => false

def seen? : SetAct → Option (Option Value)
  | .update seen _ => some seen
  | _ => none

end SetAct

/-- A run of a read-modify-write: its result, what it did in order, and where the store's
answers had moved on to. -/
structure SetRun (σ : Type) where
  result : Except Fault Value
  acts : List SetAct
  rest : σ

namespace Scoped

def draftOf (s : Scoped) (key : String) : Ask → Draft
  | .read => s.readDraft key
  | .write value version => s.writeDraft key value version

/-- The store the scoped client reaches through its own network and retrying client. -/
def responder (s : Scoped) (key : String) : Responder Moment :=
  fun a t => s.transport (s.draftOf key a) t

theorem get_eq_responder (s : Scoped) (key : String) (t : Moment) :
    s.get key t = (readReply key ((s.responder key .read t).1.mapError transportFault),
      (s.responder key .read t).2) := by
  simp only [get, exchange, responder, draftOf]

theorem setKv_eq_responder (s : Scoped) (key : String) (value : Value) (version : Nat)
    (t : Moment) :
    s.setKv key value version t =
      (writeReply ((s.responder key (.write value version) t).1.mapError transportFault),
        (s.responder key (.write value version) t).2) := by
  simp only [setKv, exchange, responder, draftOf]

end Scoped

namespace SetPhase

variable {σ : Type}

/-- The update call a read leads to: one on what it found, none when it failed. -/
def updateActs (update : Nat → Option Value → Except Fault Value) (round : Nat)
    (g : Except Fault Entry) : List SetAct :=
  (seen g).map fun cur => .update cur (update round cur)

/-- The phases of a read-modify-write run against a store, after the acts `acts`. -/
def against (store : Responder σ) (key : String)
    (update : Nat → Option Value → Except Fault Value) : SetPhase → σ → List SetAct → SetRun σ
  | .finished r, st, acts => ⟨r, acts, st⟩
  | .reading left round, st, acts =>
    let (r, st1) := store .read st
    let g := Scoped.readReply key (r.mapError transportFault)
    against store key update (afterRead update left round g) st1
      (acts ++ SetAct.read r :: updateActs update round g)
  | .writing left round _ next version, st, acts =>
    let (w, st1) := store (.write next version) st
    against store key update
      (afterWrite left round next (Scoped.writeReply (w.mapError transportFault))) st1
      (acts ++ [.write next version w])
termination_by p => p.pending
decreasing_by
  · exact pending_afterRead update left round _
  · exact pending_afterWrite left round next _

variable (store : Responder σ) (key : String) (update : Nat → Option Value → Except Fault Value)

theorem against_finished (r : Except Fault Value) (st : σ) (acts : List SetAct) :
    (SetPhase.finished r).against store key update st acts = ⟨r, acts, st⟩ := by
  rw [against]

theorem against_reading (left round : Nat) (st : σ) (acts : List SetAct) :
    (SetPhase.reading left round).against store key update st acts =
      let g := Scoped.readReply key ((store .read st).1.mapError transportFault)
      (afterRead update left round g).against store key update (store .read st).2
        (acts ++ SetAct.read (store .read st).1 :: updateActs update round g) := by
  rw [against]

theorem against_writing (left round : Nat) (seen : Option Value) (next : Value) (version : Nat)
    (st : σ) (acts : List SetAct) :
    (SetPhase.writing left round seen next version).against store key update st acts =
      (afterWrite left round next
        (Scoped.writeReply ((store (.write next version) st).1.mapError transportFault))).against
        store key update (store (.write next version) st).2
        (acts ++ [.write next version (store (.write next version) st).1]) := by
  rw [against]

theorem against_append (p : SetPhase) (st : σ) (pre acts : List SetAct) :
    p.against store key update st (pre ++ acts) =
      { p.against store key update st acts with
        acts := pre ++ (p.against store key update st acts).acts } := by
  fun_induction p.against store key update st acts with
  | case1 r st acts => simp [against_finished]
  | case2 left round st acts r st1 hread g ih =>
    rw [against_reading]
    simp only [hread, List.append_assoc]
    exact ih
  | case3 left round seen next version st acts w st1 hwrite ih =>
    rw [against_writing]
    simp only [hwrite, List.append_assoc]
    exact ih

theorem filterMap_updateActs (round : Nat) (g : Except Fault Entry) :
    (updateActs update round g).filterMap SetAct.seen? = seen g := by
  simp [updateActs, List.filterMap_map, Function.comp_def, SetAct.seen?]

end SetPhase

namespace Scoped

/-- Answered by the scoped client's own requests, the phases of a read-modify-write are their run
against its network: the same result and end, and the update sees what the run's update calls
were given. -/
theorem drive_eq_against (s : Scoped) (key : String)
    (update : Nat → Option Value → Except Fault Value) (p : SetPhase) (t : Moment)
    (calls : List (Option Value)) :
    ∀ acts : List SetAct, calls = acts.filterMap SetAct.seen? →
      s.drive key update p t calls =
        ⟨(p.against (s.responder key) key update t acts).result,
          (p.against (s.responder key) key update t acts).acts.filterMap SetAct.seen?,
          (p.against (s.responder key) key update t acts).rest⟩ := by
  fun_induction s.drive key update p t calls with
  | case1 r t calls =>
    intro acts hc
    simp [SetPhase.against_finished, hc]
  | case2 left round t calls g t1 hget ih =>
    intro acts hc
    -- the scoped client's read is its network's answer, read as `get` reads it
    rw [get_eq_responder] at hget
    obtain ⟨hg, ht1⟩ := Prod.mk.inj hget
    rw [SetPhase.against_reading]
    simp only
    rw [hg, ht1]
    refine ih _ ?_
    rw [hc, List.filterMap_append, List.filterMap_cons, SetPhase.filterMap_updateActs]
    rfl
  | case3 left round seen next version t calls w t1 hset ih =>
    intro acts hc
    rw [setKv_eq_responder] at hset
    obtain ⟨hw, ht1⟩ := Prod.mk.inj hset
    rw [SetPhase.against_writing, hw, ht1]
    refine ih _ ?_
    simp [hc, SetAct.seen?]

/-- `Scoped.set` is the run of its rounds against the scoped client's own network. -/
theorem set_eq_against (s : Scoped) (key : String)
    (update : Nat → Option Value → Except Fault Value) (t : Moment) :
    s.set key update t =
      let run := (SetPhase.start s.store.maxSetAttempts 1).against (s.responder key) key update t []
      ⟨run.result, run.acts.filterMap SetAct.seen?, run.rest⟩ := by
  rw [set, setFrom_eq_drive]
  exact drive_eq_against s key update _ t [] [] rfl

end Scoped

/-! ## What the answers mean -/

/-- What a read's answer gives its round to work from: the entry's value and version on a `200`
whose body is read whole and decodes as an entry, no value at version 0 on a `404`, nothing on
any other answer. -/
def readFound : Except HttpError Response → Option (Option Value × Nat)
  | .ok resp =>
    if resp.status = 200 then
      match resp.bodyFailure, decodeBytes entryShape resp.body with
      | none, .ok v => some (some (entryOf v).value, (entryOf v).version)
      | _, _ => none
    else if resp.status = 404 then some (none, 0)
    else none
  | .error _ => none

/-- A request that got no response fails finally or transiently, never otherwise. -/
theorem transportFault_kind (e : HttpError) :
    (transportFault e).kind = .failed ∨ (transportFault e).kind = .transient := by
  unfold transportFault
  split
  · split
    · exact .inl rfl
    · exact .inr rfl
  · exact .inr rfl

/-- An answer that found the entry or the key missing leaves the round that value and version. -/
theorem current_readReply_found (key : String) {r : Except HttpError Response}
    {found : Option Value × Nat} (h : readFound r = some found) :
    Scoped.current (Scoped.readReply key (r.mapError transportFault)) = .ok found := by
  cases r with
  | error e => simp [readFound] at h
  | ok resp =>
    simp only [readFound] at h
    split at h
    · rename_i h200
      split at h
      · rename_i v hb hv
        cases h
        simp [mapError_ok, Scoped.readReply, h200, hb, hv, Scoped.current]
      · cases h
    · rename_i h200
      split at h
      · rename_i h404
        cases h
        simp [mapError_ok, Scoped.readReply, h404, Scoped.current, Fault.notFound, Fault.new]
      · cases h

/-- Any other answer is a failure of the read that does not say the key is missing. -/
theorem readReply_unfound (key : String) {r : Except HttpError Response} (h : readFound r = none) :
    ∃ f, Scoped.readReply key (r.mapError transportFault) = .error f ∧ f.kind ≠ .notFound := by
  cases r with
  | error e =>
    refine ⟨transportFault e, rfl, ?_⟩
    rcases transportFault_kind e with hk | hk <;> rw [hk] <;> decide
  | ok resp =>
    simp only [readFound] at h
    by_cases h200 : resp.status = 200
    · rw [if_pos h200] at h
      split at h
      · cases h
      · rename_i hnot
        cases hb : resp.bodyFailure with
        | some e =>
          -- the body could not be read: a transient failure
          exact ⟨Fault.transient ("reading state store response: " ++ e.text),
            by simp [mapError_ok, Scoped.readReply, h200, hb], by simp [Fault.transient, Fault.new]⟩
        | none =>
          cases hd : decodeBytes entryShape resp.body with
          | ok v => exact absurd (hnot v hb hd) id
          | error e =>
            exact ⟨Fault.failed e.message, by simp [mapError_ok, Scoped.readReply, h200, hb, hd],
              by simp [Fault.failed, Fault.new]⟩
    · rw [if_neg h200] at h
      by_cases h404 : resp.status = 404
      · simp [h404] at h
      · exact ⟨Fault.failed ("get kv state failed (" ++ statusText resp.status ++ "): " ++
          resp.text), by simp [mapError_ok, Scoped.readReply, h200, h404],
          by simp [Fault.failed, Fault.new]⟩

theorem current_readReply_unfound {key : String} {r : Except HttpError Response} {f : Fault}
    (hf : Scoped.readReply key (r.mapError transportFault) = .error f) (hk : f.kind ≠ .notFound) :
    Scoped.current (Scoped.readReply key (r.mapError transportFault)) = .error f := by
  simp [hf, Scoped.current, hk]

theorem writeReply_ok {resp : Response} (h : resp.status = 200) :
    Scoped.writeReply ((Except.ok resp : Except HttpError Response).mapError transportFault) =
      .ok () := by
  simp [mapError_ok, Scoped.writeReply, h]

theorem writeReply_conflict {resp : Response} (h : resp.status = 409) :
    Scoped.writeReply ((Except.ok resp : Except HttpError Response).mapError transportFault) =
      .error (Fault.conflict "version conflict on set") := by
  simp [mapError_ok, Scoped.writeReply, h]

theorem writeAnswer_cases (w : Except HttpError Response) :
    (∃ resp, w = .ok resp ∧ resp.status = 200) ∨ (∃ resp, w = .ok resp ∧ resp.status = 409) ∨
      ∀ resp, w = .ok resp → resp.status ≠ 200 ∧ resp.status ≠ 409 := by
  cases w with
  | error e => exact .inr (.inr fun resp hw => by cases hw)
  | ok resp =>
    by_cases h200 : resp.status = 200
    · exact .inl ⟨resp, rfl, h200⟩
    · by_cases h409 : resp.status = 409
      · exact .inr (.inl ⟨resp, rfl, h409⟩)
      · exact .inr (.inr fun r hr => by cases hr; exact ⟨h200, h409⟩)

/-- A write answered otherwise than `200` or `409` fails, neither as a lost race nor as a missing
key. -/
theorem writeReply_other {w : Except HttpError Response}
    (h : ∀ resp, w = .ok resp → resp.status ≠ 200 ∧ resp.status ≠ 409) :
    ∃ f, Scoped.writeReply (w.mapError transportFault) = .error f ∧ f.kind ≠ .conflict ∧
      f.kind ≠ .notFound := by
  cases w with
  | error e =>
    refine ⟨transportFault e, rfl, ?_⟩
    rcases transportFault_kind e with hk | hk <;> rw [hk] <;> decide
  | ok resp =>
    obtain ⟨h200, h409⟩ := h resp rfl
    exact ⟨Fault.failed ("set failed: " ++ resp.text),
      by simp [mapError_ok, Scoped.writeReply, h200, h409], by simp [Fault.failed, Fault.new],
      by simp [Fault.failed, Fault.new]⟩

/-! ## The documented course -/

/-- The documented course of a read-modify-write with `left` rounds still allowed, the next one
numbered `round`: what it does, in order, and what it returns. -/
inductive SetCourse (key : String) (update : Nat → Option Value → Except Fault Value) :
    Nat → Nat → List SetAct → Except Fault Value → Prop
  /-- No round is left: every allowed round lost its race. -/
  | exhausted (round : Nat) :
      SetCourse key update 0 round []
        (.error (Fault.transient "set failed after max retries due to version conflicts"))
  /-- The read found neither the entry nor the key missing: its error, as `get` reports it, is
  the result. -/
  | readFailed {left round : Nat} {r : Except HttpError Response} {f : Fault} :
      readFound r = none → Scoped.readReply key (r.mapError transportFault) = .error f →
      SetCourse key update (left + 1) round [.read r] (.error f)
  /-- The update failed on what the read found: its error is the result, and nothing is
  written. -/
  | updateFailed {left round : Nat} {r : Except HttpError Response} {seen : Option Value}
      {version : Nat} {f : Fault} :
      readFound r = some (seen, version) → update round seen = .error f →
      SetCourse key update (left + 1) round [.read r, .update seen (.error f)] (.error f)
  /-- The update's value, written at the version read, was answered `200`: it is the result. -/
  | written {left round : Nat} {r : Except HttpError Response} {seen : Option Value}
      {version : Nat} {next : Value} {resp : Response} :
      readFound r = some (seen, version) → update round seen = .ok next → resp.status = 200 →
      SetCourse key update (left + 1) round
        [.read r, .update seen (.ok next), .write next version (.ok resp)] (.ok next)
  /-- The write got neither `200` nor `409`: its error, as `setKv` reports it, is the result. -/
  | writeFailed {left round : Nat} {r : Except HttpError Response} {seen : Option Value}
      {version : Nat} {next : Value} {w : Except HttpError Response} {f : Fault} :
      readFound r = some (seen, version) → update round seen = .ok next →
      (∀ resp, w = .ok resp → resp.status ≠ 200 ∧ resp.status ≠ 409) →
      Scoped.writeReply (w.mapError transportFault) = .error f →
      SetCourse key update (left + 1) round
        [.read r, .update seen (.ok next), .write next version w] (.error f)
  /-- The write lost its race (`409`): the next round follows. -/
  | conflicted {left round : Nat} {r : Except HttpError Response} {seen : Option Value}
      {version : Nat} {next : Value} {resp : Response} {acts : List SetAct}
      {result : Except Fault Value} :
      readFound r = some (seen, version) → update round seen = .ok next → resp.status = 409 →
      SetCourse key update left (round + 1) acts result →
      SetCourse key update (left + 1) round
        ([.read r, .update seen (.ok next), .write next version (.ok resp)] ++ acts) result

namespace SetPhase

variable {σ : Type} (store : Responder σ) (key : String)
  (update : Nat → Option Value → Except Fault Value)

/-- A run after some acts is the run from nothing, those acts put in front. -/
theorem against_after (p : SetPhase) (st : σ) (acts : List SetAct) :
    p.against store key update st acts =
      { p.against store key update st [] with
        acts := acts ++ (p.against store key update st []).acts } := by
  simpa using against_append store key update p st acts []

/-- Every run of the rounds against every store follows the documented course. -/
theorem against_course :
    ∀ (rounds round : Nat) (st : σ),
      SetCourse key update rounds round ((start rounds round).against store key update st []).acts
        ((start rounds round).against store key update st []).result
  | 0, round, st => by
    simp only [start, against_finished]
    exact .exhausted round
  | left + 1, round, st => by
    simp only [start]
    rw [against_reading]
    simp only
    -- what the read found decides whether the update is called
    cases hfound : readFound (store .read st).1 with
    | none =>
      obtain ⟨f, hf, hk⟩ := readReply_unfound key hfound
      simp only [afterRead, updateActs, seen, current_readReply_unfound hf hk, List.map_nil,
        against_finished, List.nil_append]
      exact .readFailed hfound hf
    | some found =>
      obtain ⟨seen, version⟩ := found
      have hcur := current_readReply_found key hfound
      cases hu : update round seen with
      | error f =>
        simp only [afterRead, updateActs, SetPhase.seen, hcur, hu, List.map_cons, List.map_nil,
          against_finished, List.nil_append]
        exact .updateFailed hfound hu
      | ok next =>
        simp only [afterRead, updateActs, SetPhase.seen, hcur, hu, List.map_cons, List.map_nil,
          List.nil_append]
        rw [against_writing]
        -- what the write was answered decides between the result and another round
        generalize (store (.write next version) (store .read st).2) = answer
        obtain ⟨w, st2⟩ := answer
        simp only
        rcases writeAnswer_cases w with ⟨resp, rfl, h200⟩ | ⟨resp, rfl, h409⟩ | hother
        · rw [writeReply_ok h200, afterWrite, against_finished]
          exact .written hfound hu h200
        · rw [writeReply_conflict h409]
          simp only [afterWrite, Fault.conflict, Fault.new, if_true]
          rw [against_after]
          exact .conflicted hfound hu h409 (against_course left (round + 1) st2)
        · obtain ⟨f, hf, hconf, -⟩ := writeReply_other hother
          rw [hf]
          simp only [afterWrite, hconf, if_false, against_finished]
          exact .writeFailed hfound hu hother hf

end SetPhase

namespace SetCourse

variable {key : String} {update : Nat → Option Value → Except Fault Value}

theorem reads_le {left round : Nat} {acts : List SetAct} {result : Except Fault Value}
    (h : SetCourse key update left round acts result) :
    (acts.filter SetAct.isRead).length ≤ left := by
  induction h with
  | exhausted => simp
  | readFailed | updateFailed | written | writeFailed =>
    simp only [List.filter_cons, SetAct.isRead, List.filter_nil]
    simp
  | conflicted _ _ _ _ ih =>
    simp only [List.cons_append, List.filter_cons, SetAct.isRead, List.nil_append]
    simp only [Bool.false_eq_true, if_false, if_true, List.length_cons]
    omega

/-- A result saying the key is missing comes from the update only: a read that finds the key
missing goes on without a value, and neither a failed read nor a write reports a missing key. -/
theorem notFound_update {left round : Nat} {acts : List SetAct} {result : Except Fault Value}
    (h : SetCourse key update left round acts result) :
    ∀ f, result = .error f → f.kind = .notFound → ∃ seen, SetAct.update seen (.error f) ∈ acts := by
  induction h with
  | exhausted =>
    intro f hf hk
    cases hf
    simp [Fault.transient, Fault.new] at hk
  | readFailed hfound hf =>
    intro f' hf' hk
    cases hf'
    obtain ⟨g, hg, hgk⟩ := readReply_unfound key hfound
    rw [hf] at hg
    cases hg
    exact absurd hk hgk
  | @updateFailed left round r seen version f _ _ =>
    intro f' hf' _
    cases hf'
    exact ⟨seen, by simp⟩
  | written => intro f hf; cases hf
  | writeFailed _ _ hother hf =>
    intro f' hf' hk
    cases hf'
    obtain ⟨g, hg, -, hgk⟩ := writeReply_other hother
    rw [hf] at hg
    cases hg
    exact absurd hk hgk
  | conflicted _ _ _ _ ih =>
    intro f hf hk
    obtain ⟨seen, hmem⟩ := ih f hf hk
    exact ⟨seen, List.mem_append_right _ hmem⟩

end SetCourse

/-- For every scoped client, key and update: against every store, answering in any way at all
(a scripted store among them), the rounds of a read-modify-write follow the documented course,
read at most once per allowed round, and report a missing key only as the update's own error;
and `Scoped.set` is that run against the client's own network, its update seeing what the run's
update calls were given. -/
theorem set_rounds_follow_answers (s : Scoped) (key : String)
    (update : Nat → Option Value → Except Fault Value) :
    (∀ {σ : Type} (store : Responder σ) (st : σ),
      let run := (SetPhase.start s.store.maxSetAttempts 1).against store key update st []
      SetCourse key update s.store.maxSetAttempts 1 run.acts run.result ∧
        (run.acts.filter SetAct.isRead).length ≤ s.store.maxSetAttempts ∧
        ∀ f, run.result = .error f → f.kind = .notFound →
          ∃ seen, SetAct.update seen (.error f) ∈ run.acts) ∧
    ∀ t, s.set key update t =
      let run := (SetPhase.start s.store.maxSetAttempts 1).against (s.responder key) key update t []
      ⟨run.result, run.acts.filterMap SetAct.seen?, run.rest⟩ := by
  refine ⟨fun store st => ?_, Scoped.set_eq_against s key update⟩
  have h := SetPhase.against_course store key update s.store.maxSetAttempts 1 st
  exact ⟨h, h.reads_le, h.notFound_update⟩

end FunctionHost.State

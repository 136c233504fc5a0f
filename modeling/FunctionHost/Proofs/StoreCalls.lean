import FunctionHost.State.Store
/-!
# What the store's answers become

Each single operation on a key (`get`, `setKv`, `delete`) drafts one request, stamps it with the
binding's headers and sends it once through the client's retry loop, which repeats that same
request on the failures its policy retries; the operation's outcome is read from that one answer
alone (`OneRequest`). A read asks with `GET`, the scope and the key in the query; a write or a
removal sends the scope and the key in a JSON body.

An answer that never came is a final failure when the last attempt failed for a permanent
reason, and transient otherwise, cancellation included. A response maps by status:

* a read: `200` whose body is read whole and decodes as an entry gives the entry, one whose body
  does not decode fails finally, one whose body cannot be read fails transiently; `404` says the
  key is not there; any other status fails finally with the status and the body;
* a write: `200` succeeds, `409` is a lost race, any other status fails finally with the body;
* a removal: `200` succeeds, any other status fails finally with the body.

Results:
* `foldl_headerText_ok`: headers set one by one on a built request, all of them or a failure.
* `stamp_ok`: a built draft goes out with the binding's four headers and the content type after
  its own, when the binding's values can stand in headers, and fails to build otherwise.
* `oneRequest_of_draft`: an operation that reads one stamped exchange sends one request, retried
  only by the client's policy.
* `appendPairs_query_cons`, `readDraft_request`, `writeDraft_request`, `deleteDraft_request`:
  where each request puts the scope and the key.
* `transportFault_eq`: an answer that never came, by its failure class.
* `readReply_eq_ok`, `readReply_eq_error`, `writeReply_eq`, `deleteReply_eq`: the outcome of
  each operation, by the answer.
* `store_calls_outcomes`: all of it, for every scoped client, key and answer.
-/
namespace FunctionHost.State

open Json Transport
open FunctionHost.Url (formEncode)

/-! ## Headers -/

/-- The binding's headers as the store's requests set them, by name and text. -/
def stampHeaders (b : Binding) : List (String × String) :=
  [("X-Eaas-State-Token", b.token), ("X-Organization-ID", b.organizationId),
    ("X-Project-ID", b.projectId), ("X-Environment-ID", b.environmentId),
    ("content-type", "application/json")]

/-- The headers every request to the store carries, as a built request holds them: the store
token and the three identifiers of the binding, then the content type. -/
def bindingHeaders (b : Binding) : List (String × List UInt8) :=
  [("x-eaas-state-token", b.token.toUTF8.toList),
    ("x-organization-id", b.organizationId.toUTF8.toList),
    ("x-project-id", b.projectId.toUTF8.toList),
    ("x-environment-id", b.environmentId.toUTF8.toList),
    ("content-type", "application/json".toUTF8.toList)]

/-- Whether every header value of the binding is made of bytes a header value may hold. -/
def Binding.sendable (b : Binding) : Bool :=
  (stampHeaders b).all fun h => h.2.toUTF8.toList.all isValueByte

theorem header_ok (r : Request) {name n : String} (hn : headerName name = some n)
    {value : List UInt8} (hv : value.all isValueByte = true) :
    Draft.header (.ok r) name value = .ok { r with headers := r.headers ++ [(n, value)] } := by
  simp [Draft.header, hn, hv, bind, Except.bind, pure, Except.pure]

theorem header_bad (r : Request) {name n : String} (hn : headerName name = some n)
    {value : List UInt8} (hv : value.all isValueByte = false) :
    Draft.header (.ok r) name value = .error (.invalid "failed to parse header value") := by
  simp [Draft.header, hn, hv, bind, Except.bind, throw, throwThe, MonadExceptOf.throw]

theorem foldl_headerText_error (hs : List (String × String)) (e : TransportError) :
    hs.foldl (fun (d : Draft) h => d.headerText h.1 h.2) (.error e) = .error e := by
  induction hs with
  | nil => rfl
  | cons h rest ih => exact ih

/-- Headers set one by one on a built request, every name a header name: the request holds
them all after its own when every value can stand in a header, and otherwise is not built. -/
theorem foldl_headerText_ok (hs : List (String × String))
    (hn : ∀ h ∈ hs, (headerName h.1).isSome = true) (r : Request) :
    hs.foldl (fun (d : Draft) h => d.headerText h.1 h.2) (.ok r) =
      if hs.all (fun h => h.2.toUTF8.toList.all isValueByte) then
        .ok { r with headers := r.headers ++
          (hs.map fun h => ((headerName h.1).getD "", h.2.toUTF8.toList)) }
      else .error (.invalid "failed to parse header value") := by
  induction hs generalizing r with
  | nil => simp
  | cons h rest ih =>
    obtain ⟨n, hname⟩ := Option.isSome_iff_exists.1 (hn h List.mem_cons_self)
    have hrest : ∀ h ∈ rest, (headerName h.1).isSome = true :=
      fun h' hh' => hn h' (List.mem_cons_of_mem h hh')
    rw [List.foldl_cons, Draft.headerText]
    -- the first value decides whether the rest is set on a built request at all
    cases hv : h.2.toUTF8.toList.all isValueByte with
    | false =>
      rw [header_bad r hname hv, foldl_headerText_error, List.all_cons, hv]
      rfl
    | true =>
      rw [header_ok r hname hv, ih hrest]
      simp only [List.all_cons, hv, Bool.true_and, List.map_cons, hname, Option.getD_some,
        List.append_assoc, List.singleton_append]

theorem headerName_binding :
    headerName "X-Eaas-State-Token" = some "x-eaas-state-token" ∧
      headerName "X-Organization-ID" = some "x-organization-id" ∧
      headerName "X-Project-ID" = some "x-project-id" ∧
      headerName "X-Environment-ID" = some "x-environment-id" := by
  decide +kernel

/-- The content type of a document is a header that can always be sent. -/
theorem json_content_type :
    headerName "content-type" = some "content-type" ∧
      "application/json".toUTF8.toList.all isValueByte = true := by
  decide +kernel

theorem stampHeaders_named (b : Binding) :
    ∀ h ∈ stampHeaders b, (headerName h.1).isSome = true := by
  obtain ⟨nt, no, np, ne⟩ := headerName_binding
  simp [stampHeaders, nt, no, np, ne, json_content_type.1]

theorem stampHeaders_built (b : Binding) :
    (stampHeaders b).map (fun h => ((headerName h.1).getD "", h.2.toUTF8.toList)) =
      bindingHeaders b := by
  obtain ⟨nt, no, np, ne⟩ := headerName_binding
  simp [stampHeaders, bindingHeaders, nt, no, np, ne, json_content_type.1]

namespace Scoped

theorem stamp_eq_foldl (s : Scoped) (d : Draft) :
    s.stamp d = (stampHeaders s.store.binding).foldl (fun d h => d.headerText h.1 h.2) d := rfl

/-- A built draft goes out with the binding's headers after its own when the binding's values can
stand in headers, and is not built otherwise. -/
theorem stamp_ok (s : Scoped) (r : Request) :
    s.stamp (.ok r) =
      if s.store.binding.sendable then
        .ok { r with headers := r.headers ++ bindingHeaders s.store.binding }
      else .error (.invalid "failed to parse header value") := by
  rw [stamp_eq_foldl, foldl_headerText_ok _ (stampHeaders_named _), stampHeaders_built]
  rfl

end Scoped

/-! ## One request per operation -/

/-- A request whose body can be sent again goes through the client's retry loop, every attempt
executing that same request. -/
theorem send_replays (client : Transport.Client) (net : Network) (r : Request) (cancelAt : Option Nat)
    (t : Moment) (h : r.body.isStream = false) :
    send client net (.ok r) cancelAt t =
      executeWith client.retry cancelAt (fun _ => execute net r) t := by
  simp [send, h]

/-- What one operation of a scoped client does with the store: it reads its outcome from the one
answer to its draft, which goes out stamped with the binding's headers and is retried only by the
client's policy, or fails after one attempt when it cannot be built. -/
structure OneRequest {α : Type} (s : Scoped) (op : Moment → Except Fault α × Moment) (d : Draft)
    (reply : Except Fault Response → Except Fault α) : Prop where
  /-- The outcome is read from the one answer, at the moment the exchange ended. -/
  answer : ∀ t, op t = (reply ((s.transport d t).1.mapError transportFault), (s.transport d t).2)
  /-- Every attempt executes the built request with the binding's headers after its own. -/
  retried : ∀ r t, d = .ok r → s.store.binding.sendable = true →
    s.transport d t = executeWith s.store.client.retry s.store.cancelAt
      (fun _ => execute s.store.net
        { r with headers := r.headers ++ bindingHeaders s.store.binding }) t
  /-- A request that cannot be built, its headers included, fails after one attempt. -/
  unbuilt : ∀ e t, s.stamp d = .error e → s.transport d t = (.error (.ofAttempt 1 e), t)
  /-- An answer that never came is the operation's failure as it is. -/
  unanswered : ∀ e, reply (.error (transportFault e)) = .error (transportFault e)

namespace Scoped

theorem transport_unbuilt (s : Scoped) {d : Draft} {e : TransportError} (t : Moment)
    (h : s.stamp d = .error e) : s.transport d t = (.error (.ofAttempt 1 e), t) := by
  simp [transport, send, h]

/-- An operation that reads one exchange of a draft whose requests have bodies that can be sent
again sends one request. -/
theorem oneRequest_of_draft {α : Type} (s : Scoped) {op : Moment → Except Fault α × Moment}
    {d : Draft} {reply : Except Fault Response → Except Fault α}
    (hop : ∀ t, op t =
      (reply ((s.transport d t).1.mapError transportFault), (s.transport d t).2))
    (hbody : ∀ r, d = .ok r → r.body.isStream = false)
    (hreply : ∀ e, reply (.error (transportFault e)) = .error (transportFault e)) :
    OneRequest s op d reply where
  answer := hop
  retried r t hd hs := by
    subst hd
    rw [transport, stamp_ok, if_pos hs]
    exact send_replays _ _ _ _ _ (hbody r rfl)
  unbuilt e t h := s.transport_unbuilt t h
  unanswered := hreply

end Scoped

/-! ## Where the scope goes -/

def formPair (p : String × String) : String := formEncode p.1 ++ "=" ++ formEncode p.2

/-- Once the query holds something, each further pair goes after an `&`. -/
theorem foldl_formPairs (pairs : List (String × String)) (acc : String) (h : acc ≠ "") :
    pairs.foldl (fun acc (k, v) =>
        (if acc.isEmpty then acc else acc ++ "&") ++ formEncode k ++ "=" ++ formEncode v) acc =
      acc ++ String.join (pairs.map fun p => "&" ++ formPair p) := by
  induction pairs generalizing acc with
  | nil => simp
  | cons p rest ih =>
    have hacc : acc.isEmpty = false := by simpa [String.isEmpty_iff] using h
    rw [List.foldl_cons, hacc, if_neg Bool.false_ne_true]
    rw [ih _ (by simp [String.append_assoc])]
    simp [formPair, String.append_assoc]

/-- Pairs appended to a URL's query come after what it held, the first after an `&` when it held
something, the others each after an `&`. -/
theorem appendPairs_query_cons (u : Url) (p : String × String) (rest : List (String × String)) :
    (u.appendPairs (p :: rest)).query =
      some ((if (u.query.getD "").isEmpty then "" else u.query.getD "" ++ "&") ++ formPair p ++
        String.join (rest.map fun p => "&" ++ formPair p)) := by
  simp only [Url.appendPairs, List.foldl_cons]
  rw [foldl_formPairs]
  · split <;> simp_all [formPair, String.append_assoc, String.isEmpty_iff]
  · simp [String.append_assoc]

/-- A draft for a URL with a host is a request at that URL, its user information apart. -/
theorem ofUrl_request {m : Method} {u : Url} {r : Request} (h : Draft.ofUrl m u = .ok r) :
    r.method = m ∧ r.url.query = u.query ∧ r.body = .empty := by
  unfold Draft.ofUrl at h
  split at h
  · split at h <;> (cases h; exact ⟨rfl, rfl, rfl⟩)
  · cases h

namespace Scoped

theorem jsonDraft_request {m : Method} {u : Url} {text : String} {r : Request}
    (h : jsonDraft m u text = .ok r) : r.method = m ∧ r.body = .bytes text.toUTF8.toList := by
  unfold jsonDraft at h
  cases hu : Draft.ofUrl m u with
  | error e =>
    rw [hu] at h
    cases h
  | ok r0 =>
    rw [hu] at h
    obtain ⟨hm, -, -⟩ := ofUrl_request hu
    simp only [Draft.headerText, Draft.withBody] at h
    rw [header_ok r0 json_content_type.1 json_content_type.2] at h
    simp only [Except.map, Except.ok.injEq] at h
    subst h
    exact ⟨hm, rfl⟩

/-- A read asks with `GET` and no body; its query is the base URL's own, then the organization,
the key, and the project and the environment when the scope has them. -/
theorem readDraft_request (s : Scoped) (key : String) {r : Request}
    (h : s.readDraft key = .ok r) :
    r.method = .get ∧ r.body = .empty ∧
      r.url.query = some ((if (s.base.query.getD "").isEmpty then "" else
          s.base.query.getD "" ++ "&") ++
        formPair ("organization_id", s.scope.organizationId) ++ "&" ++ formPair ("key", key) ++
        (s.scope.projectId.map fun p => "&" ++ formPair ("project_id", p)).getD "" ++
        (s.scope.environmentId.map fun e => "&" ++ formPair ("environment_id", e)).getD "") := by
  obtain ⟨hm, hq, hb⟩ := ofUrl_request h
  refine ⟨hm, hb, ?_⟩
  rw [hq, getUrl]
  simp only [List.cons_append, appendPairs_query_cons]
  cases s.scope.projectId <;> cases s.scope.environmentId <;> simp [String.append_assoc]

/-- A write puts with the scope, the key, the value and the version in a JSON body. -/
theorem writeDraft_request (s : Scoped) (key : String) (value : Value) (version : Nat)
    {r : Request} (h : s.writeDraft key value version = .ok r) :
    r.method = .put ∧ r.body = .bytes ("\x7b\"scope\":" ++ scopeText s.scope ++ ",\"key\":" ++
      writeString key ++ ",\"value\":" ++ value.write ++ ",\"version\":" ++ toString version ++
      "\x7d").toUTF8.toList :=
  jsonDraft_request h

theorem deleteDraft_request (s : Scoped) (key : String) {r : Request}
    (h : s.deleteDraft key = .ok r) :
    r.method = .delete ∧ r.body = .bytes ("\x7b\"scope\":" ++ scopeText s.scope ++ ",\"key\":" ++
      writeString key ++ "\x7d").toUTF8.toList :=
  jsonDraft_request h

end Scoped

/-! ## The outcomes -/

/-- An answer that never came is a final failure when the last attempt failed for a permanent
reason, and transient otherwise, cancellation included. -/
theorem transportFault_eq (e : HttpError) :
    transportFault e =
      if e.failure?.any Failure.isPermanent then
        Fault.failed ("state store request failed: " ++ e.message)
      else Fault.transient ("state store unavailable: " ++ e.message) := by
  cases e with
  | request n f te => cases hf : f.isPermanent <;> simp [transportFault, HttpError.failure?, hf]
  | build te => rfl
  | cancelled n => rfl
  | counterOverflow => rfl

namespace Scoped

/-- A read gives an entry exactly when the store answered `200` with a body read whole that
decodes as an entry; the entry is the decoded one. -/
theorem readReply_eq_ok (key : String) (a : Except HttpError Response) (entry : Entry) :
    readReply key (a.mapError transportFault) = .ok entry ↔
      ∃ resp v, a = .ok resp ∧ resp.status = 200 ∧ resp.bodyFailure = none ∧
        decodeBytes entryShape resp.body = .ok v ∧ entry = entryOf v := by
  cases a with
  | error e => simp [mapError_error, readReply]
  | ok resp =>
    rw [mapError_ok]
    by_cases h200 : resp.status = 200
    · cases hb : resp.bodyFailure with
      | some e => simp [readReply, h200, hb]
      | none =>
        cases hd : decodeBytes entryShape resp.body with
        | error e => simp [readReply, h200, hb, hd]
        | ok v => simp [readReply, h200, hb, hd, eq_comm]
    · by_cases h404 : resp.status = 404 <;> simp [readReply, h200, h404]

/-- A read fails exactly in one of five ways, each with its own failure: the answer never came,
the `200` body could not be read (transient) or does not decode (final), the key is not there
(`404`), or any other status (final, with the status and the body). -/
theorem readReply_eq_error (key : String) (a : Except HttpError Response) (f : Fault) :
    readReply key (a.mapError transportFault) = .error f ↔
      (∃ e, a = .error e ∧ f = transportFault e) ∨
      (∃ resp e, a = .ok resp ∧ resp.status = 200 ∧ resp.bodyFailure = some e ∧
        f = Fault.transient ("reading state store response: " ++ e.text)) ∨
      (∃ resp e, a = .ok resp ∧ resp.status = 200 ∧ resp.bodyFailure = none ∧
        decodeBytes entryShape resp.body = .error e ∧ f = Fault.failed e.message) ∨
      (∃ resp, a = .ok resp ∧ resp.status = 404 ∧
        f = Fault.notFound ("key not found: " ++ key)) ∨
      (∃ resp, a = .ok resp ∧ resp.status ≠ 200 ∧ resp.status ≠ 404 ∧
        f = Fault.failed ("get kv state failed (" ++ statusText resp.status ++ "): " ++
          resp.text)) := by
  cases a with
  | error e => simp [mapError_error, readReply, eq_comm]
  | ok resp =>
    rw [mapError_ok]
    by_cases h200 : resp.status = 200
    · cases hb : resp.bodyFailure with
      | some e => simp [readReply, h200, hb, eq_comm]
      | none =>
        cases hd : decodeBytes entryShape resp.body with
        | error e => simp [readReply, h200, hb, hd, eq_comm]
        | ok v => simp [readReply, h200, hb, hd]
    · by_cases h404 : resp.status = 404
      · simp [readReply, h404, eq_comm]
      · simp [readReply, h200, h404, eq_comm]

/-- A write succeeds on `200`, is a lost race on `409`, and fails finally with the body on any
other status; an answer that never came is its transport failure. -/
theorem writeReply_eq (a : Except HttpError Response) :
    writeReply (a.mapError transportFault) =
      match a with
      | .error e => .error (transportFault e)
      | .ok resp =>
        if resp.status = 200 then .ok ()
        else if resp.status = 409 then .error (Fault.conflict "version conflict on set")
        else .error (Fault.failed ("set failed: " ++ resp.text)) := by
  cases a <;> rfl

/-- A removal succeeds on `200` and fails finally with the body on any other status; an answer
that never came is its transport failure. -/
theorem deleteReply_eq (a : Except HttpError Response) :
    deleteReply (a.mapError transportFault) =
      match a with
      | .error e => .error (transportFault e)
      | .ok resp =>
        if resp.status = 200 then .ok ()
        else .error (Fault.failed ("delete failed: " ++ resp.text)) := by
  cases a <;> rfl

theorem get_oneRequest (s : Scoped) (key : String) :
    OneRequest s (s.get key) (s.readDraft key) (readReply key) :=
  s.oneRequest_of_draft (fun _ => rfl)
    (fun _ h => by rw [(ofUrl_request h).2.2]; rfl) (fun _ => rfl)

theorem setKv_oneRequest (s : Scoped) (key : String) (value : Value) (version : Nat) :
    OneRequest s (s.setKv key value version) (s.writeDraft key value version) writeReply :=
  s.oneRequest_of_draft (fun _ => rfl)
    (fun _ h => by rw [(jsonDraft_request h).2]; rfl) (fun _ => rfl)

theorem delete_oneRequest (s : Scoped) (key : String) :
    OneRequest s (s.delete key) (s.deleteDraft key) deleteReply :=
  s.oneRequest_of_draft (fun _ => rfl)
    (fun _ h => by rw [(jsonDraft_request h).2]; rfl) (fun _ => rfl)

/-- Every operation of a scoped client on a key sends one request, stamped with the binding's
headers and retried only by the client's policy, with the scope in the query of a read and in
the JSON body of a write or a removal; its outcome follows the one answer: an answer that never
came by the class of its last failure, a response by its status and its body. -/
theorem store_calls_outcomes (s : Scoped) (key : String) (value : Value) (version : Nat) :
    (OneRequest s (s.get key) (s.readDraft key) (readReply key) ∧
      OneRequest s (s.setKv key value version) (s.writeDraft key value version) writeReply ∧
      OneRequest s (s.delete key) (s.deleteDraft key) deleteReply) ∧
    (∀ r, s.readDraft key = .ok r → r.method = .get ∧ r.body = .empty ∧
      r.url.query = some ((if (s.base.query.getD "").isEmpty then "" else
          s.base.query.getD "" ++ "&") ++
        formPair ("organization_id", s.scope.organizationId) ++ "&" ++ formPair ("key", key) ++
        (s.scope.projectId.map fun p => "&" ++ formPair ("project_id", p)).getD "" ++
        (s.scope.environmentId.map fun e => "&" ++ formPair ("environment_id", e)).getD "")) ∧
    (∀ r, s.writeDraft key value version = .ok r → r.method = .put ∧
      r.body = .bytes ("\x7b\"scope\":" ++ scopeText s.scope ++ ",\"key\":" ++
        writeString key ++ ",\"value\":" ++ value.write ++ ",\"version\":" ++
        toString version ++ "\x7d").toUTF8.toList) ∧
    (∀ r, s.deleteDraft key = .ok r → r.method = .delete ∧
      r.body = .bytes ("\x7b\"scope\":" ++ scopeText s.scope ++ ",\"key\":" ++
        writeString key ++ "\x7d").toUTF8.toList) ∧
    (∀ e, transportFault e =
      if e.failure?.any Failure.isPermanent then
        Fault.failed ("state store request failed: " ++ e.message)
      else Fault.transient ("state store unavailable: " ++ e.message)) ∧
    (∀ (a : Except HttpError Response) entry, readReply key (a.mapError transportFault) = .ok entry ↔
      ∃ resp v, a = .ok resp ∧ resp.status = 200 ∧ resp.bodyFailure = none ∧
        decodeBytes entryShape resp.body = .ok v ∧ entry = entryOf v) ∧
    (∀ (a : Except HttpError Response) f, readReply key (a.mapError transportFault) = .error f ↔
      (∃ e, a = .error e ∧ f = transportFault e) ∨
      (∃ resp e, a = .ok resp ∧ resp.status = 200 ∧ resp.bodyFailure = some e ∧
        f = Fault.transient ("reading state store response: " ++ e.text)) ∨
      (∃ resp e, a = .ok resp ∧ resp.status = 200 ∧ resp.bodyFailure = none ∧
        decodeBytes entryShape resp.body = .error e ∧ f = Fault.failed e.message) ∨
      (∃ resp, a = .ok resp ∧ resp.status = 404 ∧
        f = Fault.notFound ("key not found: " ++ key)) ∨
      (∃ resp, a = .ok resp ∧ resp.status ≠ 200 ∧ resp.status ≠ 404 ∧
        f = Fault.failed ("get kv state failed (" ++ statusText resp.status ++ "): " ++
          resp.text))) ∧
    (∀ a : Except HttpError Response, writeReply (a.mapError transportFault) =
      match a with
      | .error e => .error (transportFault e)
      | .ok resp =>
        if resp.status = 200 then .ok ()
        else if resp.status = 409 then .error (Fault.conflict "version conflict on set")
        else .error (Fault.failed ("set failed: " ++ resp.text))) ∧
    (∀ a : Except HttpError Response, deleteReply (a.mapError transportFault) =
      match a with
      | .error e => .error (transportFault e)
      | .ok resp =>
        if resp.status = 200 then .ok ()
        else .error (Fault.failed ("delete failed: " ++ resp.text))) :=
  ⟨⟨s.get_oneRequest key, s.setKv_oneRequest key value version, s.delete_oneRequest key⟩,
    fun _ => s.readDraft_request key, fun _ => s.writeDraft_request key value version,
    fun _ => s.deleteDraft_request key, transportFault_eq, readReply_eq_ok key,
    readReply_eq_error key, writeReply_eq, deleteReply_eq⟩

end Scoped

end FunctionHost.State

import FunctionHost.Proofs.InvocationOutcome
/-!
# The request a function is handed

The server hands the function the body's object with its `metadata` replaced, whatever the body
put there, by an object built from the headers alone: `activityID`, `environmentID` and
`environmentName` always (empty when the header gives nothing), and `stateStoreUrl`,
`stateStoreToken`, `organizationID` and `projectID` exactly when their header gives a value. A
header gives a value when its first occurrence is visible ASCII and not blank once trimmed
(`headerText`).

The store binding reads that metadata back, taking an empty text for an absent one; since a
header never gives an empty value, the binding is exactly what the headers say. The activity log
is made when the engine endpoint header gives a value and the endpoint, joined with the upload
path, reads as a URL.

**Results.**
* `lookup_membersOf`: an object built from pairs holds at each key the value of the last pair
  with that key.
* `lookup_withMetadata`: the request keeps every key of the body but `metadata`.
* `headerText_isEmpty`: a header's value is never empty.
* `metadata_ofHeaders`: the metadata the headers give, field by field.
* `metaStr_required`, `metaStr_optional`: the metadata's string fields, as the binding reads
  them, are the header values.
* `activityWriter_isSome_iff`: when an invocation makes its activity log.
* `invoke_hands_rebuilt_request`: the request a function is handed, its metadata, the binding
  it gives and the activity log, for every body object and every header list.
-/
namespace FunctionHost.Json

theorem lookup_cons_pair (k k' : String) (v : Value) (rest : List (String × Value)) :
    ((k', v) :: rest).lookup k = if k = k' then some v else rest.lookup k := by
  rw [List.lookup_cons]
  by_cases hk : k = k'
  · subst hk
    simp
  · have hb : (k == k') = false := beq_false_of_ne hk
    simp [hb, hk]

/-- Inserting pairs one by one: the last write to a key wins, and keys never written keep their
value. -/
theorem lookup_foldl_insert (k : String) (pairs : List (String × Value)) (acc : Members) :
    lookup k (pairs.foldl (fun acc (p : String × Value) => insertMember p.1 p.2 acc) acc) =
      (pairs.reverse.lookup k).or (lookup k acc) := by
  induction pairs generalizing acc with
  | nil => simp
  | cons p rest ih =>
    obtain ⟨k', v⟩ := p
    rw [List.foldl_cons, ih, List.reverse_cons, List.lookup_append, Option.or_assoc,
      lookup_cons_pair]
    by_cases hk : k = k'
    · subst hk
      simp [lookup_insert]
    · simp [lookup_insert_ne _ _ _ _ hk, hk]

theorem lookup_membersOf (k : String) (pairs : List (String × Value)) :
    lookup k (membersOf pairs) = pairs.reverse.lookup k := by
  have h := lookup_foldl_insert k pairs []
  unfold membersOf
  rw [h]
  simp [lookup]

end FunctionHost.Json

namespace FunctionHost.Server

open Json

theorem filterMap_cons_toList {α β : Type} (f : α → Option β) (a : α) (l : List α) :
    (a :: l).filterMap f = (f a).toList ++ l.filterMap f := by
  cases h : f a <;> simp [h]

theorem lookup_optionalField (k k' : String) (o : Option String) :
    ((o.map fun s => (k', Value.string s)).toList.reverse).lookup k =
      if k = k' then o.map .string else none := by
  cases o <;> simp [lookup_cons_pair]

namespace InvocationHeaders

/-- The metadata object, key by key: the three identifiers, then the store fields that are
given, and nothing else. -/
theorem lookup_metadata (h : InvocationHeaders) (k : String) :
    lookup k h.metadata =
      if k = "activityID" then some (.string h.activityId)
      else if k = "environmentID" then some (.string h.environmentId)
      else if k = "environmentName" then some (.string h.environmentName)
      else if k = "stateStoreUrl" then h.stateStoreUrl.map .string
      else if k = "stateStoreToken" then h.stateStoreToken.map .string
      else if k = "organizationID" then h.organizationId.map .string
      else if k = "projectID" then h.projectId.map .string
      else none := by
  simp only [metadata, lookup_membersOf, List.reverse_append, List.lookup_append,
    filterMap_cons_toList, List.filterMap_nil, List.append_nil, lookup_optionalField]
  -- one key at a time: the store fields come last in the list, so they are looked up first
  by_cases h1 : k = "activityID"
  · subst h1; simp [lookup_cons_pair]
  by_cases h2 : k = "environmentID"
  · subst h2; simp [lookup_cons_pair]
  by_cases h3 : k = "environmentName"
  · subst h3; simp
  by_cases h4 : k = "stateStoreUrl"
  · subst h4; simp [lookup_cons_pair]
  by_cases h5 : k = "stateStoreToken"
  · subst h5; simp [lookup_cons_pair]
  by_cases h6 : k = "organizationID"
  · subst h6; simp [lookup_cons_pair]
  by_cases h7 : k = "projectID"
  · subst h7; simp [lookup_cons_pair]
  simp [lookup_cons_pair, h1, h2, h3, h4, h5, h6, h7]

theorem lookup_withMetadata (h : InvocationHeaders) (request : Members) (k : String) :
    lookup k (h.withMetadata request) =
      if k = Payload.metadataKey then some (.object h.metadata) else lookup k request := by
  unfold withMetadata
  by_cases hk : k = Payload.metadataKey
  · subst hk
    simp [lookup_insert]
  · simp [lookup_insert_ne _ _ _ _ hk, hk]

end InvocationHeaders

theorem headerText_isEmpty {headers : List (String × List UInt8)} {name t : String}
    (h : headerText headers name = some t) : t.isEmpty = false := by
  unfold headerText at h
  split at h
  · split at h
    · -- the trimmed text is handed on only when it is not empty
      dsimp only at h
      split at h
      · exact absurd h (by simp)
      · rename_i hne
        rw [← Option.some.inj h]
        exact Bool.eq_false_iff.mpr hne
    · exact absurd h (by simp)
  · exact absurd h (by simp)

/-- The metadata the headers give, field by field: the identifiers always, empty when their
header gives nothing; the store fields exactly when their header gives a value; nothing else. -/
theorem metadata_ofHeaders (headers : List (String × List UInt8)) :
    let M := (InvocationHeaders.ofHeaders headers).metadata
    let header := headerText headers
    lookup "activityID" M = some (.string ((header "X-Activity-ID").getD "")) ∧
      lookup "environmentID" M = some (.string ((header "X-Environment-ID").getD "")) ∧
      lookup "environmentName" M = some (.string ((header "X-Environment-Name").getD "")) ∧
      lookup "stateStoreUrl" M = (header "X-State-Store-Url").map .string ∧
      lookup "stateStoreToken" M = (header "X-State-Store-Token").map .string ∧
      lookup "organizationID" M = (header "X-Organization-ID").map .string ∧
      lookup "projectID" M = (header "X-Project-ID").map .string ∧
      ∀ k, k ∉ ["activityID", "environmentID", "environmentName", "stateStoreUrl",
        "stateStoreToken", "organizationID", "projectID"] → lookup k M = none := by
  intro M header
  refine ⟨?_, ?_, ?_, ?_, ?_, ?_, ?_, fun k hk => ?_⟩
  all_goals simp only [M, header, InvocationHeaders.lookup_metadata, InvocationHeaders.ofHeaders]
  all_goals simp_all

/-- The rebuilt request's metadata is the headers' object, whatever the body held there. -/
theorem metadata_withMetadata (h : InvocationHeaders) (request : Members) :
    Payload.metadata (h.withMetadata request) = some h.metadata := by
  simp [Payload.metadata, InvocationHeaders.lookup_withMetadata, Value.asObject?]

/-- A field the headers always give: empty when the header gives nothing, which the binding
takes for absent. -/
theorem metaStr_required (headers : List (String × List UInt8)) (request : Members)
    (name header : String)
    (hl : lookup name (InvocationHeaders.ofHeaders headers).metadata =
      some (.string ((headerText headers header).getD ""))) :
    Payload.metaStr ((InvocationHeaders.ofHeaders headers).withMetadata request) name =
      headerText headers header := by
  simp only [Payload.metaStr, metadata_withMetadata, Option.bind_some, hl]
  cases ht : headerText headers header with
  | none => simp
  | some t => simp [headerText_isEmpty ht]

theorem metaStr_optional (headers : List (String × List UInt8)) (request : Members)
    (name header : String)
    (hl : lookup name (InvocationHeaders.ofHeaders headers).metadata =
      (headerText headers header).map .string) :
    Payload.metaStr ((InvocationHeaders.ofHeaders headers).withMetadata request) name =
      headerText headers header := by
  simp only [Payload.metaStr, metadata_withMetadata, Option.bind_some, hl]
  cases ht : headerText headers header with
  | none => simp
  | some t => simp [headerText_isEmpty ht]

/-- The store binding of the rebuilt request: refused without a store URL header, else made of
the header values, empty for those not given. -/
theorem binding_withMetadata (headers : List (String × List UInt8)) (request : Members) :
    State.Binding.ofRequest ((InvocationHeaders.ofHeaders headers).withMetadata request) =
      match headerText headers "X-State-Store-Url" with
      | none => .error (Fault.failed "state store is not configured for this invocation")
      | some url => .ok ⟨url, (headerText headers "X-State-Store-Token").getD "",
          (headerText headers "X-Organization-ID").getD "",
          (headerText headers "X-Project-ID").getD "",
          (headerText headers "X-Environment-ID").getD ""⟩ := by
  obtain ⟨-, henvId, -, hurlId, htokenId, horgId, hprojId, -⟩ := metadata_ofHeaders headers
  have hurl := metaStr_optional headers request "stateStoreUrl" "X-State-Store-Url" hurlId
  have htoken := metaStr_optional headers request "stateStoreToken" "X-State-Store-Token" htokenId
  have horg := metaStr_optional headers request "organizationID" "X-Organization-ID" horgId
  have hproj := metaStr_optional headers request "projectID" "X-Project-ID" hprojId
  have henv := metaStr_required headers request "environmentID" "X-Environment-ID" henvId
  unfold State.Binding.ofRequest
  cases hu : headerText headers "X-State-Store-Url" with
  | none => simp only [hurl, hu]
  | some url => simp only [hurl, hu, htoken, horg, hproj, henv]

theorem make_toOption_isSome (url : String) (token : Option String)
    (settings : ActivityLog.Settings) (client : Transport.Client) (net : Transport.Network)
    (now : Nat) :
    (ActivityLog.Writer.make url token settings client net now).toOption.isSome ↔
      ∃ u, Url.parse url = .ok u := by
  unfold ActivityLog.Writer.make
  cases Url.parse url <;> simp [Except.toOption]

namespace FunctionServer

theorem serveRequest_activity_isSome (s : FunctionServer) (h : InvocationHeaders)
    (request : Members) (start : Moment) :
    (s.serveRequest h request start).activity.isSome = (s.activityWriter h start).isSome := by
  unfold serveRequest
  dsimp only
  split
  · cases s.activityWriter h start <;> simp
  · cases (s.race (s.invocationContext h start) (h.withMetadata request) start).answer <;>
      cases s.activityWriter h start <;> simp

theorem activityWriter_isSome_iff (s : FunctionServer) (headers : List (String × List UInt8))
    (start : Moment) :
    (s.activityWriter (InvocationHeaders.ofHeaders headers) start).isSome ↔
      ∃ endpoint u, headerText headers "X-Engine-Endpoint" = some endpoint ∧
        Url.parse (match headerText headers "X-Activity-File-Upload" with
          | some path => InvocationHeaders.trimEndSlashes endpoint ++ "/" ++
              InvocationHeaders.trimStartSlashes path
          | none => endpoint) = .ok u := by
  unfold activityWriter InvocationHeaders.activityLogUrl
  simp only [InvocationHeaders.ofHeaders]
  cases he : headerText headers "X-Engine-Endpoint" with
  | none => simp
  | some endpoint =>
    -- the writer is made exactly when the joined URL reads
    cases headerText headers "X-Activity-File-Upload" <;>
      simp [make_toOption_isSome]

/-- An invocation depends on its function only through the run on the rebuilt request. -/
theorem serveRequest_handler (s : FunctionServer) (h : InvocationHeaders) (request : Members)
    (start : Moment) (g : Handler)
    (hg : ∀ ctx t, g ctx (h.withMetadata request) t = s.handler ctx (h.withMetadata request) t) :
    ({ s with handler := g } : FunctionServer).serveRequest h request start =
      s.serveRequest h request start := by
  -- the log and the context read every field of the server but its function
  have hw : ({ s with handler := g } : FunctionServer).activityWriter h start =
      s.activityWriter h start := rfl
  have hc : ({ s with handler := g } : FunctionServer).invocationContext h start =
      s.invocationContext h start := rfl
  simp only [serveRequest, race, hg, hw, hc]

/-- Every invocation hands its function the body's object with the headers' metadata: a server
whose function reads that request whatever it is handed serves alike. -/
theorem invoke_handing (s : FunctionServer) (headers : List (String × List UInt8))
    (b : List UInt8) (B : Members) (start : Moment) (hB : readRequest b = some B) :
    s.invoke headers (.whole b) start =
      { s with handler := fun ctx _ t =>
          s.handler ctx ((InvocationHeaders.ofHeaders headers).withMetadata B) t }.invoke headers
        (.whole b) start := by
  by_cases hb : b.length ≤ s.settings.maxBodyBytes
  · rw [invoke_request s headers b B start hb hB]
    simp only [invoke, readBody, hb, if_true, hB]
    exact (serveRequest_handler s _ B start _ fun _ _ => rfl).symm
  · -- a body over the limit is refused before any function runs
    simp [invoke, readBody, hb]

/-- The request a function is handed, for every body object and header list: the body's object
with its metadata replaced by the headers' (a function that reads that request whatever it is
handed serves alike); the metadata key by key; the store binding it gives; and when the
invocation makes an activity log. -/
theorem invoke_hands_rebuilt_request (s : FunctionServer) (headers : List (String × List UInt8))
    (start : Moment) :
    let header := headerText headers
    let h := InvocationHeaders.ofHeaders headers
    (∀ b B, readRequest b = some B →
      s.invoke headers (.whole b) start =
        { s with handler := fun ctx _ t => s.handler ctx (h.withMetadata B) t }.invoke headers
          (.whole b) start) ∧
    (∀ B, let request := h.withMetadata B
      (∀ k, k ≠ "metadata" → lookup k request = lookup k B) ∧
      (∃ M, lookup "metadata" request = some (.object M) ∧
        lookup "activityID" M = some (.string ((header "X-Activity-ID").getD "")) ∧
        lookup "environmentID" M = some (.string ((header "X-Environment-ID").getD "")) ∧
        lookup "environmentName" M = some (.string ((header "X-Environment-Name").getD "")) ∧
        lookup "stateStoreUrl" M = (header "X-State-Store-Url").map .string ∧
        lookup "stateStoreToken" M = (header "X-State-Store-Token").map .string ∧
        lookup "organizationID" M = (header "X-Organization-ID").map .string ∧
        lookup "projectID" M = (header "X-Project-ID").map .string ∧
        ∀ k, k ∉ ["activityID", "environmentID", "environmentName", "stateStoreUrl",
          "stateStoreToken", "organizationID", "projectID"] → lookup k M = none) ∧
      State.Binding.ofRequest request =
        (match header "X-State-Store-Url" with
          | none => .error (Fault.failed "state store is not configured for this invocation")
          | some url => .ok ⟨url, (header "X-State-Store-Token").getD "",
              (header "X-Organization-ID").getD "", (header "X-Project-ID").getD "",
              (header "X-Environment-ID").getD ""⟩)) ∧
    (∀ b B, b.length ≤ s.settings.maxBodyBytes → readRequest b = some B →
      ((s.invoke headers (.whole b) start).activity.isSome ↔
        ∃ endpoint u, header "X-Engine-Endpoint" = some endpoint ∧
          Url.parse (match header "X-Activity-File-Upload" with
            | some path => InvocationHeaders.trimEndSlashes endpoint ++ "/" ++
                InvocationHeaders.trimStartSlashes path
            | none => endpoint) = .ok u)) := by
  intro header h
  refine ⟨fun b B hB => invoke_handing s headers b B start hB, fun B => ?_, ?_⟩
  · refine ⟨fun k hk => ?_, ⟨h.metadata, ?_, metadata_ofHeaders headers⟩,
      binding_withMetadata headers B⟩
    · simp [InvocationHeaders.lookup_withMetadata, Payload.metadataKey, hk]
    · simp [InvocationHeaders.lookup_withMetadata, Payload.metadataKey]
  · intro b B hb hB
    rw [invoke_request s headers b B start hb hB, serveRequest_activity_isSome]
    exact activityWriter_isSome_iff s headers start

end FunctionServer

end FunctionHost.Server

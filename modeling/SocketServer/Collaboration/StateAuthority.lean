import SocketServer.Collaboration.CapacityExercise
import SocketServer.Collaboration.StorageRoundTrip

/-!
# The state authority of the capacity exercise

`exerciseLargeDocument` (`collaboration/scripts/capacity-exercise.ts`) stands in for core-api with an
HTTP server of its own, which keeps one state, and lets collaboration servers load and store through
it.  Here are both ends: `handleStateRequest` and the `CoreAPIStorage` of `createPersistentServer`.

* `handle_load`, `handle_store`: what becomes of the requests that the storage makes;
* `handle_step`, `held_after`: the run of the authority, by one request at a time;
* `authority_serves`: whatever was requested before, a load gets the state that was stored last, and
  a store is reported as done exactly when the authority has kept it.
-/

namespace SocketServer.Collaboration.Capacity

open SocketServer.Text SocketServer.Js SocketServer.Checks

/-! ### The authority -/

def serviceSecret : JsString := js "capacity-collaboration-service-secret"

def mib : ℕ := 1024 * 1024

/-- A request as it arrives: a declared length, and the chunks of the body. -/
structure StateRequest where
  url : JsString
  method : JsString
  contentLength : Option JsString
  body : List Bytes

structure StateReply where
  status : ℕ
  body : Option Bytes
  deriving DecidableEq

/-- The variables of `exerciseLargeDocument` that its storage reads and writes. -/
structure AuthorityState where
  canonicalState : Bytes
  changePersisted : Bool
  deriving DecidableEq

/-- `Number(request.headers["content-length"])`; a missing header is `undefined`. -/
def requestLength (request : StateRequest) : JsNumber :=
  match request.contentLength with
  | none => .nan
  | some header => number header

/-- `readJSON`, whose loop over the chunks is that of `readBoundedJSON` under another error. -/
def readJSON (runtime : Runtime) (request : StateRequest) (maxBytes : ℕ) : Except String Json := do
  rejectIf (exceeds (requestLength request) maxBytes = true)
    "capacity state request exceeded its resource bound"
  let chunks ← (readChunks maxBytes 0 [] request.body).mapError fun _ =>
    "capacity state request exceeded its resource bound"
  require (runtime.jsonParse (utf8ToString chunks.flatten)) "SyntaxError"

section

variable (runtime : Runtime) (changedAfterLoad : Bytes → Bool) (maxRequestBytes : ℕ)

/-- `storeState`, and whether it returned.  The state is kept before Yjs looks at it. -/
def storeState (s : AuthorityState) (state : Bytes) : AuthorityState × Bool :=
  if runtime.acceptsUpdate state then (⟨state, changedAfterLoad state⟩, true)
  else ({ s with canonicalState := state }, false)

def exerciseProjections : DocumentProjections where
  bodyHTML := js "<p>Capacity Document</p>"
  title := js "Capacity exercise"

/-- The reply with the state. -/
def stateReply (s : AuthorityState) : StateReply where
  status := 200
  body := some (toBytes (utf16 (stringifyObject (storedMembers s.canonicalState exerciseProjections))))

/-- `handleStateRequest`; when it throws, the handler of `startStateAuthority` answers 413. -/
def handleStateRequest (s : AuthorityState) (request : StateRequest) : AuthorityState × StateReply :=
  if request.url = js "/health/ready" then (s, ⟨204, none⟩)
  else if request.method = js "PUT" then
    match readJSON runtime request maxRequestBytes with
    | .error _ => (s, ⟨413, none⟩)
    -- `null` has no properties
    | .ok .null => (s, ⟨413, none⟩)
    | .ok (.object members) =>
        match property members "canonical_state" with
        | some (.string canonicalState) =>
            let (s', returned) := storeState runtime changedAfterLoad s
              (runtime.fromBase64 canonicalState)
            (s', if returned then stateReply s' else ⟨413, none⟩)
        | _ => (s, ⟨400, none⟩)
    | .ok _ => (s, ⟨400, none⟩)
  else (s, stateReply s)

def afterRequests (s : AuthorityState) (requests : List StateRequest) : AuthorityState :=
  requests.foldl (fun s request =>
    (handleStateRequest runtime changedAfterLoad maxRequestBytes s request).1) s

end

/-! ### The servers -/

/-- The limit on documents. -/
def documentLimit (documentBytes : ℕ) : ℕ := documentBytes + mib

/-- The limit on requests. -/
def maxRequestBytes (documentBytes : ℕ) : ℕ := base64Length (documentBytes + mib) + mib

/-- The storage of `createPersistentServer`. -/
def persistentStorage (runtime : Runtime) (coreAPIURL : JsString) (maxDocumentBytes : ℕ) :
    Except String CoreAPIStorage :=
  CoreAPIStorage.new runtime {
    baseURL := coreAPIURL
    maxDocumentBytes := some maxDocumentBytes
    maxResponseBytes := some (base64Length maxDocumentBytes + 1024)
    requestTimeout := some 10000
    serviceSecret }

theorem persistentStorage_limits {runtime : Runtime} {coreAPIURL : JsString} {maxDocumentBytes : ℕ}
    {storage : CoreAPIStorage}
    (h : persistentStorage runtime coreAPIURL maxDocumentBytes = .ok storage) :
    storage.maxDocumentBytes = maxDocumentBytes ∧
      storage.maxResponseBytes = base64Length maxDocumentBytes + 1024 := by
  unfold persistentStorage CoreAPIStorage.new at h
  simp only [bind_eq_ok, rejectIf_eq_ok] at h
  obtain ⟨baseURL, -, -, -, -, -, hreturn⟩ := h
  cases hreturn
  exact ⟨rfl, rfl⟩

def methodName : Method → JsString
  | .get => js "GET"
  | .put => js "PUT"

/-- A request of a storage arrives, its body cut anywhere. -/
structure Arrives (storage : CoreAPIStorage) (request : Request) (arrived : StateRequest) : Prop where
  url : request.url = storage.baseURL ++ arrived.url
  method : arrived.method = methodName request.method
  contentLength : ∀ n, requestLength arrived = .finite n → n ≤ arrived.body.flatten.length
  body : arrived.body.flatten = toBytes (request.body.getD [])

/-- A reply is delivered, its body cut anywhere. -/
structure Delivers (reply : StateReply) (response : Response) : Prop where
  status : response.status = reply.status
  body : ∀ payload, reply.body = some payload → ∃ chunks, response.body = some chunks ∧
    chunks.flatten = payload ∧ ∀ n, declaredLength response = .finite n → n ≤ payload.length

/-- What the authority is asked for. -/
inductive StateEvent where
  | health
  | load (scope : DocumentScope)
  | store (scope : DocumentScope) (state : Bytes) (projections : DocumentProjections)

/-- The requests that an event may be seen as.  States are encodings of documents, which are never
empty. -/
def Issues (runtime : Runtime) (storage : CoreAPIStorage) : StateEvent → StateRequest → Prop
  | .health, arrived => arrived.url = js "/health/ready"
  | .load scope, arrived => ∃ request, storage.request scope .get none none = .ok request ∧
      Arrives storage request arrived
  | .store scope state projections, arrived => state ≠ [] ∧ ∃ request,
      storage.put runtime scope state projections = .ok request ∧ Arrives storage request arrived

/-- The size of the text that a state is stored as. -/
def storedSize (state : Bytes) (projections : DocumentProjections) : ℕ :=
  (utf8 (stringifyObject (storedMembers state projections))).length

/-- The state that an event leaves with the authority. -/
def StateEvent.kept (documentBytes : ℕ) (state : Bytes) : StateEvent → Bytes
  | .store _ state' projections =>
      if storedSize state' projections ≤ maxRequestBytes documentBytes then state' else state
  | _ => state

/-- What the results rely on: `JSON.parse` reads back what `JSON.stringify` wrote, and the base64
decoder inverts the encoder. -/
structure StateLaws (runtime : Runtime) : Prop where
  jsonParse : ∀ state projections,
    runtime.jsonParse (utf16 (stringifyObject (storedMembers state projections))) =
      some (storedValue state projections)
  fromBase64 : ∀ bytes, runtime.fromBase64 (toBase64 bytes) = bytes

/-! ### What becomes of a request -/

theorem readJSON_eq_ok {runtime : Runtime} {request : StateRequest} {maxBytes : ℕ} {value : Json} :
    readJSON runtime request maxBytes = .ok value ↔
      (∀ n, requestLength request = .finite n → n ≤ maxBytes) ∧
        request.body.flatten.length ≤ maxBytes ∧
        runtime.jsonParse (utf8ToString request.body.flatten) = some value := by
  have hchunks := @readChunks_eq maxBytes 0 [] request.body (Nat.zero_le maxBytes)
  rw [Nat.zero_add, List.nil_append] at hchunks
  unfold readJSON
  simp only [bind_eq_ok, rejectIf_eq_ok, mapError_eq_ok, require_eq_ok, hchunks]
  rw [← exceeds_eq_false]
  constructor
  · rintro ⟨-, hdeclared, chunks, hread, hparse⟩
    split at hread
    · rename_i hsize
      cases hread
      exact ⟨Bool.eq_false_iff.mpr hdeclared, hsize, hparse⟩
    · cases hread
  · rintro ⟨hdeclared, hsize, hparse⟩
    exact ⟨(), Bool.eq_false_iff.mp hdeclared, request.body, if_pos hsize, hparse⟩

section

variable {runtime : Runtime} {changedAfterLoad : Bytes → Bool} {limit documentBytes : ℕ}
  {storage : CoreAPIStorage} {scope : DocumentScope} {request : Request} {arrived : StateRequest}
  {s : AuthorityState}

/-- The requests of a storage are not those for the health of core-api. -/
theorem url_ne_ready {method : Method} {contentType body : Option JsString}
    (h : storage.request scope method contentType body = .ok request)
    (harrives : Arrives storage request arrived) :
    arrived.url ≠ js "/health/ready" ∧ arrived.method = methodName method ∧
      arrived.body.flatten = toBytes (body.getD []) := by
  unfold CoreAPIStorage.request at h
  simp only [bind_eq_ok, require_eq_ok] at h
  obtain ⟨path, hpath, hreturn⟩ := h
  cases hreturn
  refine ⟨fun hready => ?_, harrives.method, harrives.body⟩
  have hurl := harrives.url
  rw [hready, List.append_assoc] at hurl
  have hsuffix := List.append_cancel_left hurl
  -- the path starts with another letter
  simp only [statePath, Option.bind_eq_bind, Option.bind_eq_some_iff] at hpath
  obtain ⟨organizationId, -, teamId, -, documentId, -, hreturn⟩ := hpath
  cases hreturn
  have hsecond := congrArg (fun text : JsString => text[1]?) hsuffix
  simp only [List.append_assoc] at hsecond
  exact absurd hsecond (show ¬ some (unit 'i') = some (unit 'h') by decide)

theorem handle_load (h : Issues runtime storage (.load scope) arrived) :
    handleStateRequest runtime changedAfterLoad limit s arrived = (s, stateReply s) := by
  obtain ⟨request, hrequest, harrives⟩ := h
  obtain ⟨hurl, hmethod, -⟩ := url_ne_ready hrequest harrives
  have hget : arrived.method ≠ js "PUT" := by
    rw [hmethod]
    decide
  rw [handleStateRequest, if_neg hurl, if_neg hget]

/-- **A PUT of a storage** is kept when its text is within the bound, and refused when it is not. -/
theorem handle_store (hlaws : StateLaws runtime) {state : Bytes}
    {projections : DocumentProjections}
    (h : Issues runtime storage (.store scope state projections) arrived) :
    handleStateRequest runtime changedAfterLoad limit s arrived =
      if storedSize state projections ≤ limit then
        (⟨state, changedAfterLoad state⟩, stateReply ⟨state, changedAfterLoad state⟩)
      else (s, ⟨413, none⟩) := by
  obtain ⟨hne, request, hput, harrives⟩ := h
  have haccepts : runtime.acceptsUpdate state = true := by
    have hyjs := (put_eq_ok hput).1
    simp only [validateYjsState, rejectIf_eq_ok, not_and, Bool.not_eq_false] at hyjs
    exact hyjs hne
  unfold CoreAPIStorage.put at hput
  simp only [bind_eq_ok] at hput
  obtain ⟨-, -, -, -, -, -, hrequest⟩ := hput
  obtain ⟨hurl, hmethod, hbody⟩ := url_ne_ready hrequest harrives
  have hisPut : arrived.method = js "PUT" := hmethod
  have htext : arrived.body.flatten = utf8 (stringifyObject (storedMembers state projections)) :=
    hbody.trans (toBytes_utf16 _)
  have hlength : arrived.body.flatten.length = storedSize state projections :=
    congrArg List.length htext
  rw [handleStateRequest, if_neg hurl, if_pos hisPut]
  by_cases hsize : storedSize state projections ≤ limit
  · have hread : readJSON runtime arrived limit = .ok (storedValue state projections) := by
      rw [readJSON_eq_ok, hlength]
      refine ⟨fun n hn => ?_, hsize, ?_⟩
      · have hdeclared := harrives.contentLength n hn
        rw [hlength] at hdeclared
        exact hdeclared.trans (Nat.cast_le.mpr hsize)
      · rw [htext, utf8ToString_utf8, hlaws.jsonParse]
    have hmember : property ((storedMembers state projections).map fun member =>
        (member.1, Json.string member.2)) "canonical_state" = some (.string (toBase64 state)) := by
      have htitle : js "title" ≠ js "canonical_state" := by decide
      simp [storedMembers, property, htitle]
    rw [hread, storedValue, if_pos hsize]
    dsimp only
    rw [hmember]
    dsimp only
    rw [hlaws.fromBase64, storeState, if_pos haccepts]
    rfl
  · rw [if_neg hsize]
    cases hread : readJSON runtime arrived limit with
    | error => rfl
    | ok value => exact absurd (hlength ▸ (readJSON_eq_ok.mp hread).2.1) hsize

/-! ### Runs -/

/-- A storage with these limits can load the state, and the flag tells whether it has the change. -/
structure Held (runtime : Runtime) (changedAfterLoad : Bytes → Bool) (documentBytes : ℕ)
    (s : AuthorityState) : Prop where
  size : s.canonicalState.length ≤ documentLimit documentBytes
  accepted : validateYjsState runtime s.canonicalState = .ok ()
  changed : s.changePersisted = changedAfterLoad s.canonicalState

/-- **One request.** -/
theorem handle_step (hlaws : StateLaws runtime)
    (hlimit : storage.maxDocumentBytes = documentLimit documentBytes) {event : StateEvent}
    (hissued : Issues runtime storage event arrived) (hs : Held runtime changedAfterLoad documentBytes s) :
    Held runtime changedAfterLoad documentBytes (handleStateRequest runtime changedAfterLoad
        (maxRequestBytes documentBytes) s arrived).1 ∧
      (handleStateRequest runtime changedAfterLoad (maxRequestBytes documentBytes) s
        arrived).1.canonicalState = event.kept documentBytes s.canonicalState := by
  cases event with
  | health =>
      have hready : arrived.url = js "/health/ready" := hissued
      rw [handleStateRequest, if_pos hready]
      exact ⟨hs, rfl⟩
  | load scope =>
      rw [handle_load hissued]
      exact ⟨hs, rfl⟩
  | store scope state projections =>
      rw [handle_store hlaws hissued, StateEvent.kept]
      split
      · obtain ⟨-, request, hput, -⟩ := hissued
        obtain ⟨hyjs, hsize, -⟩ := put_eq_ok hput
        exact ⟨⟨hlimit ▸ hsize, hyjs, rfl⟩, rfl⟩
      · exact ⟨hs, rfl⟩

/-- **The run.**  The authority has what was stored last, and it can be loaded. -/
theorem held_after (hlaws : StateLaws runtime)
    (hlimit : storage.maxDocumentBytes = documentLimit documentBytes) {events : List StateEvent}
    {requests : List StateRequest} (hissued : List.Forall₂ (Issues runtime storage) events requests)
    (hs : Held runtime changedAfterLoad documentBytes s) :
    Held runtime changedAfterLoad documentBytes (afterRequests runtime changedAfterLoad
        (maxRequestBytes documentBytes) s requests) ∧
      (afterRequests runtime changedAfterLoad (maxRequestBytes documentBytes) s
        requests).canonicalState = events.foldl (StateEvent.kept documentBytes) s.canonicalState := by
  induction hissued generalizing s with
  | nil => exact ⟨hs, rfl⟩
  | cons hfirst _ ih =>
      obtain ⟨hnext, hkept⟩ := handle_step hlaws hlimit hfirst hs
      rw [List.foldl_cons, ← hkept]
      exact ih hnext

/-! ### Loading and storing -/

theorem base64Length_mono {m n : ℕ} (h : m ≤ n) : base64Length m ≤ base64Length n :=
  Nat.mul_le_mul_right 4 (Nat.div_le_div_right (Nat.add_le_add_right h 2))

/-- The reply with a state is within the limit on responses. -/
theorem storedSize_exercise {state : Bytes} (h : state.length ≤ documentLimit documentBytes) :
    storedSize state exerciseProjections ≤ base64Length (documentLimit documentBytes) + 1024 := by
  have hbody : escapedLength exerciseProjections.bodyHTML = 24 := by decide +kernel
  have htitle : escapedLength exerciseProjections.title = 17 := by decide +kernel
  have hmono := base64Length_mono h
  rw [storedSize, stored_length, hbody, htitle]
  omega

/-- A storage loads the text of a state. -/
theorem load_text (hlaws : StateLaws runtime) {response : Response} {chunks : List Bytes}
    {state : Bytes} {projections : DocumentProjections}
    (hrequest : storage.request scope .get none none = .ok request)
    (hstatus : response.status = 200) (hbody : response.body = some chunks)
    (htext : chunks.flatten = toBytes (utf16 (stringifyObject (storedMembers state projections))))
    (hdeclared : ∀ n, declaredLength response = .finite n → n ≤ chunks.flatten.length)
    (hprojections : validateProjectionSize projections.title projections.bodyHTML
      storage.maxDocumentBytes = .ok ())
    (hsize : state.length ≤ storage.maxDocumentBytes)
    (hyjs : validateYjsState runtime state = .ok ())
    (hfits : storedSize state projections ≤ storage.maxResponseBytes) :
    storage.load runtime scope (fun _ => .ok response) =
      .ok ⟨projections.bodyHTML, state, projections.title⟩ := by
  rw [toBytes_utf16] at htext
  have hlength : chunks.flatten.length = storedSize state projections := congrArg List.length htext
  have hsend : send (fun _ => .ok response) request = .ok response := by
    unfold send
    simp only [bind_eq_ok, rejectIf_eq_ok]
    exact ⟨response, rfl, (), by omega, rfl⟩
  have hread : readBoundedJSON runtime response storage.maxResponseBytes =
      .ok (storedValue state projections) := by
    rw [readBoundedJSON_eq runtime hbody, readWhole_eq_ok]
    refine ⟨fun n hn => ?_, hlength ▸ hfits, ?_⟩
    · have hle := hdeclared n hn
      rw [hlength] at hle
      exact hle.trans (Nat.cast_le.mpr hfits)
    · rw [htext, utf8ToString_utf8, hlaws.jsonParse]
  unfold CoreAPIStorage.load
  simp only [bind_eq_ok]
  refine ⟨request, hrequest, response, hsend, _, hread, ?_⟩
  refine ⟨_, require_eq_ok.mpr (documentStateResponse_storedValue state projections), ?_⟩
  exact ⟨(), hprojections, state,
    decodeCanonicalBase64_toBase64 runtime (hlaws.fromBase64 state) hsize, (), hyjs, rfl⟩

/-- A store is reported as done when the reply is a success. -/
theorem store_reply {state : Bytes} {projections : DocumentProjections} {response : Response}
    (hput : storage.put runtime scope state projections = .ok request) :
    storage.store runtime scope state projections (fun _ => .ok response) =
      if response.status < 200 ∨ 299 < response.status then
        .error ("core-api Document state request failed with status " ++ toString response.status)
      else .ok () := by
  rw [CoreAPIStorage.store, hput]
  show (do
    let _ ← send (fun _ => .ok response) request
    return ()) = _
  rw [send]
  show (do
    let _ ← (do
      rejectIf (response.status < 200 ∨ 299 < response.status)
        ("core-api Document state request failed with status " ++ toString response.status)
      return response)
    return ()) = _
  by_cases hfailed : response.status < 200 ∨ 299 < response.status
  · rw [rejectIf_of hfailed, if_pos hfailed]
    rfl
  · rw [rejectIf_of_not hfailed, if_neg hfailed]
    rfl

/-- **The authority serves its storages.**  It starts with a state within the limit and has handled
any requests for its health, loads and stores of any scopes, in any order, each of them cut anywhere.
Then the flag tells whether the state stored last has the change; a load whose reply is delivered
returns exactly the state stored last; and a store is reported as done and has replaced the state
when its text is within the bound on requests, and is reported as failed and has changed nothing
otherwise. -/
theorem authority_serves (hlaws : StateLaws runtime) {coreAPIURL : JsString}
    (hnew : persistentStorage runtime coreAPIURL (documentLimit documentBytes) = .ok storage)
    {events : List StateEvent} {requests : List StateRequest}
    (hissued : List.Forall₂ (Issues runtime storage) events requests) {initial : AuthorityState}
    (hinitial : Held runtime changedAfterLoad documentBytes initial) {kept : Bytes}
    (hkept : kept = events.foldl (StateEvent.kept documentBytes) initial.canonicalState)
    (hs : s = afterRequests runtime changedAfterLoad (maxRequestBytes documentBytes) initial
      requests) :
    s.changePersisted = changedAfterLoad kept ∧
    (∀ scope arrived response, Issues runtime storage (.load scope) arrived →
      Delivers (handleStateRequest runtime changedAfterLoad (maxRequestBytes documentBytes) s
        arrived).2 response →
      storage.load runtime scope (fun _ => .ok response) =
        .ok ⟨js "<p>Capacity Document</p>", kept, js "Capacity exercise"⟩) ∧
    ∀ scope state projections arrived response,
      Issues runtime storage (.store scope state projections) arrived →
      Delivers (handleStateRequest runtime changedAfterLoad (maxRequestBytes documentBytes) s
        arrived).2 response →
      if storedSize state projections ≤ maxRequestBytes documentBytes then
        storage.store runtime scope state projections (fun _ => .ok response) = .ok () ∧
          (handleStateRequest runtime changedAfterLoad (maxRequestBytes documentBytes) s
            arrived).1.canonicalState = state
      else
        storage.store runtime scope state projections (fun _ => .ok response) =
            .error "core-api Document state request failed with status 413" ∧
          (handleStateRequest runtime changedAfterLoad (maxRequestBytes documentBytes) s
            arrived).1 = s := by
  obtain ⟨hlimit, hresponses⟩ := persistentStorage_limits hnew
  obtain ⟨hheld, hstate⟩ := @held_after _ changedAfterLoad _ _ _ hlaws hlimit _ _ hissued hinitial
  rw [← hs] at hheld hstate
  rw [← hkept] at hstate
  refine ⟨hstate ▸ hheld.changed, ?_, ?_⟩
  · intro scope arrived response hload hdelivers
    rw [handle_load hload] at hdelivers
    obtain ⟨request, hrequest, -⟩ := hload
    obtain ⟨chunks, hbody, htext, hdeclared⟩ := hdelivers.body _ rfl
    rw [hstate] at htext hdeclared
    have hprojections : validateProjectionSize exerciseProjections.title
        exerciseProjections.bodyHTML storage.maxDocumentBytes = .ok () := by
      have htitle : byteLength exerciseProjections.title = 17 := by decide +kernel
      have hbytes : byteLength exerciseProjections.bodyHTML = 24 := by decide +kernel
      rw [validateProjectionSize, rejectIf_eq_ok, hlimit, htitle, hbytes, documentLimit, mib]
      omega
    refine load_text hlaws hrequest hdelivers.status hbody htext ?_ hprojections ?_ ?_ ?_
    · rw [htext]
      exact hdeclared
    · rw [hlimit, ← hstate]
      exact hheld.size
    · rw [← hstate]
      exact hheld.accepted
    · rw [hresponses, ← hstate]
      exact storedSize_exercise hheld.size
  · intro scope state projections arrived response hstore hdelivers
    rw [handle_store hlaws hstore] at hdelivers ⊢
    obtain ⟨-, request, hput, -⟩ := hstore
    rw [store_reply hput]
    split
    · rename_i hsize
      rw [if_pos hsize] at hdelivers
      have hstatus : response.status = 200 := hdelivers.status
      rw [hstatus]
      exact ⟨rfl, rfl⟩
    · rename_i hsize
      rw [if_neg hsize] at hdelivers
      have hstatus : response.status = 413 := hdelivers.status
      rw [hstatus]
      exact ⟨rfl, rfl⟩

end

/-! ### A sample run -/

def authorityURL : JsString := js "http://127.0.0.1:49152"

/-- Node, for the authority at that port. -/
def authorityNode : Runtime :=
  { exerciseNode with
    parseURL := fun url _ =>
      if url = authorityURL then
        some ⟨authorityURL ++ js "/", js "http:", [], [], js "/", [], []⟩
      else none }

theorem authorityNode_laws : StateLaws authorityNode where
  jsonParse state projections := by
    have hparse : authorityNode.jsonParse = parseFlat := rfl
    rw [hparse, stringifyObject_eq, parseFlat_stringify, List.map_map]
    rfl
  fromBase64 := Base64.decode_encode Base64.readable_standard

def authorityStorage : CoreAPIStorage where
  baseURL := authorityURL
  maxDocumentBytes := documentLimit 1
  maxResponseBytes := base64Length (documentLimit 1) + 1024
  requestTimeout := 10000
  serviceSecret

theorem persistentStorage_authority :
    persistentStorage authorityNode authorityURL (documentLimit 1) = .ok authorityStorage := by
  have hURL : authorityNode.parseURL authorityURL none =
      some ⟨authorityURL ++ js "/", js "http:", [], [], js "/", [], []⟩ := by
    simp only [authorityNode, if_true]
  unfold persistentStorage CoreAPIStorage.new
  simp only [bind_eq_ok, require_eq_ok, rejectIf_eq_ok]
  exact ⟨_, hURL, (), by decide +kernel, (), by decide +kernel, rfl⟩

/-- The claims of the first editor of the large document. -/
def authorityClaims : DocumentTicketClaims := exerciseClaims (uuid 2) 0 1700000000000

/-- The path of its state. -/
def authorityPath : JsString := joinParts '/' (pathSegments authorityClaims.room)

theorem request_authority (method : Method) (contentType body : Option JsString) :
    authorityStorage.request (documentScope authorityClaims) method contentType body =
      .ok ⟨authorityURL ++ js "/" ++ authorityPath, method, contentType,
        js "Bearer " ++ serviceSecret, uuid 10000, body⟩ := by
  have horganization : validUUID organizationId = true := by decide +kernel
  have hteam : validUUID teamId = true := by decide +kernel
  have hdocument : validUUID (uuid 2) = true := (validUUID_uuid 2).mpr (by decide)
  have hpath : statePath (documentScope authorityClaims) = some authorityPath :=
    statePath_eq_some horganization hteam hdocument
  rw [CoreAPIStorage.request, hpath]
  rfl

/-- A request of the storage in one piece. -/
def authorityArrived (method : Method) (body : Option JsString) : StateRequest :=
  ⟨js "/" ++ authorityPath, methodName method, none, [toBytes (body.getD [])]⟩

theorem arrives_authority (method : Method) (contentType body : Option JsString) :
    Arrives authorityStorage ⟨authorityURL ++ js "/" ++ authorityPath, method, contentType,
      js "Bearer " ++ serviceSecret, uuid 10000, body⟩ (authorityArrived method body) where
  url := List.append_assoc _ _ _
  method := rfl
  contentLength := nofun
  body := List.append_nil _

/-- The change is a byte 7. -/
def hasSeven (state : Bytes) : Bool := state.contains 7

/-- The text of the changed document. -/
def changedText : JsString := utf16 (stringifyObject (storedMembers [0, 7] ⟨[], []⟩))

theorem authority_serves_sample :
    (afterRequests authorityNode hasSeven (maxRequestBytes 1) ⟨[0], false⟩
      [authorityArrived .put (some changedText)]).changePersisted = true ∧
    authorityStorage.load authorityNode (documentScope authorityClaims) (fun _ => .ok
      ⟨200, none, some [toBytes (utf16 (stringifyObject (storedMembers [0, 7]
        exerciseProjections)))]⟩) =
      .ok ⟨js "<p>Capacity Document</p>", [0, 7], js "Capacity exercise"⟩ := by
  have hput : authorityStorage.put authorityNode (documentScope authorityClaims) [0, 7] ⟨[], []⟩ =
      .ok ⟨authorityURL ++ js "/" ++ authorityPath, .put, some (js "application/json"),
        js "Bearer " ++ serviceSecret, uuid 10000, some changedText⟩ := by
    unfold CoreAPIStorage.put
    simp only [bind_eq_ok]
    exact ⟨(), rfl, (), rfl, (), rfl, request_authority _ _ _⟩
  have hstore : Issues authorityNode authorityStorage
      (.store (documentScope authorityClaims) [0, 7] ⟨[], []⟩)
      (authorityArrived .put (some changedText)) :=
    ⟨List.cons_ne_nil _ _, _, hput, arrives_authority _ _ _⟩
  have hload : Issues authorityNode authorityStorage (.load (documentScope authorityClaims))
      (authorityArrived .get none) :=
    ⟨_, request_authority _ _ _, arrives_authority _ none none⟩
  have hsize : storedSize [0, 7] ⟨[], []⟩ ≤ maxRequestBytes 1 := by
    rw [storedSize, stored_length]
    decide
  have hheld : Held authorityNode hasSeven 1 ⟨[0], false⟩ := ⟨by decide, rfl, rfl⟩
  have hkept : ([0, 7] : Bytes) = [StateEvent.store (documentScope authorityClaims) [0, 7]
      ⟨[], []⟩].foldl (StateEvent.kept 1) [0] := by
    rw [List.foldl_cons, List.foldl_nil, StateEvent.kept, if_pos hsize]
  obtain ⟨hchanged, hloads, -⟩ := authority_serves authorityNode_laws persistentStorage_authority
    (List.Forall₂.cons hstore List.Forall₂.nil) hheld hkept rfl
  refine ⟨hchanged, hloads _ _ _ hload ?_⟩
  have hreply : handleStateRequest authorityNode hasSeven (maxRequestBytes 1)
      (afterRequests authorityNode hasSeven (maxRequestBytes 1) ⟨[0], false⟩
        [authorityArrived .put (some changedText)]) (authorityArrived .get none) =
      (⟨[0, 7], true⟩, stateReply ⟨[0, 7], true⟩) := by
    rw [handle_load hload, afterRequests, List.foldl_cons, List.foldl_nil,
      handle_store authorityNode_laws hstore, if_pos hsize]
    rfl
  rw [hreply]
  refine ⟨rfl, fun payload hpayload => ⟨_, rfl, ?_, fun n hn => ?_⟩⟩
  · rw [List.flatten_singleton]
    exact Option.some.inj hpayload
  · cases hn
    exact Nat.cast_nonneg _

end SocketServer.Collaboration.Capacity

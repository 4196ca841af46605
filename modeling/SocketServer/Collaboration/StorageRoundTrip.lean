import SocketServer.Collaboration.BoundedReading
import SocketServer.Collaboration.CanonicalState
import SocketServer.Collaboration.Server
import SocketServer.Library.JsonText

/-!
# Loading back what was stored

A state is stored when its raw bytes and its two projections are within `maxDocumentBytes`; it is
read back through one bound on the whole JSON text of the response.  `loadConfig` relates the two
by the base64 form of a maximal state alone.

* `stored_length`: the size of the JSON text, that is the base64 text, the two escaped projections
  and 48 bytes of framing;
* `load_stored_iff`: what was stored is loaded back exactly when that size is within the limit on
  responses.
-/

namespace SocketServer.Collaboration

open SocketServer.Text SocketServer.Js SocketServer.Checks

/-! ### The size of what is stored -/

/-- **The size of the JSON text.** -/
theorem stored_length (state : Bytes) (projections : DocumentProjections) :
    (utf8 (stringifyObject (storedMembers state projections))).length =
      48 + base64Length state.length + escapedLength projections.bodyHTML +
        escapedLength projections.title := by
  have hframe : stringifyObject (storedMembers state projections) =
      "\x7b\"body_html\":".toList ++ quote projections.bodyHTML ++
        ",\"canonical_state\":".toList ++ quote (toBase64 state) ++ ",\"title\":".toList ++
        quote projections.title ++ "\x7d".toList := by
    have hbody : escape (js "body_html") = "body_html".toList :=
      escape_plain _ (List.all_eq_true.mp (by decide))
    have hstate : escape (js "canonical_state") = "canonical_state".toList :=
      escape_plain _ (List.all_eq_true.mp (by decide))
    have htitle : escape (js "title") = "title".toList :=
      escape_plain _ (List.all_eq_true.mp (by decide))
    simp [stringifyObject, storedMembers, stringifyMember, quote, hbody, hstate, htitle]
  rw [hframe]
  simp only [utf8_append, List.length_append, utf8_quote_length, escapedLength_toBase64]
  have hopen : (utf8 "\x7b\"body_html\":".toList).length = 13 := by decide
  have hstate : (utf8 ",\"canonical_state\":".toList).length = 19 := by decide
  have htitle : (utf8 ",\"title\":".toList).length = 9 := by decide
  have hclose : (utf8 "\x7d".toList).length = 1 := by decide
  omega

/-! ### The round trip -/

/-- The parsed form of what was stored. -/
def storedValue (state : Bytes) (projections : DocumentProjections) : Json :=
  .object ((storedMembers state projections).map fun member => (member.1, .string member.2))

theorem documentStateResponse_storedValue (state : Bytes) (projections : DocumentProjections) :
    documentStateResponse (storedValue state projections) =
      some (projections.bodyHTML, toBase64 state, projections.title) := by
  have hbody : js "canonical_state" ≠ js "body_html" := by decide
  have htitle : js "title" ≠ js "body_html" := by decide
  have hstate : js "title" ≠ js "canonical_state" := by decide
  simp [documentStateResponse, storedValue, storedMembers, property, hbody, htitle, hstate]

theorem parseFlat_stored (state : Bytes) (projections : DocumentProjections) :
    parseFlat (utf16 (stringifyObject (storedMembers state projections))) =
      some (storedValue state projections) := by
  rw [stringifyObject_eq, parseFlat_stringify, List.map_map]
  rfl

/-- What a state has passed when its PUT is issued. -/
theorem put_eq_ok {runtime : Runtime} {storage : CoreAPIStorage} {scope : DocumentScope}
    {state : Bytes} {projections : DocumentProjections} {put : Request}
    (h : storage.put runtime scope state projections = .ok put) :
    validateYjsState runtime state = .ok () ∧ state.length ≤ storage.maxDocumentBytes ∧
      validateProjectionSize projections.title projections.bodyHTML storage.maxDocumentBytes
        = .ok () ∧
      ∃ get, storage.request scope .get none none = .ok get := by
  unfold CoreAPIStorage.put at h
  simp only [bind_eq_ok, rejectIf_eq_ok, not_lt] at h
  obtain ⟨_, hyjs, _, hsize, _, hprojections, hrequest⟩ := h
  refine ⟨hyjs, hsize, hprojections, ?_⟩
  unfold CoreAPIStorage.request at hrequest ⊢
  simp only [bind_eq_ok, require_eq_ok] at hrequest ⊢
  obtain ⟨path, hpath, -⟩ := hrequest
  exact ⟨_, path, hpath, rfl⟩

theorem storage_limits {runtime : Runtime} {config : CollaborationConfig}
    {storage : CoreAPIStorage}
    (h : CoreAPIStorage.new runtime (storageConfig config) = .ok storage) :
    storage.maxDocumentBytes = config.maxDocumentBytes ∧
      storage.maxResponseBytes = config.maxPersistenceResponseBytes := by
  unfold CoreAPIStorage.new at h
  simp only [bind_eq_ok, rejectIf_eq_ok] at h
  obtain ⟨baseURL, -, -, -, -, -, hreturn⟩ := h
  cases hreturn
  exact ⟨rfl, rfl⟩

/-- **When what was stored is loaded back.**  A state whose PUT was issued, answered later with
the same three fields as JSON in any number of chunks, is loaded back exactly when the whole text
(base64, escaped projections and framing) is within the limit on responses. -/
theorem load_stored_iff (runtime : Runtime) {config : CollaborationConfig}
    {storage : CoreAPIStorage} {scope : DocumentScope} {state : Bytes}
    {projections : DocumentProjections} {put : Request} {fetch : Fetch} {response : Response}
    {chunks : List Bytes}
    (hnew : CoreAPIStorage.new runtime (storageConfig config) = .ok storage)
    (hput : storage.put runtime scope state projections = .ok put)
    (hget : ∀ get, storage.request scope .get none none = .ok get → fetch get = .ok response)
    (hstatus : response.status = 200) (hbody : response.body = some chunks)
    (hchunks : chunks.flatten =
      toBytes (utf16 (stringifyObject (storedMembers state projections))))
    (hdeclared : ∀ n, declaredLength response = .finite n → n ≤ chunks.flatten.length)
    (hparse : runtime.jsonParse (utf16 (stringifyObject (storedMembers state projections))) =
      some (storedValue state projections))
    (hbase64 : runtime.fromBase64 (toBase64 state) = state) :
    storage.load runtime scope fetch =
        .ok ⟨projections.bodyHTML, state, projections.title⟩ ↔
      48 + base64Length state.length + escapedLength projections.bodyHTML +
        escapedLength projections.title ≤ config.maxPersistenceResponseBytes := by
  obtain ⟨hyjs, hsize, hprojections, get, hrequest⟩ := put_eq_ok hput
  have hlimit := (storage_limits hnew).2
  have htext : chunks.flatten = utf8 (stringifyObject (storedMembers state projections)) :=
    hchunks.trans (toBytes_utf16 _)
  have hlength : chunks.flatten.length = _ := (congrArg List.length htext).trans (stored_length _ _)
  have hsend : send fetch get = .ok response := by
    unfold send
    simp only [bind_eq_ok, rejectIf_eq_ok]
    exact ⟨response, hget get hrequest, (), by omega, rfl⟩
  rw [← hlimit, ← hlength]
  constructor
  · intro h
    by_contra hlarge
    unfold CoreAPIStorage.load at h
    simp only [bind_eq_ok] at h
    obtain ⟨get', hget', response', hresponse, value, hread, -⟩ := h
    obtain rfl : get = get' := Except.ok.inj (hrequest.symm.trans hget')
    obtain rfl : response = response' := Except.ok.inj (hsend.symm.trans hresponse)
    rw [readBoundedJSON_eq runtime hbody, readWhole_eq_ok] at hread
    exact hlarge hread.2.1
  · intro hfits
    have hread : readBoundedJSON runtime response storage.maxResponseBytes =
        .ok (storedValue state projections) := by
      rw [readBoundedJSON_eq runtime hbody, readWhole_eq_ok]
      refine ⟨fun n hn => ?_, hfits, ?_⟩
      · have hcast : (chunks.flatten.length : ℚ) ≤ storage.maxResponseBytes := by
          exact_mod_cast hfits
        exact (hdeclared n hn).trans hcast
      · rw [htext, utf8ToString_utf8, hparse]
    unfold CoreAPIStorage.load
    simp only [bind_eq_ok]
    refine ⟨get, hrequest, response, hsend, _, hread, ?_⟩
    refine ⟨_, require_eq_ok.mpr (documentStateResponse_storedValue state projections), ?_⟩
    exact ⟨(), hprojections, state, decodeCanonicalBase64_toBase64 runtime hbase64 hsize, (), hyjs,
      rfl⟩

/-! ### Storing and loading -/

/-- The text in which core-api answers with what was stored. -/
def storedText (state : Bytes) (projections : DocumentProjections) : Bytes :=
  utf8 (stringifyObject (storedMembers state projections))

/-- Node with the default URL of core-api. -/
def storageRuntime : Runtime where
  jsonParse := parseFlat
  fromBase64 := Base64.decode
  fromBase64url := Base64.decode
  hmacSha256 _ _ := []
  parseURL url _ :=
    if url = js "http://127.0.0.1:8080" then
      some ⟨js "http://127.0.0.1:8080/", js "http:", [], [], js "/", [], []⟩
    else none
  acceptsUpdate _ := true

/-- Store a document under an environment and load back what core-api answers. -/
def storeThenLoad (environment : Environment) (state : Bytes) (projections : DocumentProjections)
    (response : Response) : Except String (Except String StoredDocumentState) := do
  let config ← loadConfig environment
  let storage ← CoreAPIStorage.new storageRuntime (storageConfig config)
  let _ ← storage.put storageRuntime (documentScope sampleClaims) state projections
  return storage.load storageRuntime (documentScope sampleClaims) fun _ => .ok response

/-- A state, with a title and a body that JSON escapes. -/
def sampleState : Bytes := [0, 1, 2, 127, 128, 254, 255]

def sampleProjections : DocumentProjections where
  title := js "a \"b\" \\ é"
  bodyHTML := js "<p>c\n\td</p>"

/-- A text in three chunks. -/
def inChunks (text : Bytes) : List Bytes := [text.take 17, (text.drop 17).take 40, text.drop 57]

theorem inChunks_flatten (text : Bytes) : (inChunks text).flatten = text := by
  have hrest : (text.drop 17).take 40 ++ text.drop 57 = text.drop 17 := by
    rw [show 57 = 17 + 40 from rfl, ← List.drop_drop, List.take_append_drop]
  rw [inChunks, List.flatten_cons, List.flatten_cons, List.flatten_singleton, hrest,
    List.take_append_drop]

/-- core-api answers in chunks and declares their length. -/
def sampleResponse : Response where
  status := 200
  contentLength := some (js "86")
  body := some (inChunks (storedText sampleState sampleProjections))

theorem load_stored_iff_sample :
    ∃ (config : CollaborationConfig) (storage : CoreAPIStorage),
      loadConfig (fun _ => none) = .ok config ∧
      (storage.load storageRuntime (documentScope sampleClaims) (fun _ => .ok sampleResponse) =
          .ok ⟨sampleProjections.bodyHTML, sampleState, sampleProjections.title⟩ ↔
        48 + base64Length sampleState.length + escapedLength sampleProjections.bodyHTML +
          escapedLength sampleProjections.title ≤ config.maxPersistenceResponseBytes) ∧
      storage.load storageRuntime (documentScope sampleClaims) (fun _ => .ok sampleResponse) =
        .ok ⟨sampleProjections.bodyHTML, sampleState, sampleProjections.title⟩ := by
  have hrun : storeThenLoad (fun _ => none) sampleState sampleProjections sampleResponse =
      .ok (.ok ⟨sampleProjections.bodyHTML, sampleState, sampleProjections.title⟩) := by
    decide +kernel
  simp only [storeThenLoad, bind_eq_ok] at hrun
  obtain ⟨config, hconfig, storage, hnew, put, hput, hload⟩ := hrun
  have htext : (storedText sampleState sampleProjections).length = 86 := by decide +kernel
  have hlength : declaredLength sampleResponse = .finite 86 := by decide +kernel
  have hdeclared : ∀ n : ℚ, declaredLength sampleResponse = .finite n →
      n ≤ ((inChunks (storedText sampleState sampleProjections)).flatten.length : ℚ) := by
    intro n hn
    rw [hlength, JsNumber.finite.injEq] at hn
    rw [← hn, inChunks_flatten, htext]
    norm_num
  have hchunks : (inChunks (storedText sampleState sampleProjections)).flatten =
      toBytes (utf16 (stringifyObject (storedMembers sampleState sampleProjections))) := by
    rw [inChunks_flatten, storedText, toBytes_utf16]
  have hparse : storageRuntime.jsonParse = parseFlat := rfl
  refine ⟨config, storage, hconfig, load_stored_iff storageRuntime hnew hput (fun _ _ => rfl) rfl
    rfl hchunks hdeclared ?_ (Base64.decode_encode Base64.readable_standard _),
    Except.ok.inj hload⟩
  rw [hparse]
  exact parseFlat_stored _ _

/-- core-api answers with the empty document in one chunk. -/
def emptyResponse : Response := ⟨200, none, some [storedText [] ⟨[], []⟩]⟩

/-- An environment that `loadConfig` accepts: four bytes of response hold the base64 form of the
three bytes of a maximal document. -/
def tightEnvironment : Environment := fun name =>
  if name = "COLLABORATION_MAX_DOCUMENT_BYTES" then some (js "3")
  else if name = "COLLABORATION_MAX_PERSISTENCE_RESPONSE_BYTES" then some (js "4")
  else none

/-- **A document that stores but does not load.** -/
theorem tight_config_cannot_load :
    ∃ config storage put, loadConfig tightEnvironment = .ok config ∧
      CoreAPIStorage.new storageRuntime (storageConfig config) = .ok storage ∧
      storage.put storageRuntime (documentScope sampleClaims) [] ⟨[], []⟩ = .ok put ∧
      storage.load storageRuntime (documentScope sampleClaims) (fun _ => .ok emptyResponse) =
        .error "core-api Document state response exceeded the resource limit" := by
  have hrun : storeThenLoad tightEnvironment [] ⟨[], []⟩ emptyResponse =
      .ok (.error "core-api Document state response exceeded the resource limit") := by
    decide +kernel
  simp only [storeThenLoad, bind_eq_ok] at hrun
  obtain ⟨config, hconfig, storage, hnew, put, hput, hload⟩ := hrun
  exact ⟨config, storage, put, hconfig, hnew, hput, Except.ok.inj hload⟩

end SocketServer.Collaboration

import SocketServer.Collaboration.Config
import SocketServer.Collaboration.Runtime
import SocketServer.Library.Base64
import SocketServer.Library.Uri

/-!
# The document store of core-api

`CoreAPIStorage` (`collaboration/src/storage.ts`): the constructor with its checks, the requests it
sends, and the checks on what it loads and stores.  The network is a function from the request to
the response, or to the error of a failed `fetch`.

`storageConfig` is what `createCollaborationServer` passes to the constructor for a loaded
configuration.
-/

namespace SocketServer.Collaboration

open SocketServer.Text SocketServer.Js SocketServer.Checks

structure DocumentScope where
  documentId : JsString
  editorId : JsString
  organizationId : JsString
  teamId : JsString
  deriving DecidableEq

structure DocumentProjections where
  bodyHTML : JsString
  title : JsString

structure CoreAPIStorageConfig where
  baseURL : JsString
  maxDocumentBytes : Option ℕ
  maxResponseBytes : Option ℕ
  requestTimeout : Option ℕ
  serviceSecret : JsString

structure StoredDocumentState where
  bodyHTML : JsString
  canonicalState : Bytes
  title : JsString
  deriving DecidableEq

structure CoreAPIStorage where
  baseURL : JsString
  maxDocumentBytes : ℕ
  maxResponseBytes : ℕ
  requestTimeout : ℕ
  serviceSecret : JsString

inductive Method where
  | get
  | put
  deriving DecidableEq

/-- A request as it is handed to `fetch`. -/
structure Request where
  url : JsString
  method : Method
  contentType : Option JsString
  authorization : JsString
  editorId : JsString
  body : Option JsString

/-- A response: its status, the `content-length` header, and the chunks of its body. -/
structure Response where
  status : ℕ
  contentLength : Option JsString
  body : Option (List Bytes)

/-- `fetch`: the response, or the error it rejects with. -/
abbrev Fetch := Request → Except String Response

/-! ### The constructor -/

/-- `s.replace(/\/$/, "")`. -/
def dropTrailingSlash (s : JsString) : JsString :=
  if s.getLast? = some (unit '/') then s.dropLast else s

/-- `new CoreAPIStorage(config)`. -/
def CoreAPIStorage.new (runtime : Runtime) (config : CoreAPIStorageConfig) :
    Except String CoreAPIStorage := do
  let baseURL ← require (runtime.parseURL config.baseURL none) "Invalid URL"
  rejectIf (¬ (baseURL.protocol = js "http:" ∨ baseURL.protocol = js "https:") ∨
      baseURL.username ≠ [] ∨ baseURL.password ≠ [] ∨ baseURL.search ≠ [] ∨ baseURL.hash ≠ [])
    "CORE_API_INTERNAL_URL must be an HTTP origin or base URL"
  rejectIf (byteLength config.serviceSecret < 32)
    "COLLABORATION_SERVICE_SECRET must contain at least 32 bytes"
  return {
    baseURL := dropTrailingSlash baseURL.href
    maxDocumentBytes := config.maxDocumentBytes.getD (6 * 1024 * 1024)
    maxResponseBytes := config.maxResponseBytes.getD (16 * 1024 * 1024)
    requestTimeout := config.requestTimeout.getD 2000
    serviceSecret := config.serviceSecret }

/-- The storage configuration that `createCollaborationServer` makes of a loaded configuration. -/
def storageConfig (config : CollaborationConfig) : CoreAPIStorageConfig where
  baseURL := config.coreAPIURL
  maxDocumentBytes := some config.maxDocumentBytes
  maxResponseBytes := some config.maxPersistenceResponseBytes
  requestTimeout := some config.dependencyTimeout
  serviceSecret := config.collaborationServiceSecret

/-! ### Requests -/

/-- The path of a document's state below the base URL. -/
def statePath (scope : DocumentScope) : Option JsString := do
  let organizationId ← encodeURIComponent scope.organizationId
  let teamId ← encodeURIComponent scope.teamId
  let documentId ← encodeURIComponent scope.documentId
  return js "internal/v1/orgs/" ++ organizationId ++ js "/teams/" ++ teamId ++
    js "/documents/" ++ documentId ++ js "/state"

/-- The request that `request` hands to `fetch`. -/
def CoreAPIStorage.request (storage : CoreAPIStorage) (scope : DocumentScope) (method : Method)
    (contentType body : Option JsString) : Except String Request := do
  let path ← require (statePath scope) "URI malformed"
  return {
    url := storage.baseURL ++ js "/" ++ path
    method
    contentType
    authorization := js "Bearer " ++ storage.serviceSecret
    editorId := scope.editorId
    body }

/-- The rest of `request`: the response, unless its status is not a success. -/
def send (fetch : Fetch) (request : Request) : Except String Response := do
  let response ← fetch request
  rejectIf (response.status < 200 ∨ 299 < response.status)
    ("core-api Document state request failed with status " ++ toString response.status)
  return response

/-! ### Checks -/

def validateYjsState (runtime : Runtime) (state : Bytes) : Except String Unit :=
  rejectIf (state ≠ [] ∧ runtime.acceptsUpdate state = false) "invalid encoded Yjs Document state"

def validateProjectionSize (title bodyHTML : JsString) (maxBytes : ℕ) : Except String Unit :=
  rejectIf (maxBytes < byteLength title ∨ maxBytes < byteLength bodyHTML)
    "Document resource limit exceeded"

/-- A code unit of the base64 alphabet. -/
def isAlphabet (code : UInt16) : Bool :=
  let n := code.toNat
  (65 ≤ n && n ≤ 90) || (97 ≤ n && n ≤ 122) || (48 ≤ n && n ≤ 57) || n = 43 || n = 47

def hasBase64Shape (value : JsString) : Bool :=
  if value.length % 4 ≠ 0 then false
  else
    let padding := if (js "==").isSuffixOf value then 2 else if (js "=").isSuffixOf value then 1 else 0
    let contentLength := value.length - padding
    (value.take contentLength).all isAlphabet &&
      (value.drop contentLength).all fun code => code = unit '='

/-- `buffer.toString("base64")`. -/
def toBase64 (bytes : Bytes) : JsString := utf16 (Base64.encode Base64.standard ['='] bytes)

def decodeCanonicalBase64 (runtime : Runtime) (value : JsString) (maxBytes : ℕ) :
    Except String Bytes :=
  if value = [] then .ok []
  else do
    rejectIf (base64Length maxBytes < value.length) "Document resource limit exceeded"
    rejectIf (hasBase64Shape value = false)
      "core-api returned an invalid Document state response"
    let decoded := runtime.fromBase64 value
    rejectIf (maxBytes < decoded.length) "Document resource limit exceeded"
    rejectIf (toBase64 decoded ≠ value) "core-api returned an invalid Document state response"
    return decoded

/-- The loop over the chunks of a body: `bytes` of them have been read into `chunks`. -/
def readChunks (maxBytes bytes : ℕ) (chunks : List Bytes) :
    List Bytes → Except String (List Bytes)
  | [] => .ok chunks
  | chunk :: rest =>
      if maxBytes < bytes + chunk.length then
        .error "core-api Document state response exceeded the resource limit"
      else readChunks maxBytes (bytes + chunk.length) (chunks ++ [chunk]) rest

/-- `Number(response.headers.get("content-length"))`; a missing header is `null`, which is 0. -/
def declaredLength (response : Response) : JsNumber :=
  match response.contentLength with
  | none => .finite 0
  | some header => number header

/-- `Number.isFinite(contentLength) && contentLength > maxBytes`. -/
def exceeds (contentLength : JsNumber) (maxBytes : ℕ) : Bool :=
  match contentLength with
  | .finite value => decide ((maxBytes : ℚ) < value)
  | _ => false

def readBoundedJSON (runtime : Runtime) (response : Response) (maxBytes : ℕ) :
    Except String Json := do
  rejectIf (exceeds (declaredLength response) maxBytes = true)
    "core-api Document state response exceeded the resource limit"
  let body ← require response.body "core-api returned an invalid Document state response"
  let chunks ← readChunks maxBytes 0 [] body
  require (runtime.jsonParse (utf8ToString chunks.flatten))
    "core-api returned an invalid Document state response"

/-- `isDocumentStateResponse`, with the three fields it finds: `body_html`, `canonical_state` and
`title`. -/
def documentStateResponse : Json → Option (JsString × JsString × JsString)
  | .object members =>
      match property members "body_html", property members "canonical_state",
          property members "title" with
      | some (.string bodyHTML), some (.string canonicalState), some (.string title) =>
          some (bodyHTML, canonicalState, title)
      | _, _, _ => none
  | _ => none

/-! ### Loading and storing -/

def CoreAPIStorage.load (runtime : Runtime) (storage : CoreAPIStorage) (scope : DocumentScope)
    (fetch : Fetch) : Except String StoredDocumentState := do
  let request ← storage.request scope .get none none
  let response ← send fetch request
  let payload ← readBoundedJSON runtime response storage.maxResponseBytes
  let (bodyHTML, canonicalState, title) ← require (documentStateResponse payload)
    "core-api returned an invalid Document state response"
  validateProjectionSize title bodyHTML storage.maxDocumentBytes
  let canonicalState ← decodeCanonicalBase64 runtime canonicalState storage.maxDocumentBytes
  validateYjsState runtime canonicalState
  return { bodyHTML, canonicalState, title }

/-- The members of the JSON object that a state is stored as. -/
def storedMembers (state : Bytes) (projections : DocumentProjections) :
    List (JsString × JsString) :=
  [(js "body_html", projections.bodyHTML), (js "canonical_state", toBase64 state),
    (js "title", projections.title)]

/-- `store` up to its `fetch`: the PUT request, once every check has passed. -/
def CoreAPIStorage.put (runtime : Runtime) (storage : CoreAPIStorage) (scope : DocumentScope)
    (state : Bytes) (projections : DocumentProjections) : Except String Request := do
  validateYjsState runtime state
  rejectIf (storage.maxDocumentBytes < state.length) "Document resource limit exceeded"
  validateProjectionSize projections.title projections.bodyHTML storage.maxDocumentBytes
  storage.request scope .put (some (js "application/json"))
    (some (utf16 (stringifyObject (storedMembers state projections))))

def CoreAPIStorage.store (runtime : Runtime) (storage : CoreAPIStorage) (scope : DocumentScope)
    (state : Bytes) (projections : DocumentProjections) (fetch : Fetch) : Except String Unit := do
  let request ← storage.put runtime scope state projections
  let _ ← send fetch request
  return ()

end SocketServer.Collaboration

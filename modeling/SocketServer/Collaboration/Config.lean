import SocketServer.Library.Checks
import SocketServer.Library.JsNumber

/-!
# The configuration of the collaboration server

`loadConfig` (`collaboration/src/config.ts`): every variable with its default, its check and its
error text, in the order in which the source reads them.  Sizes and times are natural numbers,
since `readPositiveInteger` accepts safe integers above zero only (`readPositiveInteger_pos`).

`loadConfig_reads` says which variables the fields that guard sessions come from.
-/

namespace SocketServer.Collaboration

open SocketServer.Text SocketServer.Js SocketServer.Checks

/-- `process.env`. -/
abbrev Environment := String → Option JsString

structure CollaborationConfig where
  address : JsString
  allowedOrigins : List JsString
  authenticationTimeout : ℕ
  collaborationServiceSecret : JsString
  coreAPIURL : JsString
  dependencyTimeout : ℕ
  maxAuthenticatedQueueBytes : ℕ
  maxAuthenticatedQueueMessages : ℕ
  maxBackpressureBytes : ℕ
  maxDocumentBytes : ℕ
  maxPendingDocuments : ℕ
  maxPersistenceResponseBytes : ℕ
  maxUnauthenticatedQueueBytes : ℕ
  maxUnauthenticatedQueueMessages : ℕ
  maxWebSocketMessageBytes : ℕ
  persistenceDebounce : ℕ
  persistenceMaxDebounce : ℕ
  port : ℕ
  redisURL : JsString
  ticketSecret : JsString

def defaultAllowedOrigins : List JsString :=
  [js "http://localhost:10000", js "http://127.0.0.1:10000", js "http://localhost:3000",
    js "http://127.0.0.1:3000"]

def defaultTicketSecret : JsString := js "development-socket-ticket-secret-change-me"

def defaultCollaborationServiceSecret : JsString :=
  js "development-collaboration-service-secret-change-me"

/-- A safe integer above zero. -/
def readPositiveInteger (value : Option JsString) (name : String) (fallback : ℕ) :
    Except String ℕ :=
  match value with
  | none => .ok fallback
  | some text =>
      match number text with
      | .finite parsed =>
          if ¬ (JsNumber.finite parsed).isSafeInteger ∨ parsed ≤ 0 then
            .error (name ++ " must be a positive integer")
          else .ok parsed.num.toNat
      | _ => .error (name ++ " must be a positive integer")

def readPort (value : Option JsString) : Except String ℕ :=
  match value with
  | none => .ok 8082
  | some text =>
      match number text with
      | .finite port =>
          if ¬ (JsNumber.finite port).isInteger ∨ port < 1 ∨ 65535 < port then
            .error "COLLABORATION_PORT must be an integer from 1 to 65535"
          else .ok port.num.toNat
      | _ => .error "COLLABORATION_PORT must be an integer from 1 to 65535"

def readOrigins (value : Option JsString) : Except String (List JsString) :=
  match value with
  | none => .ok defaultAllowedOrigins
  | some text =>
      let origins := ((split ',' text).map trim).filter (· ≠ [])
      if origins = [] then .error "SOCKET_ALLOWED_ORIGINS must contain at least one origin"
      else .ok origins

/-- `Math.ceil(bytes / 3) * 4`.  For a safe integer the double division rounds below the next
integer, so the ceiling is that of the exact quotient, and four times it is exact. -/
def base64Length (bytes : ℕ) : ℕ := (bytes + 2) / 3 * 4

/-- One variable that holds a positive integer. -/
def readLimit (environment : Environment) (name : String) (fallback : ℕ) : Except String ℕ :=
  readPositiveInteger (environment name) name fallback

def loadConfig (environment : Environment) : Except String CollaborationConfig := do
  let maxDocumentBytes ←
    readLimit environment "COLLABORATION_MAX_DOCUMENT_BYTES" (6 * 1024 * 1024)
  let maxWebSocketMessageBytes ←
    readLimit environment "COLLABORATION_MAX_WEBSOCKET_MESSAGE_BYTES" (6 * 1024 * 1024)
  rejectIf (maxWebSocketMessageBytes < maxDocumentBytes)
    "COLLABORATION_MAX_WEBSOCKET_MESSAGE_BYTES must be at least COLLABORATION_MAX_DOCUMENT_BYTES"
  let allowedOrigins ← readOrigins (environment "SOCKET_ALLOWED_ORIGINS")
  let authenticationTimeout ←
    readLimit environment "COLLABORATION_AUTHENTICATION_TIMEOUT_MS" 60000
  let dependencyTimeout ← readLimit environment "COLLABORATION_DEPENDENCY_TIMEOUT_MS" 2000
  let maxAuthenticatedQueueBytes ←
    readLimit environment "COLLABORATION_MAX_AUTHENTICATED_QUEUE_BYTES" (12 * 1024 * 1024)
  let maxAuthenticatedQueueMessages ←
    readLimit environment "COLLABORATION_MAX_AUTHENTICATED_QUEUE_MESSAGES" 64
  let maxBackpressureBytes ←
    readLimit environment "COLLABORATION_MAX_BACKPRESSURE_BYTES" (8 * 1024 * 1024)
  let maxPendingDocuments ← readLimit environment "COLLABORATION_MAX_PENDING_DOCUMENTS" 1
  let maxPersistenceResponseBytes ←
    readLimit environment "COLLABORATION_MAX_PERSISTENCE_RESPONSE_BYTES" (16 * 1024 * 1024)
  let maxUnauthenticatedQueueBytes ←
    readLimit environment "COLLABORATION_MAX_UNAUTHENTICATED_QUEUE_BYTES" (256 * 1024)
  let maxUnauthenticatedQueueMessages ←
    readLimit environment "COLLABORATION_MAX_UNAUTHENTICATED_QUEUE_MESSAGES" 64
  let persistenceDebounce ← readLimit environment "COLLABORATION_PERSISTENCE_DEBOUNCE_MS" 2000
  let persistenceMaxDebounce ←
    readLimit environment "COLLABORATION_PERSISTENCE_MAX_DEBOUNCE_MS" 10000
  let port ← readPort (environment "COLLABORATION_PORT")
  rejectIf (maxPersistenceResponseBytes < base64Length maxDocumentBytes)
    "COLLABORATION_MAX_PERSISTENCE_RESPONSE_BYTES must hold a base64-encoded maximum Document"
  rejectIf (persistenceMaxDebounce < persistenceDebounce)
    "COLLABORATION_PERSISTENCE_MAX_DEBOUNCE_MS must be at least COLLABORATION_PERSISTENCE_DEBOUNCE_MS"
  return {
    address := (environment "COLLABORATION_HOST").getD (js "0.0.0.0")
    allowedOrigins
    authenticationTimeout
    collaborationServiceSecret :=
      (environment "COLLABORATION_SERVICE_SECRET").getD defaultCollaborationServiceSecret
    coreAPIURL := (environment "CORE_API_INTERNAL_URL").getD (js "http://127.0.0.1:8080")
    dependencyTimeout
    maxAuthenticatedQueueBytes
    maxAuthenticatedQueueMessages
    maxBackpressureBytes
    maxDocumentBytes
    maxPendingDocuments
    maxPersistenceResponseBytes
    maxUnauthenticatedQueueBytes
    maxUnauthenticatedQueueMessages
    maxWebSocketMessageBytes
    persistenceDebounce
    persistenceMaxDebounce
    port
    redisURL := (environment "REDIS_URL").getD (js "redis://127.0.0.1:6379/0")
    ticketSecret := (environment "JWT_SECRET").getD defaultTicketSecret }

/-! ### What an accepted configuration satisfies -/

theorem readPositiveInteger_pos {value : Option JsString} {name : String} {fallback n : ℕ}
    (hfallback : 0 < fallback) (h : readPositiveInteger value name fallback = .ok n) : 0 < n := by
  unfold readPositiveInteger at h
  split at h
  · cases h
    exact hfallback
  · split at h
    · rename_i parsed _
      split at h
      · cases h
      · rename_i hok
        cases h
        have hpos : 0 < parsed := not_le.mp (not_or.mp hok).2
        have hnum : 0 < parsed.num := Rat.num_pos.mpr hpos
        omega
    · cases h

/-- What a variable that holds a positive integer is read as. -/
def limitOf (environment : Environment) (name : String) (fallback : ℕ) : ℕ :=
  match readLimit environment name fallback with
  | .ok n => n
  | .error _ => fallback

theorem limitOf_eq {environment : Environment} {name : String} {fallback n : ℕ}
    (h : readLimit environment name fallback = .ok n) : limitOf environment name fallback = n := by
  rw [limitOf, h]

/-- What the fields that guard sessions are read from. -/
theorem loadConfig_reads {environment : Environment} {config : CollaborationConfig}
    (h : loadConfig environment = .ok config) :
    (config.maxDocumentBytes =
        limitOf environment "COLLABORATION_MAX_DOCUMENT_BYTES" (6 * 1024 * 1024) ∧
      config.maxWebSocketMessageBytes =
        limitOf environment "COLLABORATION_MAX_WEBSOCKET_MESSAGE_BYTES" (6 * 1024 * 1024) ∧
      config.maxAuthenticatedQueueBytes =
        limitOf environment "COLLABORATION_MAX_AUTHENTICATED_QUEUE_BYTES" (12 * 1024 * 1024) ∧
      config.maxBackpressureBytes =
        limitOf environment "COLLABORATION_MAX_BACKPRESSURE_BYTES" (8 * 1024 * 1024)) ∧
    0 < config.maxAuthenticatedQueueMessages ∧
    readOrigins (environment "SOCKET_ALLOWED_ORIGINS") = .ok config.allowedOrigins ∧
    config.ticketSecret = (environment "JWT_SECRET").getD defaultTicketSecret := by
  unfold loadConfig at h
  simp only [bind_eq_ok, rejectIf_eq_ok] at h
  obtain ⟨maxDocumentBytes, hdocument, maxWebSocketMessageBytes, hmessage, -, -, allowedOrigins,
    horigins, authenticationTimeout, -, dependencyTimeout, -, maxAuthenticatedQueueBytes, hqueue,
    maxAuthenticatedQueueMessages, hmessages, maxBackpressureBytes, hbackpressure,
    maxPendingDocuments, -, maxPersistenceResponseBytes, -, maxUnauthenticatedQueueBytes, -,
    maxUnauthenticatedQueueMessages, -, persistenceDebounce, -, persistenceMaxDebounce, -, port, -,
    -, -, -, -, hreturn⟩ := h
  cases hreturn
  exact ⟨⟨(limitOf_eq hdocument).symm, (limitOf_eq hmessage).symm, (limitOf_eq hqueue).symm,
    (limitOf_eq hbackpressure).symm⟩, readPositiveInteger_pos (by norm_num) hmessages, horigins, rfl⟩

end SocketServer.Collaboration

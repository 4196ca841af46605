import SocketServer.Collaboration.Config
import SocketServer.Collaboration.InboundQueue
import SocketServer.Collaboration.SlowSessions

/-!
# Messages of the largest allowed size

`connected` (`collaboration/src/server.ts`) puts two guards around a session, with the limits
`maxAuthenticatedQueueBytes` and `maxBackpressureBytes` of the configuration.  `loadConfig` relates
`maxWebSocketMessageBytes` and `maxPersistenceResponseBytes` to `maxDocumentBytes`, but neither of
these two limits to anything.

* `admitsLargest_iff` and `sendsLargest_iff`: when a guard lets a message of the largest size
  through an idle session;
* `largest_messages_pass_iff`: the condition on the environment.
-/

namespace SocketServer.Collaboration

open SocketServer.Text SocketServer.Js SocketServer.Checks

/-- A message within the limit that arrives at an open session with nothing queued is handed on, and
the session stays open. -/
def AdmitsLargest (config : CollaborationConfig) : Prop :=
  ∀ as q, Runs.run (inboundStep config.maxAuthenticatedQueueBytes
      config.maxAuthenticatedQueueMessages) protectInboundQueue as = some q →
    q.closed = false → q.outstanding = [] → ∀ data : Bytes,
      data.length ≤ config.maxWebSocketMessageBytes →
        (q.handleMessage config.maxAuthenticatedQueueBytes config.maxAuthenticatedQueueMessages
          data).handed = q.handed ++ [data] ∧
        (q.handleMessage config.maxAuthenticatedQueueBytes config.maxAuthenticatedQueueMessages
          data).closeEvents = []

/-- A document within the limit that is sent on a protected socket while `bufferedAmount` is zero,
and that adds at most its length to it, does not make a wrapper close the socket. -/
def SendsLargest (config : CollaborationConfig) : Prop :=
  ∀ as s, Runs.run (socketStep config.maxBackpressureBytes) .raw as = some s →
    ∀ (data : Bytes) (before after : ℕ → Option ℕ), data.length ≤ config.maxDocumentBytes →
      (∀ i, (before i).getD 0 = 0) → (∀ i, (after i).getD 0 ≤ data.length) →
        closes (s.send config.maxBackpressureBytes data before after).events = closes s.events

/-! ### The inbound queue -/

/-- A session with nothing queued admits what is within its limits. -/
theorem fits_of_idle {maxBytes maxMessages : ℕ} {q : InboundQueue} (hidle : q.outstanding = [])
    (hmessages : 0 < maxMessages) {data : Bytes} :
    q.Fits maxBytes maxMessages data ↔ data.length ≤ maxBytes := by
  rw [InboundQueue.Fits, hidle]
  show 0 + data.length ≤ maxBytes ∧ 0 + 1 ≤ maxMessages ↔ _
  omega

theorem admitsLargest_iff {config : CollaborationConfig}
    (hmessages : 0 < config.maxAuthenticatedQueueMessages) :
    AdmitsLargest config ↔ config.maxWebSocketMessageBytes ≤ config.maxAuthenticatedQueueBytes := by
  constructor
  · intro h
    have hfirst := h [] protectInboundQueue rfl rfl rfl
      (List.replicate config.maxWebSocketMessageBytes 0) (by rw [List.length_replicate])
    by_contra hlarge
    have hfits : ¬ protectInboundQueue.Fits config.maxAuthenticatedQueueBytes
        config.maxAuthenticatedQueueMessages
        (List.replicate config.maxWebSocketMessageBytes 0) := by
      rw [fits_of_idle rfl hmessages, List.length_replicate]
      exact hlarge
    rw [handleMessage_of_not_fits accounted_initial rfl hfits] at hfirst
    exact absurd hfirst.2 (List.cons_ne_nil _ _)
  · intro hrelated as q hrun hopen hidle data hdata
    have haccounted : q.Accounted config.maxAuthenticatedQueueBytes
        config.maxAuthenticatedQueueMessages :=
      Runs.invariant_run (inboundStep config.maxAuthenticatedQueueBytes
          config.maxAuthenticatedQueueMessages)
        (fun _ _ _ hs hstep => accounted_step hs hstep) accounted_initial hrun
    have hcloses : q.closeEvents = [] := by
      rw [haccounted.closes, hopen]
      rfl
    rw [handleMessage_of_fits haccounted hopen
      ((fits_of_idle hidle hmessages).mpr (hdata.trans hrelated))]
    exact ⟨List.map_append, hcloses⟩

/-! ### The socket -/

/-- Without a reading above the limit there is no check above it. -/
theorem slowChecks_eq_zero {maxBackpressureBytes : ℕ} (wrappers : List Bool)
    {before after : ℕ → Option ℕ}
    (hbefore : ∀ i, isAbove maxBackpressureBytes (before i) = false)
    (hafter : ∀ i, isAbove maxBackpressureBytes (after i) = false) :
    slowChecks maxBackpressureBytes wrappers before after = 0 := by
  induction wrappers generalizing before after with
  | nil => rfl
  | cons closed inner ih =>
      cases closed with
      | true => exact slowChecks_closed inner before after
      | false =>
          rw [slowChecks_passed (hbefore 0), hafter 0,
            ih (fun i => hbefore (i + 1)) (fun i => hafter (i + 1))]
          rfl

theorem closes_send {maxBackpressureBytes : ℕ} (s : BackpressureSocket) (data : Bytes)
    (before after : ℕ → Option ℕ) :
    closes (s.send maxBackpressureBytes data before after).events =
      closes s.events + slowChecks maxBackpressureBytes s.wrappers before after :=
  (socketStep_closes (a := .send data before after) rfl).2.1

/-- One wrapper, a send that leaves its own length behind. -/
theorem slowChecks_single {maxBackpressureBytes n : ℕ} (h : maxBackpressureBytes < n) :
    slowChecks maxBackpressureBytes [false] (fun _ => some 0) (fun _ => some n) = 1 := by
  have habove : isAbove maxBackpressureBytes (some n) = true := decide_eq_true h
  rw [slowChecks_passed rfl, habove]
  rfl

theorem sendsLargest_iff {config : CollaborationConfig} :
    SendsLargest config ↔ config.maxDocumentBytes ≤ config.maxBackpressureBytes := by
  constructor
  · intro h
    have hfirst := h [.protect none] ⟨[false], [], []⟩ rfl
      (List.replicate config.maxDocumentBytes 0) (fun _ => some 0)
      (fun _ => some config.maxDocumentBytes) (by rw [List.length_replicate]) (fun _ => rfl)
      (fun _ => by rw [List.length_replicate]; exact le_rfl)
    by_contra hlarge
    rw [closes_send, slowChecks_single (not_le.mp hlarge)] at hfirst
    omega
  · intro hrelated as s hrun data before after hdata hbefore hafter
    have hbelow : ∀ i, isAbove config.maxBackpressureBytes (before i) = false := by
      intro i
      rw [isAbove, hbefore i]
      exact decide_eq_false (Nat.not_lt_zero _)
    have hstill : ∀ i, isAbove config.maxBackpressureBytes (after i) = false := by
      intro i
      have hle := hafter i
      exact decide_eq_false (by omega)
    rw [closes_send, slowChecks_eq_zero s.wrappers hbelow hstill, Nat.add_zero]

/-! ### The configuration -/

/-- The two relations that `loadConfig` does not check. -/
def LimitsRelated (environment : Environment) : Prop :=
  limitOf environment "COLLABORATION_MAX_WEBSOCKET_MESSAGE_BYTES" (6 * 1024 * 1024) ≤
      limitOf environment "COLLABORATION_MAX_AUTHENTICATED_QUEUE_BYTES" (12 * 1024 * 1024) ∧
    limitOf environment "COLLABORATION_MAX_DOCUMENT_BYTES" (6 * 1024 * 1024) ≤
      limitOf environment "COLLABORATION_MAX_BACKPRESSURE_BYTES" (8 * 1024 * 1024)

/-- **Messages of the largest allowed size pass** under an accepted environment exactly when it
relates the limits of the two guards to those of messages and documents. -/
theorem largest_messages_pass_iff {environment : Environment} {config : CollaborationConfig}
    (h : loadConfig environment = .ok config) :
    AdmitsLargest config ∧ SendsLargest config ↔ LimitsRelated environment := by
  obtain ⟨⟨hdocument, hmessage, hqueue, hbackpressure⟩, hmessages, -⟩ := loadConfig_reads h
  rw [admitsLargest_iff hmessages, sendsLargest_iff, LimitsRelated, ← hdocument, ← hmessage,
    ← hqueue, ← hbackpressure]

/-- The defaults relate them. -/
theorem largest_messages_pass_iff_default :
    ∃ config, loadConfig (fun _ => none) = .ok config ∧ AdmitsLargest config ∧
      SendsLargest config := by
  have hloaded : (loadConfig fun _ => none).isOk = true := by decide +kernel
  obtain ⟨config, h⟩ := isOk_iff.mp hloaded
  exact ⟨config, h, (largest_messages_pass_iff h).mpr ⟨by decide, by decide⟩⟩

/-- An environment that raises the limit of documents, and that of messages with it. -/
def raisedEnvironment : Environment := fun name =>
  if name = "COLLABORATION_MAX_DOCUMENT_BYTES" then some (js "10485760")
  else if name = "COLLABORATION_MAX_WEBSOCKET_MESSAGE_BYTES" then some (js "10485760")
  else none

/-- A document of ten mebibytes. -/
def tenMebibytes : Bytes := List.replicate 10485760 0

/-- **A document within the limit that closes the socket** it is sent on. -/
theorem raised_limit_closes :
    ∃ config, loadConfig raisedEnvironment = .ok config ∧
      tenMebibytes.length ≤ config.maxDocumentBytes ∧
      closes ((protectSlowEditingSession config.maxBackpressureBytes .raw none).send
        config.maxBackpressureBytes tenMebibytes (fun _ => some 0)
        (fun _ => some tenMebibytes.length)).events = 1 := by
  have hlength : tenMebibytes.length = 10485760 := List.length_replicate
  have hloaded : (loadConfig raisedEnvironment).isOk = true := by decide +kernel
  obtain ⟨config, h⟩ := isOk_iff.mp hloaded
  obtain ⟨⟨hdocument, -, -, hbackpressure⟩, -⟩ := loadConfig_reads h
  have hread : limitOf raisedEnvironment "COLLABORATION_MAX_DOCUMENT_BYTES"
      (6 * 1024 * 1024) = 10485760 := by decide +kernel
  have hlimit : config.maxBackpressureBytes < tenMebibytes.length := by
    rw [hbackpressure, hlength]
    decide +kernel
  refine ⟨config, h, by rw [hlength, hdocument, hread], ?_⟩
  rw [closes_send]
  show 0 + slowChecks config.maxBackpressureBytes [false] _ _ = 1
  rw [Nat.zero_add]
  exact slowChecks_single hlimit

end SocketServer.Collaboration

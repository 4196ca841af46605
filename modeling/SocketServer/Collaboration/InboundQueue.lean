import SocketServer.Collaboration.ResourceLimits
import SocketServer.Library.Runs
import Mathlib.Algebra.BigOperators.Group.List.Basic
import Mathlib.Algebra.Order.Ring.Int

/-!
# Inbound work of an editing session

`protectInboundQueue` (`collaboration/src/resource-limits.ts`) wraps `handleMessage` of an editing
session.  A message is handed on when it fits two limits; what was handed on counts against them
until its wait settles, in whatever order the waits settle.

`InboundQueue` holds the three variables of the closure.  `accepted` and `closeEvents` are ghosts, the
messages handed on with the state of their waits and the calls of `close`; no branch reads them,
except that a wait which has settled does not settle again.

* `Accounted`: the counters are the size and the number of the messages that are outstanding, within
  the limits, and the socket was closed once if it was closed;
* `accounted_step`: every step keeps this;
* `inbound_work_accounted`: what follows for every run.
-/

namespace SocketServer.Collaboration

open SocketServer.Text

/-! ### The wrapper -/

/-- The promise of `waitForPendingMessages`. -/
inductive Wait where
  | pending
  | fulfilled
  | rejected
  deriving DecidableEq

/-- A message that was handed on. -/
structure AcceptedMessage where
  data : Bytes
  wait : Wait
  deriving DecidableEq

structure InboundQueue where
  queuedBytes : ℤ
  queuedMessages : ℤ
  closed : Bool
  accepted : List AcceptedMessage
  closeEvents : List CloseEvent
  deriving DecidableEq

/-- The variables that `protectInboundQueue` starts with. -/
def protectInboundQueue : InboundQueue := ⟨0, 0, false, [], []⟩

def tooQuickly : CloseEvent := ⟨1008, "Editing Session sent messages too quickly"⟩

/-- `editingSession.handleMessage`. -/
def InboundQueue.handleMessage (maxBytes maxMessages : ℕ) (q : InboundQueue) (data : Bytes) :
    InboundQueue :=
  if q.closed then q
  else if (maxBytes : ℤ) < q.queuedBytes + data.length ∨
      (maxMessages : ℤ) < q.queuedMessages + 1 then
    { q with closed := true, closeEvents := q.closeEvents ++ [tooQuickly] }
  else
    { q with
      queuedBytes := q.queuedBytes + data.length
      queuedMessages := q.queuedMessages + 1
      accepted := q.accepted ++ [⟨data, .pending⟩] }

/-- The wait of the message at a position settles, and its `finally` runs. -/
def InboundQueue.settle (q : InboundQueue) (i : ℕ) (fulfilled : Bool) : Option InboundQueue :=
  match q.accepted[i]? with
  | some ⟨data, .pending⟩ =>
      some { q with
        queuedBytes := q.queuedBytes - data.length
        queuedMessages := q.queuedMessages - 1
        accepted := q.accepted.set i ⟨data, if fulfilled then .fulfilled else .rejected⟩ }
  | _ => none

inductive InboundAction where
  | arrive (data : Bytes)
  | settle (i : ℕ) (fulfilled : Bool)

def inboundStep (maxBytes maxMessages : ℕ) (q : InboundQueue) :
    InboundAction → Option InboundQueue
  | .arrive data => some (q.handleMessage maxBytes maxMessages data)
  | .settle i fulfilled => q.settle i fulfilled

/-! ### Outstanding messages -/

/-- The messages handed on, in order. -/
def InboundQueue.handed (q : InboundQueue) : List Bytes := q.accepted.map (·.data)

/-- The messages of a list whose wait has not settled. -/
def outstandingIn (accepted : List AcceptedMessage) : List Bytes :=
  (accepted.filter fun m => m.wait = .pending).map (·.data)

def InboundQueue.outstanding (q : InboundQueue) : List Bytes := outstandingIn q.accepted

/-- The total size of some messages. -/
def totalBytes (messages : List Bytes) : ℕ := (messages.map List.length).sum

/-- The message fits both limits, besides what is outstanding. -/
def InboundQueue.Fits (maxBytes maxMessages : ℕ) (q : InboundQueue) (data : Bytes) : Prop :=
  totalBytes q.outstanding + data.length ≤ maxBytes ∧ q.outstanding.length + 1 ≤ maxMessages

@[simp] theorem outstandingIn_append (l l' : List AcceptedMessage) :
    outstandingIn (l ++ l') = outstandingIn l ++ outstandingIn l' := by
  rw [outstandingIn, List.filter_append, List.map_append]
  rfl

@[simp] theorem totalBytes_append (l l' : List Bytes) :
    totalBytes (l ++ l') = totalBytes l + totalBytes l' := by
  rw [totalBytes, List.map_append, List.sum_append]
  rfl

theorem totalBytes_singleton (data : Bytes) : totalBytes [data] = data.length := by
  simp [totalBytes]

/-- Settling takes one message from the outstanding ones. -/
theorem outstandingIn_set {accepted : List AcceptedMessage} {i : ℕ} {data : Bytes} {wait : Wait}
    (h : accepted[i]? = some ⟨data, .pending⟩) (hwait : wait ≠ .pending) :
    ∃ before after, outstandingIn accepted = before ++ [data] ++ after ∧
      outstandingIn (accepted.set i ⟨data, wait⟩) = before ++ after := by
  obtain ⟨hi, hmessage⟩ := List.getElem?_eq_some_iff.mp h
  refine ⟨outstandingIn (accepted.take i), outstandingIn (accepted.drop (i + 1)), ?_, ?_⟩
  · have hsplit : accepted.take i ++ [⟨data, .pending⟩] ++ accepted.drop (i + 1) = accepted := by
      rw [← hmessage, List.append_assoc, List.singleton_append, ← List.drop_eq_getElem_cons hi,
        List.take_append_drop]
    rw [← congrArg outstandingIn hsplit, outstandingIn_append, outstandingIn_append]
    rfl
  · have hsettled : outstandingIn [⟨data, wait⟩] = [] := by
      simp [outstandingIn, hwait]
    rw [List.set_eq_take_append_cons_drop, if_pos hi, ← List.singleton_append,
      outstandingIn_append, outstandingIn_append, hsettled, List.nil_append]

/-! ### The invariant -/

structure InboundQueue.Accounted (maxBytes maxMessages : ℕ) (q : InboundQueue) : Prop where
  bytes : q.queuedBytes = totalBytes q.outstanding
  messages : q.queuedMessages = q.outstanding.length
  bytesBound : totalBytes q.outstanding ≤ maxBytes
  messagesBound : q.outstanding.length ≤ maxMessages
  closes : q.closeEvents = if q.closed then [tooQuickly] else []

variable {maxBytes maxMessages : ℕ} {q q' : InboundQueue}

theorem accounted_initial : protectInboundQueue.Accounted maxBytes maxMessages :=
  ⟨rfl, rfl, Nat.zero_le _, Nat.zero_le _, rfl⟩

/-- A message that fits is handed on. -/
theorem handleMessage_of_fits (h : q.Accounted maxBytes maxMessages) (hopen : q.closed = false)
    {data : Bytes} (hfits : q.Fits maxBytes maxMessages data) :
    q.handleMessage maxBytes maxMessages data =
      { q with
        queuedBytes := q.queuedBytes + data.length
        queuedMessages := q.queuedMessages + 1
        accepted := q.accepted ++ [⟨data, .pending⟩] } := by
  have hbytes := h.bytes
  have hmessages := h.messages
  obtain ⟨hfitBytes, hfitMessages⟩ := hfits
  rw [InboundQueue.handleMessage, hopen, if_neg Bool.false_ne_true, if_neg (by omega)]

/-- A message that does not fit closes the socket. -/
theorem handleMessage_of_not_fits (h : q.Accounted maxBytes maxMessages) (hopen : q.closed = false)
    {data : Bytes} (hfits : ¬ q.Fits maxBytes maxMessages data) :
    q.handleMessage maxBytes maxMessages data =
      { q with closed := true, closeEvents := q.closeEvents ++ [tooQuickly] } := by
  have hbytes := h.bytes
  have hmessages := h.messages
  unfold InboundQueue.Fits at hfits
  rw [InboundQueue.handleMessage, hopen, if_neg Bool.false_ne_true, if_pos (by omega)]

theorem handleMessage_of_closed (hclosed : q.closed = true) (data : Bytes) :
    q.handleMessage maxBytes maxMessages data = q := by
  rw [InboundQueue.handleMessage, if_pos hclosed]

theorem accounted_handleMessage (h : q.Accounted maxBytes maxMessages) (data : Bytes) :
    (q.handleMessage maxBytes maxMessages data).Accounted maxBytes maxMessages := by
  cases hclosed : q.closed with
  | true =>
      rw [handleMessage_of_closed hclosed]
      exact h
  | false =>
      have hcloses : q.closeEvents = [] := by
        rw [h.closes, hclosed]
        rfl
      by_cases hfits : q.Fits maxBytes maxMessages data
      · rw [handleMessage_of_fits h hclosed hfits]
        have houtstanding : outstandingIn (q.accepted ++ [⟨data, .pending⟩]) =
            q.outstanding ++ [data] := outstandingIn_append q.accepted [⟨data, .pending⟩]
        constructor <;> simp only [InboundQueue.outstanding, houtstanding]
        · rw [h.bytes, totalBytes_append, totalBytes_singleton, Nat.cast_add]
          rfl
        · rw [h.messages, List.length_append, List.length_singleton, Nat.cast_add, Nat.cast_one]
          rfl
        · rw [totalBytes_append, totalBytes_singleton]
          exact hfits.1
        · rw [List.length_append, List.length_singleton]
          exact hfits.2
        · rw [hcloses, hclosed]
          rfl
      · rw [handleMessage_of_not_fits h hclosed hfits]
        exact ⟨h.bytes, h.messages, h.bytesBound, h.messagesBound, by rw [hcloses]; rfl⟩

theorem accounted_settle (h : q.Accounted maxBytes maxMessages) {i : ℕ} {fulfilled : Bool}
    (hsettle : q.settle i fulfilled = some q') : q'.Accounted maxBytes maxMessages := by
  unfold InboundQueue.settle at hsettle
  split at hsettle
  · rename_i data hpending
    cases hsettle
    have hwait : (if fulfilled then Wait.fulfilled else Wait.rejected) ≠ .pending := by
      cases fulfilled <;> decide
    obtain ⟨before, after, hbefore, hafter⟩ := outstandingIn_set hpending hwait
    have hbytes := h.bytes
    have hmessages := h.messages
    have hbytesBound := h.bytesBound
    have hmessagesBound := h.messagesBound
    simp only [InboundQueue.outstanding, hbefore, totalBytes_append, totalBytes_singleton,
      List.length_append, List.length_singleton] at hbytes hmessages hbytesBound hmessagesBound
    constructor <;> simp only [InboundQueue.outstanding, hafter, totalBytes_append,
      List.length_append]
    · omega
    · omega
    · omega
    · omega
    · exact h.closes
  · cases hsettle

/-- **One step.** -/
theorem accounted_step {a : InboundAction} (h : q.Accounted maxBytes maxMessages)
    (hstep : inboundStep maxBytes maxMessages q a = some q') :
    q'.Accounted maxBytes maxMessages := by
  cases a with
  | arrive data =>
      cases hstep
      exact accounted_handleMessage h data
  | settle i fulfilled => exact accounted_settle h hstep

/-! ### After closing -/

/-- Settling hands nothing on. -/
theorem settle_handed {i : ℕ} {fulfilled : Bool} (h : q.settle i fulfilled = some q') :
    q'.handed = q.handed ∧ q'.closed = q.closed ∧ q'.closeEvents = q.closeEvents := by
  unfold InboundQueue.settle at h
  split at h
  · rename_i data hpending
    cases h
    obtain ⟨hi, hmessage⟩ := List.getElem?_eq_some_iff.mp hpending
    refine ⟨?_, rfl, rfl⟩
    have hsame : (q.accepted.map (·.data)).set i data = q.accepted.map (·.data) := by
      refine List.ext_getElem (by simp) fun j hj hj' => ?_
      rw [List.getElem_set]
      split
      · subst_vars
        simp [hmessage]
      · rfl
    exact (List.map_set ..).trans hsame
  · cases h

/-- A closed session stays as it is but for waits that settle. -/
theorem closed_run {as : List InboundAction} (hclosed : q.closed = true)
    (hrun : Runs.run (inboundStep maxBytes maxMessages) q as = some q') :
    q'.handed = q.handed ∧ q'.closeEvents = q.closeEvents := by
  have hinvariant : q'.closed = true ∧ q'.handed = q.handed ∧ q'.closeEvents = q.closeEvents := by
    refine Runs.invariant_run (inboundStep maxBytes maxMessages)
      (I := fun r => r.closed = true ∧ r.handed = q.handed ∧ r.closeEvents = q.closeEvents)
      ?_ ⟨hclosed, rfl, rfl⟩ hrun
    rintro s a t ⟨hs, hhanded, hcloses⟩ hstep
    cases a with
    | arrive data =>
        cases hstep
        rw [handleMessage_of_closed hs]
        exact ⟨hs, hhanded, hcloses⟩
    | settle i fulfilled =>
        obtain ⟨hhanded', hclosed', hcloses'⟩ := settle_handed hstep
        exact ⟨hclosed'.trans hs, hhanded'.trans hhanded, hcloses'.trans hcloses⟩
  exact hinvariant.2

/-- **Inbound work is accounted and bounded.**  In every state that a run reaches: the counters are
the size and the number of the outstanding messages, which are within the limits; while the session
is not closed, an arriving message is handed on if it fits and closes the socket if it does not; the
socket is closed at most once, and after that nothing is handed on. -/
theorem inbound_work_accounted {maxBytes maxMessages : ℕ} {as : List InboundAction}
    {q : InboundQueue}
    (hrun : Runs.run (inboundStep maxBytes maxMessages) protectInboundQueue as = some q) :
    (q.queuedBytes = totalBytes q.outstanding ∧ q.queuedMessages = q.outstanding.length) ∧
    (0 ≤ q.queuedBytes ∧ q.queuedBytes ≤ maxBytes) ∧
    (0 ≤ q.queuedMessages ∧ q.queuedMessages ≤ maxMessages) ∧
    ((∀ m ∈ q.accepted, m.wait ≠ .pending) → q.queuedBytes = 0 ∧ q.queuedMessages = 0) ∧
    (q.closed = false → q.closeEvents = [] ∧ ∀ data,
      ((q.handleMessage maxBytes maxMessages data).handed = q.handed ++ [data] ↔
        q.Fits maxBytes maxMessages data) ∧
      (¬ q.Fits maxBytes maxMessages data →
        (q.handleMessage maxBytes maxMessages data).handed = q.handed ∧
        (q.handleMessage maxBytes maxMessages data).closed = true ∧
        (q.handleMessage maxBytes maxMessages data).closeEvents = [tooQuickly])) ∧
    (q.closed = true → q.closeEvents = [tooQuickly] ∧ ∀ bs q',
      Runs.run (inboundStep maxBytes maxMessages) q bs = some q' →
        q'.handed = q.handed ∧ q'.closeEvents = [tooQuickly]) := by
  have h : q.Accounted maxBytes maxMessages :=
    Runs.invariant_run (inboundStep maxBytes maxMessages)
      (fun _ _ _ hs hstep => accounted_step hs hstep) accounted_initial hrun
  have hbytes := h.bytes
  have hmessages := h.messages
  have hbytesBound := h.bytesBound
  have hmessagesBound := h.messagesBound
  refine ⟨⟨hbytes, hmessages⟩, by omega, by omega, fun hsettled => ?_, fun hopen => ?_,
    fun hclosed => ?_⟩
  · have hnone : q.accepted.filter (fun m => m.wait = .pending) = [] :=
      List.filter_eq_nil_iff.mpr fun m hm => by simpa using hsettled m hm
    rw [hbytes, hmessages, InboundQueue.outstanding, outstandingIn, hnone]
    exact ⟨rfl, rfl⟩
  · have hcloses : q.closeEvents = [] := by
      rw [h.closes, hopen]
      rfl
    have hrefused : ∀ data, ¬ q.Fits maxBytes maxMessages data →
        (q.handleMessage maxBytes maxMessages data).handed = q.handed ∧
        (q.handleMessage maxBytes maxMessages data).closed = true ∧
        (q.handleMessage maxBytes maxMessages data).closeEvents = [tooQuickly] := by
      intro data hfits
      rw [handleMessage_of_not_fits h hopen hfits]
      exact ⟨rfl, rfl, by rw [hcloses]; rfl⟩
    refine ⟨hcloses, fun data => ⟨⟨fun hhanded => ?_, fun hfits => ?_⟩, hrefused data⟩⟩
    · by_contra hfits
      rw [(hrefused data hfits).1] at hhanded
      exact absurd hhanded.symm (by simp)
    · rw [handleMessage_of_fits h hopen hfits]
      exact List.map_append
  · have hcloses : q.closeEvents = [tooQuickly] := by
      rw [h.closes, hclosed]
      rfl
    refine ⟨hcloses, fun bs q' hlater => ?_⟩
    obtain ⟨hhanded, hsame⟩ := closed_run hclosed hlater
    exact ⟨hhanded, hsame.trans hcloses⟩

/-- Two messages fill the queue, the wait of the second is rejected and makes room for a third, and a
fourth closes the socket. -/
def sampleInbound : List InboundAction :=
  [.arrive [1, 2], .arrive [3, 4], .settle 1 false, .arrive [5], .arrive [6, 7], .settle 0 true]

theorem inbound_work_accounted_sample :
    ∃ q, Runs.run (inboundStep 4 2) protectInboundQueue sampleInbound = some q ∧
      q.handed = [[1, 2], [3, 4], [5]] ∧ q.queuedBytes = totalBytes [[5]] ∧
      q.closeEvents = [tooQuickly] := by
  have hrun : Runs.run (inboundStep 4 2) protectInboundQueue sampleInbound =
      some ⟨1, 1, true, [⟨[1, 2], .fulfilled⟩, ⟨[3, 4], .rejected⟩, ⟨[5], .pending⟩],
        [tooQuickly]⟩ := by decide
  obtain ⟨⟨hbytes, -⟩, -, -, -, -, hclosed⟩ := inbound_work_accounted hrun
  exact ⟨_, hrun, rfl, hbytes, (hclosed rfl).1⟩

end SocketServer.Collaboration

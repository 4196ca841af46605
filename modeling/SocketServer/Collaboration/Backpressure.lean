import SocketServer.Collaboration.ResourceLimits
import SocketServer.Library.Runs
import Mathlib.Data.List.Basic

/-!
# Slow editing sessions

`protectSlowEditingSession` (`collaboration/src/resource-limits.ts`) replaces `socket.send` by a
function that checks `bufferedAmount` before and after it calls the `send` it found.  Every editing
session on a socket wraps it once more, so a send goes through all the wrappers, from the outermost
to the raw socket; each has a flag `closed` of its own and closes the socket when its flag goes up.

`bufferedAmount` is read anew by every check and may have any value each time, or none.

* `sendThrough_outcome`: what one send does at the raw socket, by induction on the wrappers;
* `guarded_step`: what every step preserves;
* `protected_socket`: what reaches the raw socket of a protected one.
-/

namespace SocketServer.Collaboration

open SocketServer.Text

/-! ### Wrappers -/

/-- What happens at the raw socket, in order, and the calls of `onLimit`.  A payload comes with the
`bufferedAmount` that the innermost wrapper read just before it forwarded it. -/
inductive SocketEvent where
  | forwarded (data : Bytes) (bufferedAmount : ℕ)
  | limited
  | closed (e : CloseEvent)
  deriving DecidableEq

/-- The payload that reaches the raw socket. -/
def SocketEvent.payload : SocketEvent → Option Bytes
  | .forwarded data _ => some data
  | _ => none

def SocketEvent.isClose : SocketEvent → Bool
  | .closed _ => true
  | _ => false

/-- The payloads that reach the raw socket. -/
def payloads (events : List SocketEvent) : List Bytes := events.filterMap SocketEvent.payload

def tooSlow : CloseEvent := ⟨1013, "Editing Session is too slow"⟩

/-- `(socket.bufferedAmount ?? 0) > maxBackpressureBytes`. -/
def isAbove (maxBackpressureBytes : ℕ) (bufferedAmount : Option ℕ) : Bool :=
  maxBackpressureBytes < bufferedAmount.getD 0

/-- `close` of a wrapper: its flag afterwards, and what happens. -/
def closeWrapper (closed : Bool) : Bool × List SocketEvent :=
  if closed then (true, []) else (true, [.limited, .closed tooSlow])

/-- `socket.send(data)` with the flags of the wrappers, the outermost first.  The wrapper at depth `i`
reads `before i` and, when the `send` it calls has returned, `after i`; `bufferedAmount` is the last
reading. -/
def sendThrough (maxBackpressureBytes : ℕ) (data : Bytes) :
    List Bool → (before after : ℕ → Option ℕ) → (bufferedAmount : ℕ) →
      List Bool × List SocketEvent
  | [], _, _, bufferedAmount => ([], [.forwarded data bufferedAmount])
  | closed :: inner, before, after, _ =>
      if closed then (closed :: inner, [])
      else if isAbove maxBackpressureBytes (before 0) then
        ((closeWrapper closed).1 :: inner, (closeWrapper closed).2)
      else
        let sent := sendThrough maxBackpressureBytes data inner (fun i => before (i + 1))
          (fun i => after (i + 1)) ((before 0).getD 0)
        if isAbove maxBackpressureBytes (after 0) then
          ((closeWrapper closed).1 :: sent.1, sent.2 ++ (closeWrapper closed).2)
        else (closed :: sent.1, sent.2)

/-- A socket with its wrappers; `passed` are the payloads passed to the outermost `send`. -/
structure BackpressureSocket where
  wrappers : List Bool
  events : List SocketEvent
  passed : List Bytes
  deriving DecidableEq

def BackpressureSocket.raw : BackpressureSocket := ⟨[], [], []⟩

def BackpressureSocket.send (maxBackpressureBytes : ℕ) (s : BackpressureSocket) (data : Bytes)
    (before after : ℕ → Option ℕ) : BackpressureSocket :=
  let sent := sendThrough maxBackpressureBytes data s.wrappers before after 0
  { wrappers := sent.1, events := s.events ++ sent.2, passed := s.passed ++ [data] }

/-- A new wrapper around the `send` of the socket, with the check that it makes at once. -/
def protectSlowEditingSession (maxBackpressureBytes : ℕ) (s : BackpressureSocket)
    (bufferedAmount : Option ℕ) : BackpressureSocket :=
  if isAbove maxBackpressureBytes bufferedAmount then
    { s with
      wrappers := (closeWrapper false).1 :: s.wrappers
      events := s.events ++ (closeWrapper false).2 }
  else { s with wrappers := false :: s.wrappers }

/-- What happens on a protected socket.  A close by somebody else, such as `protectInboundQueue` of
one of its sessions, is no step: the wrappers do not notice it, and what they still forward to the
raw socket is dropped there. -/
inductive SocketAction where
  | protect (bufferedAmount : Option ℕ)
  | send (data : Bytes) (before after : ℕ → Option ℕ)

def socketStep (maxBackpressureBytes : ℕ) (s : BackpressureSocket) :
    SocketAction → Option BackpressureSocket
  | .protect bufferedAmount => some (protectSlowEditingSession maxBackpressureBytes s bufferedAmount)
  | .send data before after => some (s.send maxBackpressureBytes data before after)

/-! ### One send -/

@[simp] theorem payloads_append (l l' : List SocketEvent) :
    payloads (l ++ l') = payloads l ++ payloads l' := List.filterMap_append

/-- No payload reaches the socket after it was closed. -/
def Silent (events : List SocketEvent) : Prop :=
  events.Pairwise fun a b => a.isClose = true → b.payload = none

variable {maxBackpressureBytes : ℕ}

theorem payload_of_payloads_nil {events : List SocketEvent} (h : payloads events = []) :
    ∀ e ∈ events, e.payload = none :=
  List.filterMap_eq_nil_iff.mp h

/-- Events without a payload may follow. -/
theorem silent_append {l l' : List SocketEvent} (h : Silent l) (h' : payloads l' = []) :
    Silent (l ++ l') := by
  have hnone := payload_of_payloads_nil h'
  refine List.pairwise_append.mpr ⟨h, ?_, fun a _ b hb _ => hnone b hb⟩
  exact List.pairwise_of_forall_mem_list fun a _ b hb _ => hnone b hb

/-- Before the first close anything may follow. -/
theorem silent_snoc {l : List SocketEvent} (hopen : ∀ e ∈ l, e.isClose = false)
    (e : SocketEvent) : Silent (l ++ [e]) := by
  refine List.pairwise_append.mpr ⟨?_, List.pairwise_singleton _ _, ?_⟩
  · exact List.pairwise_of_forall_mem_list fun a ha _ _ hclose =>
      absurd ((hopen a ha).symm.trans hclose) Bool.false_ne_true
  · exact fun a ha _ _ hclose => absurd ((hopen a ha).symm.trans hclose) Bool.false_ne_true

/-- What one send can come to: the flags afterwards and what happened. -/
inductive SendOutcome (data : Bytes) (wrappers : List Bool) : List Bool × List SocketEvent → Prop
  /-- A wrapper was closed: nothing is forwarded. -/
  | blocked {flags : List Bool} {events : List SocketEvent} (hbefore : true ∈ wrappers)
      (hafter : true ∈ flags) (hnone : payloads events = []) :
      SendOutcome data wrappers (flags, events)
  /-- The payload is forwarded and every wrapper stays open. -/
  | forwarded {flags : List Bool} {n : ℕ} (hbefore : true ∉ wrappers) (hafter : true ∉ flags) :
      SendOutcome data wrappers (flags, [.forwarded data n])
  /-- A wrapper closes before the payload has passed it. -/
  | dropped {flags : List Bool} {events : List SocketEvent} (hbefore : true ∉ wrappers)
      (hafter : true ∈ flags) (hnone : payloads events = []) :
      SendOutcome data wrappers (flags, events)
  /-- The payload is forwarded, and then a wrapper closes. -/
  | last {flags : List Bool} {events : List SocketEvent} {n : ℕ} (hbefore : true ∉ wrappers)
      (hafter : true ∈ flags) (hnone : payloads events = []) :
      SendOutcome data wrappers (flags, .forwarded data n :: events)

theorem open_cons {wrappers : List Bool} (h : true ∉ wrappers) : true ∉ false :: wrappers :=
  List.not_mem_cons_of_ne_of_not_mem Bool.false_ne_true.symm h

/-- An open wrapper around the others that stays open changes nothing. -/
theorem SendOutcome.around {data : Bytes} {inner flags : List Bool} {events : List SocketEvent}
    (h : SendOutcome data inner (flags, events)) :
    SendOutcome data (false :: inner) (false :: flags, events) := by
  cases h with
  | blocked hbefore hafter hnone =>
      exact .blocked (List.mem_cons_of_mem _ hbefore) (List.mem_cons_of_mem _ hafter) hnone
  | forwarded hbefore hafter => exact .forwarded (open_cons hbefore) (open_cons hafter)
  | dropped hbefore hafter hnone =>
      exact .dropped (open_cons hbefore) (List.mem_cons_of_mem _ hafter) hnone
  | last hbefore hafter hnone => exact .last (open_cons hbefore) (List.mem_cons_of_mem _ hafter) hnone

/-- An open wrapper around the others that closes after the send. -/
theorem SendOutcome.close {data : Bytes} {inner flags : List Bool} {events : List SocketEvent}
    (h : SendOutcome data inner (flags, events)) :
    SendOutcome data (false :: inner) (true :: flags, events ++ (closeWrapper false).2) := by
  have hclose : ∀ {l : List SocketEvent}, payloads l = [] →
      payloads (l ++ (closeWrapper false).2) = [] := by
    intro l hl
    rw [payloads_append, hl]
    rfl
  cases h with
  | blocked hbefore hafter hnone =>
      exact .blocked (List.mem_cons_of_mem _ hbefore) List.mem_cons_self (hclose hnone)
  | forwarded hbefore hafter => exact .last (open_cons hbefore) List.mem_cons_self rfl
  | dropped hbefore hafter hnone => exact .dropped (open_cons hbefore) List.mem_cons_self (hclose hnone)
  | last hbefore hafter hnone => exact .last (open_cons hbefore) List.mem_cons_self (hclose hnone)

/-- **One send**, by induction on the wrappers. -/
theorem sendThrough_outcome (data : Bytes) (wrappers : List Bool) (before after : ℕ → Option ℕ)
    (bufferedAmount : ℕ) :
    SendOutcome data wrappers
      (sendThrough maxBackpressureBytes data wrappers before after bufferedAmount) := by
  induction wrappers generalizing before after bufferedAmount with
  | nil => exact .forwarded List.not_mem_nil List.not_mem_nil
  | cons closed inner ih =>
      cases closed with
      | true => exact .blocked List.mem_cons_self List.mem_cons_self rfl
      | false =>
          rw [sendThrough, if_neg Bool.false_ne_true]
          split
          · by_cases hinner : true ∈ inner
            · exact .blocked (List.mem_cons_of_mem _ hinner) List.mem_cons_self rfl
            · exact .dropped (open_cons hinner) List.mem_cons_self rfl
          · have hsent := ih (fun i => before (i + 1)) (fun i => after (i + 1))
              ((before 0).getD 0)
            dsimp only
            split
            · exact hsent.close
            · exact hsent.around

/-- Nothing is forwarded above the limit, once there is a wrapper. -/
theorem sendThrough_limit (data : Bytes) (wrappers : List Bool) (before after : ℕ → Option ℕ)
    (bufferedAmount : ℕ) (h : wrappers ≠ [] ∨ bufferedAmount ≤ maxBackpressureBytes) {d : Bytes}
    {n : ℕ} (hn : .forwarded d n ∈
      (sendThrough maxBackpressureBytes data wrappers before after bufferedAmount).2) :
    n ≤ maxBackpressureBytes := by
  have hclose : ∀ closed, .forwarded d n ∉ (closeWrapper closed).2 := by
    intro closed hmem
    cases closed <;> simp [closeWrapper] at hmem
  induction wrappers generalizing before after bufferedAmount with
  | nil =>
      obtain ⟨⟩ := List.mem_singleton.mp hn
      exact h.resolve_left fun hne => hne rfl
  | cons closed inner ih =>
      rw [sendThrough] at hn
      split at hn
      · exact absurd hn List.not_mem_nil
      · split at hn
        · exact absurd hn (hclose closed)
        · rename_i hbelow
          have hreading : (before 0).getD 0 ≤ maxBackpressureBytes := by
            simpa [isAbove] using hbelow
          dsimp only at hn
          split at hn
          · obtain hsent | hclosed := List.mem_append.mp hn
            · exact ih _ _ _ (Or.inr hreading) hsent
            · exact absurd hclosed (hclose closed)
          · exact ih _ _ _ (Or.inr hreading) hn

theorem length_sendThrough {data : Bytes} {wrappers : List Bool} {before after : ℕ → Option ℕ}
    {bufferedAmount : ℕ} :
    (sendThrough maxBackpressureBytes data wrappers before after bufferedAmount).1.length
      = wrappers.length := by
  induction wrappers generalizing before after bufferedAmount with
  | nil => rfl
  | cons closed inner ih =>
      rw [sendThrough]
      split
      · rfl
      · split
        · rfl
        · dsimp only
          split <;> rw [List.length_cons, ih, List.length_cons]

/-! ### Runs -/

/-- What holds of a socket from its first wrapper on. -/
structure BackpressureSocket.Guarded (maxBackpressureBytes : ℕ) (s : BackpressureSocket) : Prop where
  pre : payloads s.events <+: s.passed
  limit : ∀ data n, .forwarded data n ∈ s.events → n ≤ maxBackpressureBytes
  silent : Silent s.events
  opened : true ∉ s.wrappers → payloads s.events = s.passed ∧ ∀ e ∈ s.events, e.isClose = false

variable {s : BackpressureSocket}

theorem guarded_raw : BackpressureSocket.raw.Guarded maxBackpressureBytes where
  pre := List.prefix_rfl
  limit _ _ h := absurd h List.not_mem_nil
  silent := List.Pairwise.nil
  opened _ := ⟨rfl, fun _ h => absurd h List.not_mem_nil⟩

theorem wrappers_protect (s : BackpressureSocket) (bufferedAmount : Option ℕ) :
    (protectSlowEditingSession maxBackpressureBytes s bufferedAmount).wrappers ≠ [] := by
  unfold protectSlowEditingSession
  split <;> exact List.cons_ne_nil _ _

/-- A new wrapper forwards nothing. -/
theorem guarded_protect (h : s.Guarded maxBackpressureBytes) (bufferedAmount : Option ℕ) :
    (protectSlowEditingSession maxBackpressureBytes s bufferedAmount).Guarded
      maxBackpressureBytes := by
  unfold protectSlowEditingSession
  split
  · exact {
      pre := by rw [payloads_append]; exact (List.append_nil _).symm ▸ h.pre
      limit := fun data n hn => by
        obtain hold | hnew := List.mem_append.mp hn
        · exact h.limit data n hold
        · simp [closeWrapper] at hnew
      silent := silent_append h.silent rfl
      opened := fun hopen => absurd List.mem_cons_self hopen }
  · exact {
      pre := h.pre
      limit := h.limit
      silent := h.silent
      opened := fun hopen => h.opened fun hmem => hopen (List.mem_cons_of_mem _ hmem) }

/-- A send to a protected socket. -/
theorem guarded_send (h : s.Guarded maxBackpressureBytes) (hwrapped : s.wrappers ≠ [])
    (data : Bytes) (before after : ℕ → Option ℕ) :
    (s.send maxBackpressureBytes data before after).Guarded maxBackpressureBytes := by
  have hlimit : ∀ d n, .forwarded d n ∈
      (s.send maxBackpressureBytes data before after).events → n ≤ maxBackpressureBytes := by
    intro d n hn
    obtain hold | hnew := List.mem_append.mp hn
    · exact h.limit d n hold
    · exact sendThrough_limit data s.wrappers before after 0 (Or.inl hwrapped) hnew
  have hlonger : ∀ {events : List SocketEvent}, payloads events = [] →
      payloads (s.events ++ events) <+: s.passed ++ [data] := by
    intro events hnone
    rw [payloads_append, hnone, List.append_nil]
    exact h.pre.trans (List.prefix_append _ _)
  have houtcome : SendOutcome data s.wrappers
      (sendThrough maxBackpressureBytes data s.wrappers before after 0) :=
    sendThrough_outcome data s.wrappers before after 0
  rw [BackpressureSocket.send] at hlimit ⊢
  revert hlimit houtcome
  generalize sendThrough maxBackpressureBytes data s.wrappers before after 0 = sent
  intro hlimit houtcome
  cases houtcome with
  | blocked hbefore hafter hnone =>
      exact ⟨hlonger hnone, hlimit, silent_append h.silent hnone, fun hopen => absurd hafter hopen⟩
  | @forwarded flags n hbefore hafter =>
      obtain ⟨hall, hopen⟩ := h.opened hbefore
      have hpayloads : payloads (s.events ++ [.forwarded data n]) = s.passed ++ [data] := by
        rw [payloads_append, hall]
        rfl
      refine ⟨hpayloads ▸ List.prefix_rfl, hlimit, silent_snoc hopen _, fun _ => ⟨hpayloads, ?_⟩⟩
      intro e he
      obtain hold | hnew := List.mem_append.mp he
      · exact hopen e hold
      · rw [List.mem_singleton.mp hnew]
        rfl
  | dropped hbefore hafter hnone =>
      exact ⟨hlonger hnone, hlimit, silent_append h.silent hnone, fun hopen => absurd hafter hopen⟩
  | @last flags events n hbefore hafter hnone =>
      obtain ⟨hall, hopen⟩ := h.opened hbefore
      have hpayloads : payloads (s.events ++ .forwarded data n :: events) = s.passed ++ [data] := by
        rw [List.append_cons, payloads_append, payloads_append, hall, hnone]
        exact List.append_nil _
      refine ⟨hpayloads ▸ List.prefix_rfl, hlimit, ?_, fun hstill => absurd hafter hstill⟩
      show Silent (s.events ++ .forwarded data n :: events)
      rw [List.append_cons]
      exact silent_append (silent_snoc hopen _) hnone

/-- **One step** keeps a wrapped socket guarded. -/
theorem guarded_step {t : BackpressureSocket} {a : SocketAction} (hwrapped : s.wrappers ≠ [])
    (h : s.Guarded maxBackpressureBytes) (hstep : socketStep maxBackpressureBytes s a = some t) :
    t.wrappers ≠ [] ∧ t.Guarded maxBackpressureBytes := by
  cases a with
  | protect bufferedAmount =>
      cases hstep
      exact ⟨wrappers_protect s bufferedAmount, guarded_protect h bufferedAmount⟩
  | send data before after =>
      cases hstep
      refine ⟨fun hnil => hwrapped ?_, guarded_send h hwrapped data before after⟩
      have hlength : (s.send maxBackpressureBytes data before after).wrappers.length
          = s.wrappers.length := length_sendThrough
      rw [hnil] at hlength
      exact List.length_eq_zero_iff.mp hlength.symm

/-- **A protected socket sends a prefix, and nothing after closing.**  In every run that begins with
a wrapper: what reaches the raw socket is a prefix of what was passed to the outermost `send`,
nothing reaches it while `bufferedAmount` is above the limit, and nothing after the first call of
`close`. -/
theorem protected_socket {maxBackpressureBytes : ℕ} {bufferedAmount : Option ℕ}
    {as : List SocketAction} {s : BackpressureSocket}
    (hrun : Runs.run (socketStep maxBackpressureBytes) .raw (.protect bufferedAmount :: as)
      = some s) :
    payloads s.events <+: s.passed ∧
    (∀ data n, .forwarded data n ∈ s.events → n ≤ maxBackpressureBytes) ∧
    s.events.Pairwise (fun a b => a.isClose = true → b.payload = none) := by
  obtain ⟨t, ht, hrest⟩ := (Runs.run_cons_eq_some _).mp hrun
  have hfirst : t.wrappers ≠ [] ∧ t.Guarded maxBackpressureBytes := by
    cases ht
    exact ⟨wrappers_protect .raw bufferedAmount, guarded_protect guarded_raw bufferedAmount⟩
  obtain ⟨-, hguarded⟩ := Runs.invariant_run (socketStep maxBackpressureBytes)
    (fun _ _ _ hs hstep => guarded_step hs.1 hs.2 hstep) hfirst hrest
  exact ⟨hguarded.pre, hguarded.limit, hguarded.silent⟩

/-- Two wrappers of a socket with the limit 8.  The first send goes through; at the second the amount
rises between the checks of the outer and of the inner wrapper, and only the inner one closes; the
third is stopped there although the amount is low again. -/
def sampleSends : List SocketAction :=
  [.protect none, .protect (some 0), .send [1] (fun _ => some 0) (fun _ => some 3),
    .send [2] (fun i => if i = 0 then some 3 else some 9) (fun _ => some 0),
    .send [3] (fun _ => none) (fun _ => none)]

theorem protected_socket_sample :
    ∃ s, Runs.run (socketStep 8) .raw sampleSends = some s ∧
      s.events = [.forwarded [1] 0, .limited, .closed tooSlow] ∧
      s.wrappers = [false, true] ∧ payloads s.events <+: [[1], [2], [3]] := by
  have hrun : Runs.run (socketStep 8) .raw sampleSends =
      some ⟨[false, true], [.forwarded [1] 0, .limited, .closed tooSlow], [[1], [2], [3]]⟩ := rfl
  exact ⟨_, hrun, rfl, rfl, (protected_socket hrun).1⟩

end SocketServer.Collaboration

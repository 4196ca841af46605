import SocketServer.Collaboration.Backpressure
import SocketServer.Collaboration.Observability

/-!
# How often a slow socket is closed

`connected` (`collaboration/src/server.ts`) wraps the `send` of the socket once for every editing
session on it, and counts `onLimit` as a slow editing session.  Each wrapper closes the socket at
most once, but none knows what the others did.

* `sendThrough_closes`: a send closes the socket once for every check that finds `bufferedAmount`
  above the limit, by induction on the wrappers;
* `counted_step`: the socket was closed as often as wrappers are closed;
* `closed_once_iff`: it is closed at most once exactly when at most one check in the run finds the
  amount above the limit.
-/

namespace SocketServer.Collaboration

open SocketServer.Text

/-! ### Counting -/

/-- The calls of `socket.close`. -/
def closes (events : List SocketEvent) : ℕ := events.countP SocketEvent.isClose

def SocketEvent.isLimited : SocketEvent → Bool
  | .limited => true
  | _ => false

/-- The calls of `onLimit`. -/
def limits (events : List SocketEvent) : ℕ := events.countP SocketEvent.isLimited

/-- `onLimit` as `connected` passes it, called for every event that is one. -/
def CollaborationObservability.onLimits (o : CollaborationObservability)
    (events : List SocketEvent) : CollaborationObservability :=
  events.foldl (fun o e => if e.isLimited then o.increment .slowEditingSessions else o) o

theorem slowEditingSessions_onLimits (o : CollaborationObservability)
    (events : List SocketEvent) : (o.onLimits events).counters .slowEditingSessions =
      o.counters .slowEditingSessions + limits events := by
  induction events generalizing o with
  | nil => rfl
  | cons e events ih =>
      show ((if e.isLimited then o.increment .slowEditingSessions else o).onLimits events).counters
        .slowEditingSessions = _
      have hcons : limits (e :: events) = limits events + if e.isLimited then 1 else 0 :=
        List.countP_cons
      rw [ih, hcons]
      split
      · rw [CollaborationObservability.increment_self]
        omega
      · rfl

theorem closes_append (l l' : List SocketEvent) : closes (l ++ l') = closes l + closes l' :=
  List.countP_append

theorem limits_append (l l' : List SocketEvent) : limits (l ++ l') = limits l + limits l' :=
  List.countP_append

/-! ### Checks above the limit -/

variable (maxBackpressureBytes : ℕ)

/-- How many wrappers a send passes on its way in: those around the first one that is closed or that
reads an amount above the limit. -/
def passedWrappers : List Bool → (before : ℕ → Option ℕ) → ℕ
  | [], _ => 0
  | closed :: inner, before =>
      if closed || isAbove maxBackpressureBytes (before 0) then 0
      else passedWrappers inner (fun i => before (i + 1)) + 1

/-- The checks of a send that find the amount above the limit: that of the wrapper which stops it on
its way in, unless that one was closed, and those of the wrappers it has passed, on its way out. -/
def slowChecks (wrappers : List Bool) (before after : ℕ → Option ℕ) : ℕ :=
  let passed := passedWrappers maxBackpressureBytes wrappers before
  (if wrappers[passed]? = some false then 1 else 0) +
    (List.range passed).countP fun i => isAbove maxBackpressureBytes (after i)

/-- The checks of one step that find the amount above the limit. -/
def SocketAction.slowChecks (s : BackpressureSocket) : SocketAction → ℕ
  | .protect bufferedAmount => if isAbove maxBackpressureBytes bufferedAmount then 1 else 0
  | .send _ before after => Collaboration.slowChecks maxBackpressureBytes s.wrappers before after

/-- With the wrappers that are closed already, at most one check has found the amount above the
limit when the step is done. -/
def OneSlowCheck (s : BackpressureSocket) (a : SocketAction) : Prop :=
  s.wrappers.count true + a.slowChecks maxBackpressureBytes s ≤ 1

variable {maxBackpressureBytes}

/-- A wrapper that is closed makes no checks. -/
theorem slowChecks_closed (inner : List Bool) (before after : ℕ → Option ℕ) :
    slowChecks maxBackpressureBytes (true :: inner) before after = 0 := by
  have hpassed : passedWrappers maxBackpressureBytes (true :: inner) before = 0 := rfl
  rw [slowChecks, hpassed]
  rfl

theorem slowChecks_stopped {before : ℕ → Option ℕ}
    (habove : isAbove maxBackpressureBytes (before 0) = true) (inner : List Bool)
    (after : ℕ → Option ℕ) :
    slowChecks maxBackpressureBytes (false :: inner) before after = 1 := by
  have hpassed : passedWrappers maxBackpressureBytes (false :: inner) before = 0 := by
    rw [passedWrappers, habove]
    rfl
  rw [slowChecks, hpassed]
  rfl

/-- A wrapper that lets the send pass adds its own check afterwards. -/
theorem slowChecks_passed {before : ℕ → Option ℕ}
    (hbelow : isAbove maxBackpressureBytes (before 0) = false) (inner : List Bool)
    (after : ℕ → Option ℕ) :
    slowChecks maxBackpressureBytes (false :: inner) before after =
      slowChecks maxBackpressureBytes inner (fun i => before (i + 1)) (fun i => after (i + 1)) +
        if isAbove maxBackpressureBytes (after 0) then 1 else 0 := by
  have hpassed : passedWrappers maxBackpressureBytes (false :: inner) before =
      passedWrappers maxBackpressureBytes inner (fun i => before (i + 1)) + 1 := by
    rw [passedWrappers, hbelow]
    rfl
  rw [slowChecks, slowChecks, hpassed, List.getElem?_cons_succ, List.range_succ_eq_map,
    List.countP_cons, List.countP_map]
  show _ + (List.countP (fun i => isAbove maxBackpressureBytes (after (i + 1))) _ + _) = _
  omega

/-! ### Closing -/

/-- **One send**, by induction on the wrappers: it closes the socket, reports it and leaves a wrapper
closed once for every check above the limit. -/
theorem sendThrough_closes (data : Bytes) (wrappers : List Bool) (before after : ℕ → Option ℕ)
    (bufferedAmount : ℕ) :
    (sendThrough maxBackpressureBytes data wrappers before after bufferedAmount).1.count true =
        wrappers.count true + slowChecks maxBackpressureBytes wrappers before after ∧
      closes (sendThrough maxBackpressureBytes data wrappers before after bufferedAmount).2 =
        slowChecks maxBackpressureBytes wrappers before after ∧
      limits (sendThrough maxBackpressureBytes data wrappers before after bufferedAmount).2 =
        slowChecks maxBackpressureBytes wrappers before after := by
  induction wrappers generalizing before after bufferedAmount with
  | nil => exact ⟨rfl, rfl, rfl⟩
  | cons closed inner ih =>
      cases closed with
      | true =>
          rw [slowChecks_closed]
          exact ⟨rfl, rfl, rfl⟩
      | false =>
          rw [sendThrough, if_neg Bool.false_ne_true]
          cases habove : isAbove maxBackpressureBytes (before 0) with
          | true =>
              rw [if_pos rfl, slowChecks_stopped habove]
              exact ⟨by simp [closeWrapper], rfl, rfl⟩
          | false =>
              obtain ⟨hcount, hcloses, hlimits⟩ := ih (fun i => before (i + 1))
                (fun i => after (i + 1)) ((before 0).getD 0)
              rw [if_neg Bool.false_ne_true, slowChecks_passed habove]
              dsimp only
              split
              · refine ⟨?_, ?_, ?_⟩
                · simp only [closeWrapper, List.count_cons, hcount]
                  simp
                  omega
                · rw [closes_append, hcloses]
                  rfl
                · rw [limits_append, hlimits]
                  rfl
              · refine ⟨?_, hcloses, hlimits⟩
                simp only [List.count_cons, hcount]
                simp

/-- The socket was closed, and that was reported, as often as wrappers are closed. -/
structure BackpressureSocket.Counted (s : BackpressureSocket) : Prop where
  closes : closes s.events = s.wrappers.count true
  limits : limits s.events = s.wrappers.count true

variable {s t : BackpressureSocket} {a : SocketAction}

theorem counted_raw : BackpressureSocket.raw.Counted := ⟨rfl, rfl⟩

/-- What a step closes. -/
theorem socketStep_closes (hstep : socketStep maxBackpressureBytes s a = some t) :
    t.wrappers.count true = s.wrappers.count true + a.slowChecks maxBackpressureBytes s ∧
      closes t.events = closes s.events + a.slowChecks maxBackpressureBytes s ∧
      limits t.events = limits s.events + a.slowChecks maxBackpressureBytes s := by
  cases a with
  | protect bufferedAmount =>
      cases hstep
      rw [protectSlowEditingSession, SocketAction.slowChecks]
      split
      · rw [closes_append, limits_append]
        exact ⟨by simp [closeWrapper], rfl, rfl⟩
      · exact ⟨by simp, rfl, rfl⟩
  | send data before after =>
      cases hstep
      obtain ⟨hcount, hcloses, hlimits⟩ :=
        @sendThrough_closes maxBackpressureBytes data s.wrappers before after 0
      refine ⟨hcount, ?_, ?_⟩
      · rw [BackpressureSocket.send, closes_append, hcloses]
        rfl
      · rw [BackpressureSocket.send, limits_append, hlimits]
        rfl

/-- **One step.** -/
theorem counted_step (h : s.Counted) (hstep : socketStep maxBackpressureBytes s a = some t) :
    t.Counted := by
  obtain ⟨hcount, hcloses, hlimits⟩ := socketStep_closes hstep
  exact ⟨by rw [hcount, hcloses, h.closes], by rw [hcount, hlimits, h.limits]⟩

/-- The socket was closed at most once, and counted as slow at most once. -/
def BackpressureSocket.ClosedOnce (s : BackpressureSocket) : Prop :=
  Collaboration.closes s.events ≤ 1 ∧
    (CollaborationObservability.initial.onLimits s.events).counters .slowEditingSessions ≤ 1

theorem closedOnce_iff (h : s.Counted) : s.ClosedOnce ↔ s.wrappers.count true ≤ 1 := by
  have hcounter : (CollaborationObservability.initial.onLimits s.events).counters
      .slowEditingSessions = s.wrappers.count true := by
    rw [slowEditingSessions_onLimits, h.limits]
    exact Nat.zero_add _
  rw [BackpressureSocket.ClosedOnce, h.closes, hcounter, and_self]

/-- **A slow socket is closed and reported at most once** exactly when the steps of the run make at
most one check that finds `bufferedAmount` above the limit. -/
theorem closed_once_iff (maxBackpressureBytes : ℕ) (as : List SocketAction) :
    Runs.Throughout (socketStep maxBackpressureBytes) BackpressureSocket.ClosedOnce .raw as ↔
      Runs.Meets (socketStep maxBackpressureBytes) (OneSlowCheck maxBackpressureBytes) .raw as := by
  have htotal : ∀ s a, ∃ t, socketStep maxBackpressureBytes s a = some t := by
    intro s a
    cases a with
    | protect bufferedAmount => exact ⟨_, rfl⟩
    | send data before after => exact ⟨_, rfl⟩
  obtain ⟨t, hrun⟩ := Runs.exists_run (socketStep maxBackpressureBytes) htotal .raw as
  refine Runs.throughout_iff_meets (socketStep maxBackpressureBytes)
    (fun _ _ _ hs hstep => counted_step hs hstep) ?_ counted_raw ?_ hrun
  · intro s a t hs _ hstep
    rw [closedOnce_iff (counted_step hs hstep), (socketStep_closes hstep).1, OneSlowCheck]
  · exact (closedOnce_iff counted_raw).mpr (Nat.zero_le _)

/-- Two editing sessions on one socket: a send after which the amount is above the limit is seen by
both wrappers. -/
def twoSessions : List SocketAction :=
  [.protect none, .protect (some 0), .send [1] (fun _ => some 0) (fun _ => some 9)]

/-- **A socket that is closed twice.** -/
theorem closed_twice :
    ∃ s, Runs.run (socketStep 8) .raw twoSessions = some s ∧ closes s.events = 2 ∧
      (CollaborationObservability.initial.onLimits s.events).counters .slowEditingSessions = 2 :=
  ⟨⟨[true, true], [.forwarded [1] 0, .limited, .closed tooSlow, .limited, .closed tooSlow], [[1]]⟩,
    rfl, rfl, rfl⟩

end SocketServer.Collaboration

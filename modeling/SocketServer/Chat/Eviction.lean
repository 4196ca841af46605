import SocketServer.Chat.Delivery

/-!
# Evictions: consistency of the table, gaps in a stream

A broadcast that finds a client's buffer full drops its message for that client and spawns a
goroutine that asks for the client's removal.  Between the two the hub may take further broadcasts
and the writer may free buffer space.

* **The table** (`table_consistent`): whatever the order in which the requests are taken, the hub
  does not panic and a client is in the table exactly while it is registered and open.
* **Evictions** (`eviction_never_lost`): a member that missed a message has an eviction pending,
  and taking any unregister request removes that client and touches no other.
* **Gaps** (`gap_free_iff_no_refill`): every stream of a run is free of gaps exactly when no
  message reaches a client that has an eviction pending and room in its buffer.
-/

namespace SocketServer.Chat

open SocketServer.GoChannel SocketServer.Text

variable {δ : Type*} {codec : EventCodec δ}

/-! ### The table and the evictions -/

/-- **The hub never panics and its table stays consistent.** -/
theorem table_consistent {as : List Action} {s : State} (h : run codec as = some s) :
    s.hub ≠ .panicked ∧
    (∀ c, (∃ teamID, c ∈ s.members teamID) ↔
      .registered c ∈ s.log ∧ (s.client c).send.closed = false) ∧
    (∀ c teamID, c ∈ s.members teamID → teamID = (s.client c).teamID) ∧
    (∀ teamID clients, s.rooms teamID = some clients → clients ≠ ∅) := by
  have hinv := inv_run h
  refine ⟨hinv.table.running, fun c => ?_, fun c teamID hc => (hinv.table.teamID_of_mem hc).symm,
    fun teamID clients hr => (hinv.table.nonempty teamID clients hr).ne_empty⟩
  rw [hinv.logged.recorded c]
  constructor
  · rintro ⟨teamID, hc⟩
    obtain ⟨hreg, hopen, -⟩ := (hinv.table.member_iff c teamID).mp hc
    exact ⟨hreg, hopen⟩
  · rintro ⟨hreg, hopen⟩
    exact ⟨(s.client c).teamID, (hinv.table.member_iff c _).mpr ⟨hreg, hopen, rfl⟩⟩

/-- Client 0 joins and, its writer being slow, misses the last of 33 events. -/
def evictionRun : List Action := sampleJoin ++ (List.replicate 33 sampleBroadcast).flatten

theorem table_consistent_sample :
    ∃ s, run sampleCodec evictionRun = some s ∧ s.hub ≠ .panicked ∧
      ((∃ teamID, 0 ∈ s.members teamID) ↔
        .registered 0 ∈ s.log ∧ (s.client 0).send.closed = false) := by
  have hrun : (run sampleCodec evictionRun).isSome = true := by decide +kernel
  obtain ⟨s, hs⟩ := Option.isSome_iff_exists.mp hrun
  have htable := table_consistent hs
  exact ⟨s, hs, htable.1, htable.2.1 0⟩

/-- A request that is pending can be taken whenever the hub waits at its `select`. -/
theorem unregister_enabled {s : State} {c : ClientId} (hhub : s.hub = .selecting)
    (hpending : 0 < (s.client c).evictions) : ∃ t, s.unregister c .eviction = some t := by
  have htake : (s.client c).takeUnregister .eviction =
      some { s.client c with evictions := (s.client c).evictions - 1 } := if_pos hpending
  unfold State.unregister
  rw [hhub, htake]
  exact ⟨_, rfl⟩

/-- **An eviction is never lost.**  A client still in a room that missed a message has an
unregister request under way, which the hub can take at its `select`; and whichever request for a
client the hub takes, that client is removed with its channel closed, and every other client keeps
its rooms and its channel. -/
theorem eviction_never_lost {as : List Action} {s : State} (h : run codec as = some s) :
    (∀ c teamID, c ∈ s.members teamID → (s.client c).dropped ≠ [] →
      0 < (s.client c).evictions) ∧
    (∀ c, s.hub = .selecting → 0 < (s.client c).evictions →
      ∃ t, step codec s (.unregister c .eviction) = some t) ∧
    (∀ c sender t, step codec s (.unregister c sender) = some t →
      (∀ teamID, c ∉ t.members teamID) ∧ (t.client c).send.closed = true ∧
      ∀ d, d ≠ c → t.client d = s.client d ∧
        ∀ teamID, d ∈ t.members teamID ↔ d ∈ s.members teamID) := by
  have hinv := inv_run h
  refine ⟨?_, fun c hhub hpending => unregister_enabled hhub hpending, ?_⟩
  · intro c teamID hc hdropped
    exact (hinv.mailbox c).evicting hdropped (hinv.table.open_of_mem hc)
  · intro c sender t hs
    exact hinv.table.unregister_spec hs

/-- The request is pending, and taking it removes the client. -/
theorem eviction_never_lost_sample :
    ∃ s t, run sampleCodec evictionRun = some s ∧ 0 ∈ s.members 1 ∧ (s.client 0).dropped ≠ [] ∧
      0 < (s.client 0).evictions ∧ step sampleCodec s (.unregister 0 .eviction) = some t ∧
      0 ∉ t.members 1 ∧ (t.client 0).send.closed = true := by
  have hrun : (run sampleCodec evictionRun).map
      (fun s => (decide (0 ∈ s.members 1), decide ((s.client 0).dropped ≠ []),
        decide (s.hub = .selecting))) = some (true, true, true) := by decide +kernel
  obtain ⟨s, hs, hstate⟩ := Option.map_eq_some_iff.mp hrun
  rw [Prod.mk.injEq, Prod.mk.injEq, decide_eq_true_eq, decide_eq_true_eq,
    decide_eq_true_eq] at hstate
  obtain ⟨hmem, hdropped, hhub⟩ := hstate
  obtain ⟨hnever, henabled, htaken⟩ := eviction_never_lost hs
  have hpending := hnever 0 1 hmem hdropped
  obtain ⟨t, ht⟩ := henabled 0 hhub hpending
  obtain ⟨hgone, hclosed, -⟩ := htaken 0 .eviction t ht
  exact ⟨s, t, hs, hmem, hdropped, hpending, ht, hgone 1, hclosed⟩

/-! ### Gaps -/

/-- What the mailbox accepted is an initial part of what it was offered. -/
def Mailbox.GapFree (m : Mailbox) : Prop := m.client.accepted <+: m.offered

/-- No client's stream has a gap. -/
def State.GapFree (s : State) : Prop := ∀ c, (s.client c).accepted <+: s.offered c

/-- If the range loop reaches a client with an eviction pending, then the client's buffer is still
full. -/
def NoRefill (s : State) (a : Action) : Prop :=
  ∀ c, a = .range c →
    (s.client c).evictions = 0 ∨ (s.client c).send.buffer.length = sendCapacity

/-- A step that tries no message keeps the stream as it is, or lengthens what is offered. -/
theorem Mailbox.GapFree.step {m m' : Mailbox} (h : m.GapFree) (hs : m.Step m')
    (hdue : m'.due = none → m.due = none) : m'.GapFree := by
  cases hs with
  | serve habsent => exact List.nil_prefix
  | register hstage => exact h
  | @unregister cl sender ch hnone htake hclosed hbuffer =>
      obtain ⟨-, -, -, -, -, -, hattempts⟩ := takeUnregister_eq_some htake
      show cl.accepted <+: m.offered
      rw [(attempts_congr hattempts).1]
      exact h
  | offer hnone hreg hopen hteam => exact h.trans (List.prefix_append _ _)
  | visit hsome hvisit =>
      have hnone := hdue rfl
      rw [hsome] at hnone
      cases hnone
  | @pump cl hreg hpump =>
      show cl.accepted <+: m.offered
      rw [(attempts_congr hpump.keeps.1).1]
      exact h

/-- Where the numbers of the messages increase, no message stands at two places. -/
theorem prefix_snoc_iff {xs ys : List RoomMessage} {msg : RoomMessage}
    (hmono : (ys ++ [msg]).Pairwise (fun m m' => m.seq < m'.seq)) (hle : xs.length ≤ ys.length) :
    xs ++ [msg] <+: ys ++ [msg] ↔ xs = ys := by
  constructor
  · intro hprefix
    by_contra hne
    have hshort : xs.length < ys.length := by
      rcases Nat.lt_or_eq_of_le hle with hlt | heq
      · exact hlt
      · have hfull := hprefix.eq_of_length (by simp [heq])
        exact absurd (List.append_cancel_right hfull) hne
    have hmem : msg ∈ ys := by
      have hys : xs ++ [msg] <+: ys :=
        List.prefix_of_prefix_length_le hprefix (List.prefix_append _ _) (by simp; omega)
      exact hys.subset (List.mem_append_right xs (List.mem_singleton_self msg))
    have hlt := (List.pairwise_append.mp hmono).2.2 msg hmem msg (List.mem_singleton_self msg)
    exact Nat.lt_irrefl _ hlt
  · rintro rfl
    exact List.prefix_rfl

/-- **One visit of the range loop.**  It leaves the stream without a gap exactly when the client
has no eviction pending or its buffer is full. -/
theorem Mailbox.GapFree.visit_iff {m : Mailbox} {msg : RoomMessage} {cl : Client} (h : m.Inv)
    (hmono : m.offered.Pairwise (fun m m' => m.seq < m'.seq)) (hgap : m.GapFree)
    (hdue : m.due = some msg) (hvisit : Visit msg m.client cl) :
    cl.accepted <+: m.offered ↔
      m.client.evictions = 0 ∨ m.client.send.buffer.length = sendCapacity := by
  have haccount := h.account
  rw [hdue, Option.toList_some] at haccount
  cases hvisit with
  | @sent ch hsend =>
      obtain ⟨hopen, hroom, -⟩ := trySend_eq_sent hsend
      have hmissed : m.client.evictions = 0 ↔ m.client.dropped = [] := by
        constructor
        · intro hzero
          by_contra hne
          have hpos := h.evicting hne hopen
          omega
        · intro hnil
          by_contra hne
          exact h.evicted (Nat.pos_of_ne_zero hne) hnil
      have hcomplete : m.client.accepted = m.client.reached ↔ m.client.dropped = [] := by
        constructor
        · intro heq
          by_contra hne
          have hlt := accepted_length_lt hne
          rw [heq] at hlt
          exact Nat.lt_irrefl _ hlt
        · exact accepted_eq_reached
      have hle : m.client.accepted.length ≤ m.client.reached.length :=
        (accepted_sublist_reached m.client).length_le
      have hprefix := prefix_snoc_iff (haccount ▸ hmono) hle
      rw [(accepted_snoc_true rfl).1, ← haccount, hprefix, hcomplete, ← hmissed]
      exact (or_iff_left (Nat.ne_of_lt hroom)).symm
  | full hsend =>
      refine iff_of_true ?_ (Or.inr (trySend_eq_full hsend).2)
      rw [(accepted_snoc_false rfl).1]
      exact hgap

/-- Only the range loop, on its visit, takes away the message that a client is due. -/
theorem range_of_due {s t : State} {a : Action} {c : ClientId} (h : Inv s)
    (hs : step codec s a = some t) (hdue : s.hub.due c ≠ none) (hdone : t.hub.due c = none) :
    a = .range c := by
  have hkeep : t.hub = s.hub → a = .range c := by
    intro hhub
    rw [hhub] at hdone
    exact absurd hdone hdue
  have hselecting : s.hub = .selecting → a = .range c := by
    intro hhub
    rw [hhub] at hdue
    exact absurd rfl hdue
  cases a with
  | redis raw => exact hkeep (subscriber_frame codec h.table (Or.inl ⟨raw, hs⟩)).2.2
  | enqueue => exact hkeep (subscriber_frame codec h.table (Or.inr (Or.inl hs))).2.2
  | stop => exact hkeep (subscriber_frame codec h.table (Or.inr (Or.inr hs))).2.2
  | serve d teamID =>
      simp only [step, State.serve] at hs
      split at hs
      · cases hs
        exact hkeep rfl
      · cases hs
  | register d => exact hselecting (register_eq_some hs).1
  | unregister d sender => exact hselecting (unregister_eq_some hs).1
  | startBroadcast => exact hselecting (startBroadcast_eq_some hs).1
  | range d =>
      obtain ⟨msg, remaining, cl, hhub, -, -, rfl⟩ := range_eq_some h.table hs
      by_cases hcd : c = d
      · rw [hcd]
      · refine absurd ?_ hdue
        simpa [HubPc.due, hhub, hcd] using hdone
  | endBroadcast =>
      obtain ⟨msg, hhub, -⟩ := endBroadcast_eq_some hs
      simp [hhub, HubPc.due] at hdue
  | readError d =>
      obtain ⟨cl, -, rfl⟩ := Option.map_eq_some_iff.mp hs
      exact hkeep rfl
  | closeConn d =>
      obtain ⟨cl, -, rfl⟩ := Option.map_eq_some_iff.mp hs
      exact hkeep rfl
  | receive d =>
      obtain ⟨cl, -, rfl⟩ := Option.map_eq_some_iff.mp hs
      exact hkeep rfl
  | write d ok =>
      obtain ⟨cl, -, rfl⟩ := Option.map_eq_some_iff.mp hs
      exact hkeep rfl
  | ping d ok =>
      obtain ⟨cl, -, rfl⟩ := Option.map_eq_some_iff.mp hs
      exact hkeep rfl

/-- What the exactness of one step rests on: the invariants, and the order of what is offered. -/
structure Ordered (codec : EventCodec δ) (s : State) : Prop where
  inv : Inv s
  conserved : Conserved codec s

theorem Ordered.initial : Ordered codec State.initial := ⟨Inv.initial, rfl⟩

theorem Ordered.step {s t : State} {a : Action} (h : Ordered codec s)
    (hs : Chat.step codec s a = some t) : Ordered codec t :=
  ⟨h.inv.step hs, h.conserved.step codec h.inv.table hs⟩

/-- **One step.**  It keeps every stream free of gaps exactly when it refills none. -/
theorem gapFree_step_iff {s t : State} {a : Action} (h : Ordered codec s) (hgap : s.GapFree)
    (hs : step codec s a = some t) : t.GapFree ↔ NoRefill s a := by
  have hother : ∀ d, a ≠ .range d → (t.client d).accepted <+: t.offered d := by
    intro d hne
    rcases step_mailbox h.inv.table h.inv.logged hs d with heq | hstep
    · have hsame : Mailbox.GapFree (t.mailbox d) := heq ▸ hgap d
      exact hsame
    · refine Mailbox.GapFree.step (m := s.mailbox d) (hgap d) hstep fun hdone => ?_
      by_contra hdue
      exact hne (range_of_due h.inv hs hdue hdone)
  have hvisited : ∀ c, a = .range c → ((t.client c).accepted <+: t.offered c ↔
      (s.client c).evictions = 0 ∨ (s.client c).send.buffer.length = sendCapacity) := by
    rintro c rfl
    obtain ⟨msg, remaining, cl, hhub, hc, hvisit, rfl⟩ := range_eq_some h.inv.table hs
    have hdue : (s.mailbox c).due = some msg := by
      simp only [State.mailbox, hhub, HubPc.due, if_pos hc]
    have hmono := offered_pairwise codec h.conserved c
    have hiff := Mailbox.GapFree.visit_iff (h.inv.mailbox c) hmono (hgap c) hdue hvisit
    have hteam : cl.teamID = (s.client c).teamID := hvisit.same.1
    simpa [State.offered, State.mailbox, hteam] using hiff
  constructor
  · intro ht c hc
    exact (hvisited c hc).mp (ht c)
  · intro hok d
    by_cases hd : a = .range d
    · exact (hvisited d hd).mpr (hok d hd)
    · exact hother d hd

/-- **When the streams have no gap.**  In every run, every stream is contiguous in every state
visited exactly when every step of the run refills none. -/
theorem gap_free_iff_no_refill {as : List Action} {s : State} (h : run codec as = some s) :
    Runs.Throughout (step codec) State.GapFree State.initial as ↔
      Runs.Meets (step codec) NoRefill State.initial as :=
  Runs.throughout_iff_meets (step codec) (I := Ordered codec) (fun _ _ _ h hs => h.step hs)
    (fun _ _ _ h hgap hs => gapFree_step_iff h hgap hs) Ordered.initial
    (fun _ => List.nil_prefix) h

/-- After the 33rd event was dropped the writer frees a slot, and the 34th event gets in before
the eviction is taken. -/
def gapRun : List Action := evictionRun ++ [.receive 0] ++ sampleBroadcast

theorem gap_free_iff_no_refill_sample :
    ∃ s, run sampleCodec gapRun = some s ∧
      (Runs.Throughout (step sampleCodec) State.GapFree State.initial gapRun ↔
        Runs.Meets (step sampleCodec) NoRefill State.initial gapRun) := by
  have hrun : (run sampleCodec gapRun).isSome = true := by decide +kernel
  obtain ⟨s, hs⟩ := Option.isSome_iff_exists.mp hrun
  exact ⟨s, hs, gap_free_iff_no_refill hs⟩

/-- **A stream with a gap.** -/
theorem gap_after_refill : ∃ s, run sampleCodec gapRun = some s ∧ ¬ s.GapFree := by
  have hrun : (run sampleCodec gapRun).map
      (fun s => decide ((s.client 0).accepted <+: s.offered 0)) = some false := by decide +kernel
  obtain ⟨s, hs, hgap⟩ := Option.map_eq_some_iff.mp hrun
  exact ⟨s, hs, fun h => of_decide_eq_false hgap (h 0)⟩

end SocketServer.Chat

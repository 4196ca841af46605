import SocketServer.Chat.Hub

/-!
# The room table of the hub

`Table` is the invariant behind the hub's map of rooms: a client is in the table exactly when its
registration was processed and its channel is open, it is then in the room of its own team only,
no room is empty, and the range loop visits members only.  Every action keeps it
(`Table.step`); the two panics, a send on a closed channel and a second close,
are ruled out on the way.
-/

namespace SocketServer.Chat

open SocketServer.GoChannel SocketServer.Text

/-! ### The table under updates -/

theorem members_of_eq_some {s : State} {teamID : Int} {clients : Finset ClientId}
    (h : s.rooms teamID = some clients) : s.members teamID = clients := by
  rw [State.members, h, Option.getD_some]

theorem members_of_eq_none {s : State} {teamID : Int} (h : s.rooms teamID = none) :
    s.members teamID = ∅ := by
  rw [State.members, h, Option.getD_none]

/-- The three ways through the body of the unregister case. -/
theorem remove_cases (s : State) (c : ClientId) :
    (c ∉ s.members (s.client c).teamID ∧ s.remove c = s) ∨
    (c ∈ s.members (s.client c).teamID ∧ (s.client c).send.closed = true ∧
      s.remove c = { s with hub := .panicked }) ∨
    (∃ clients ch, s.rooms (s.client c).teamID = some clients ∧ c ∈ clients ∧
      (s.client c).send.close = some ch ∧
      s.remove c = { s with
        rooms := Function.update s.rooms (s.client c).teamID
          (if clients.erase c = ∅ then none else some (clients.erase c))
        client := Function.update s.client c { s.client c with send := ch } }) := by
  unfold State.remove
  cases hr : s.rooms (s.client c).teamID with
  | none =>
      refine Or.inl ⟨?_, rfl⟩
      rw [members_of_eq_none hr]
      exact Finset.notMem_empty c
  | some clients =>
      have hm := members_of_eq_some hr
      by_cases hc : c ∈ clients
      · cases hclose : (s.client c).send.close with
        | none =>
            refine Or.inr (Or.inl ⟨hm ▸ hc, close_eq_none hclose, ?_⟩)
            simp only [if_pos hc]
        | some ch =>
            refine Or.inr (Or.inr ⟨clients, ch, rfl, hc, rfl, ?_⟩)
            simp only [if_pos hc]
      · refine Or.inl ⟨hm ▸ hc, ?_⟩
        simp only [if_neg hc]

/-! ### The invariant -/

/-- What holds of the hub, its table and every client in every reachable state. -/
structure Table (s : State) : Prop where
  running : s.hub ≠ .panicked
  broadcast_open : s.broadcast.closed = false
  nonempty : ∀ teamID clients, s.rooms teamID = some clients → clients.Nonempty
  ranging_subset : ∀ msg remaining, s.hub = .ranging msg remaining →
    remaining ⊆ s.members msg.teamID
  member_iff : ∀ c teamID, c ∈ s.members teamID ↔
    (s.client c).stage = .registered ∧ (s.client c).send.closed = false ∧
      (s.client c).teamID = teamID
  idle : ∀ c, (s.client c).stage ≠ .registered →
    s.client c = { Client.fresh (s.client c).teamID with stage := (s.client c).stage }

theorem Table.initial : Table State.initial where
  running := by simp [State.initial]
  broadcast_open := rfl
  nonempty := by simp [State.initial]
  ranging_subset := by simp [State.initial]
  member_iff := by simp [State.initial, State.members, Client.fresh]
  idle := by simp [State.initial, Client.fresh]

/-- A member of a room is open. -/
theorem Table.open_of_mem {s : State} (h : Table s) {c : ClientId} {teamID : Int}
    (hc : c ∈ s.members teamID) : (s.client c).send.closed = false :=
  ((h.member_iff c teamID).mp hc).2.1

/-- A client is in the room of its team only. -/
theorem Table.teamID_of_mem {s : State} (h : Table s) {c : ClientId} {teamID : Int}
    (hc : c ∈ s.members teamID) : (s.client c).teamID = teamID :=
  ((h.member_iff c teamID).mp hc).2.2

/-- An update of a registered client that keeps its team, its stage and its channel's flag keeps
the invariant; so do changes of the ghost log. -/
theorem Table.setClient {s : State} (h : Table s) {c : ClientId} {cl : Client}
    (log : List HubEvent) (hreg : (s.client c).stage = .registered)
    (hstage : cl.stage = .registered) (hteam : cl.teamID = (s.client c).teamID)
    (hclosed : cl.send.closed = (s.client c).send.closed) :
    Table { s.setClient c cl with log := log } where
  running := h.running
  broadcast_open := h.broadcast_open
  nonempty := h.nonempty
  ranging_subset := h.ranging_subset
  member_iff := by
    intro d teamID
    refine (h.member_iff d teamID).trans ?_
    by_cases hd : d = c
    · subst hd
      simp only [State.setClient, Function.update_self, hreg, hstage, hteam, hclosed]
    · simp only [State.setClient, Function.update_of_ne hd]
  idle := by
    intro d hd
    by_cases hdc : d = c
    · subst hdc
      simp only [State.setClient, Function.update_self, hstage, ne_eq, not_true_eq_false] at hd
    · simp only [State.setClient, Function.update_of_ne hdc] at hd ⊢
      exact h.idle d hd

/-- Changes of the subscriber, of the broadcast channel's buffer and of the ghosts keep the
invariant. -/
theorem Table.setSubscriber {s : State} (h : Table s) (pc : SubscriberPc) (received : List Bytes)
    {ch : Chan RoomMessage broadcastCapacity} (hch : ch.closed = false) :
    Table { s with subscriber := pc, received := received, broadcast := ch } where
  running := h.running
  broadcast_open := hch
  nonempty := h.nonempty
  ranging_subset := h.ranging_subset
  member_iff := h.member_iff
  idle := h.idle

section Actions

variable {δ : Type*} {codec : EventCodec δ} {s t : State} {c : ClientId}

/-! ### Every action keeps the invariant -/

theorem Table.redis (h : Table s) {raw : Bytes} (hs : s.redis codec raw = some t) : Table t := by
  unfold State.redis at hs
  split at hs
  · split at hs
    · cases hs
      exact h.setSubscriber s.subscriber (s.received ++ [raw]) h.broadcast_open
    · cases hs
      exact h.setSubscriber _ (s.received ++ [raw]) h.broadcast_open
  · cases hs

theorem Table.enqueue (h : Table s) (hs : s.enqueue = some t) : Table t := by
  unfold State.enqueue at hs
  split at hs
  · split at hs
    · rename_i ch hsend
      cases hs
      exact h.setSubscriber _ s.received (trySend_eq_sent hsend).2.2.2
    · cases hs
    · rename_i hsend
      have hclosed := trySend_eq_panic hsend
      rw [h.broadcast_open] at hclosed
      cases hclosed
  · cases hs

theorem Table.stop (h : Table s) (hs : s.stop = some t) : Table t := by
  unfold State.stop at hs
  split at hs
  · cases hs
    exact h.setSubscriber _ s.received h.broadcast_open
  · cases hs

/-- Allocating a client touches no room: it was in none and is not registered. -/
theorem Table.serve (h : Table s) {teamID : Int} (hs : s.serve c teamID = some t) : Table t := by
  unfold State.serve at hs
  split at hs
  · rename_i habsent
    cases hs
    have hold : ∀ k, c ∉ s.members k := by
      intro k hk
      have := ((h.member_iff c k).mp hk).1
      rw [habsent] at this
      cases this
    refine ⟨h.running, h.broadcast_open, h.nonempty, h.ranging_subset, ?_, ?_⟩
    · intro d k
      by_cases hd : d = c
      · subst hd
        simp only [State.setClient, Function.update_self, reduceCtorEq, false_and, iff_false]
        exact hold k
      · simp only [State.setClient, Function.update_of_ne hd]
        exact h.member_iff d k
    · intro d hd
      by_cases hdc : d = c
      · subst hdc
        simp only [State.setClient, Function.update_self]
        rfl
      · simp only [State.setClient, Function.update_of_ne hdc] at hd ⊢
        exact h.idle d hd
  · cases hs

theorem register_eq_some (hs : s.register c = some t) :
    s.hub = .selecting ∧ (s.client c).stage = .registering ∧
      t = { s with
        rooms := Function.update s.rooms (s.client c).teamID
          (some (insert c (s.members (s.client c).teamID)))
        client := Function.update s.client c { s.client c with stage := .registered }
        log := s.log ++ [.registered c] } := by
  unfold State.register at hs
  split at hs
  · rename_i hhub
    split at hs
    · rename_i hstage
      cases hs
      exact ⟨hhub, hstage, rfl⟩
    · cases hs
  · cases hs

/-- The rooms after a registration: the client joins the room of its team. -/
theorem members_register (hs : s.register c = some t) (teamID : Int) :
    t.members teamID = if teamID = (s.client c).teamID then insert c (s.members teamID)
      else s.members teamID := by
  obtain ⟨-, -, rfl⟩ := register_eq_some hs
  by_cases hk : teamID = (s.client c).teamID
  · subst hk
    simp only [State.members, Function.update_self, Option.getD_some, if_pos]
  · simp only [State.members, Function.update_of_ne hk, if_neg hk]

theorem Table.register (h : Table s) (hs : s.register c = some t) : Table t := by
  have hmem := members_register hs
  obtain ⟨hhub, hstage, rfl⟩ := register_eq_some hs
  have hfresh := h.idle c (by rw [hstage]; simp)
  refine ⟨h.running, h.broadcast_open, ?_, ?_, ?_, ?_⟩
  · intro k clients hk
    by_cases hkt : k = (s.client c).teamID
    · subst hkt
      simp only [Function.update_self, Option.some.injEq] at hk
      exact hk ▸ Finset.insert_nonempty _ _
    · simp only [Function.update_of_ne hkt] at hk
      exact h.nonempty k clients hk
  · intro msg remaining hr
    rw [hhub] at hr
    cases hr
  · intro d k
    rw [hmem k]
    by_cases hd : d = c
    · subst hd
      have hopen : (s.client d).send.closed = false := by rw [hfresh]; rfl
      have hnot : d ∉ s.members k := by
        intro hk
        have := ((h.member_iff d k).mp hk).1
        rw [hstage] at this
        cases this
      simp only [Function.update_self, hopen, true_and]
      constructor
      · intro hk
        split at hk
        · rename_i hkt
          exact hkt.symm
        · exact absurd hk hnot
      · intro hk
        rw [if_pos hk.symm]
        exact Finset.mem_insert_self d _
    · simp only [Function.update_of_ne hd]
      rw [← h.member_iff d k]
      split
      · exact Finset.mem_insert.trans (or_iff_right hd)
      · rfl
  · intro d hd
    by_cases hdc : d = c
    · subst hdc
      simp only [Function.update_self, ne_eq, not_true_eq_false] at hd
    · simp only [Function.update_of_ne hdc] at hd ⊢
      exact h.idle d hd

/-! ### Unregistering -/

/-- Taking an unregister request consumes one that was waiting and leaves the channel, the team
and the stage alone. -/
theorem takeUnregister_eq_some {cl cl' : Client} {sender : Unregister}
    (h : cl.takeUnregister sender = some cl') :
    (0 < cl.evictions ∨ cl.readPump = .unregistering) ∧ cl'.teamID = cl.teamID ∧
      cl'.stage = cl.stage ∧ cl'.send = cl.send ∧ cl'.writePump = cl.writePump ∧
      cl'.frames = cl.frames ∧ cl'.attempts = cl.attempts := by
  cases sender with
  | eviction =>
      simp only [Client.takeUnregister] at h
      split at h
      · rename_i hpos
        cases h
        exact ⟨Or.inl hpos, rfl, rfl, rfl, rfl, rfl, rfl⟩
      · cases h
  | readPump =>
      simp only [Client.takeUnregister] at h
      split at h
      · rename_i hread
        cases h
        exact ⟨Or.inr hread, rfl, rfl, rfl, rfl, rfl, rfl⟩
      · cases h

/-- Only a registered client has unregister requests waiting. -/
theorem Table.registered_of_request (h : Table s)
    (hreq : 0 < (s.client c).evictions ∨ (s.client c).readPump = .unregistering) :
    (s.client c).stage = .registered := by
  by_contra hne
  have hfresh := h.idle c hne
  rcases hreq with hpos | hread
  · rw [hfresh] at hpos
    exact absurd hpos (Nat.lt_irrefl 0)
  · rw [hfresh] at hread
    cases hread

theorem unregister_eq_some {sender : Unregister} (hs : s.unregister c sender = some t) :
    s.hub = .selecting ∧ ∃ cl, (s.client c).takeUnregister sender = some cl ∧
      t = { (s.setClient c cl).remove c with log := s.log ++ [.unregistered c] } := by
  unfold State.unregister at hs
  split at hs
  · rename_i hhub
    split at hs
    · cases hs
    · rename_i cl htake
      cases hs
      exact ⟨hhub, cl, htake, rfl⟩
  · cases hs

/-- The rooms after a removal: the client has left the room of its team. -/
theorem Table.members_remove (h : Table s) (teamID : Int) :
    (s.remove c).members teamID = (s.members teamID).erase c := by
  have hother : teamID ≠ (s.client c).teamID → c ∉ s.members teamID := fun hne hc =>
    hne (h.teamID_of_mem hc).symm
  rcases remove_cases s c with ⟨hnot, heq⟩ | ⟨hmem, hclosed, -⟩ | ⟨clients, ch, hr, hc, -, heq⟩
  · rw [heq]
    by_cases hk : teamID = (s.client c).teamID
    · rw [hk, Finset.erase_eq_of_notMem hnot]
    · rw [Finset.erase_eq_of_notMem (hother hk)]
  · rw [h.open_of_mem hmem] at hclosed
    cases hclosed
  · rw [heq]
    by_cases hk : teamID = (s.client c).teamID
    · subst hk
      rw [members_of_eq_some hr]
      simp only [State.members, Function.update_self]
      split
      · rename_i hempty
        rw [hempty, Option.getD_none]
      · rw [Option.getD_some]
    · rw [Finset.erase_eq_of_notMem (hother hk)]
      simp only [State.members, Function.update_of_ne hk]

/-- What a removal does to the client: a registered one ends with its channel closed, its buffer
and everything else as it was. -/
theorem Table.remove_client (h : Table s) (hreg : (s.client c).stage = .registered) :
    ∃ ch : Chan RoomMessage sendCapacity, ch.closed = true ∧
      ch.buffer = (s.client c).send.buffer ∧
      (s.remove c).client = Function.update s.client c { s.client c with send := ch } := by
  rcases remove_cases s c with ⟨hnot, heq⟩ | ⟨hmem, hclosed, -⟩ | ⟨clients, ch, hr, hc, hcl, heq⟩
  · refine ⟨(s.client c).send, ?_, rfl, ?_⟩
    · by_contra hopen
      rw [Bool.not_eq_true] at hopen
      exact hnot ((h.member_iff c _).mpr ⟨hreg, hopen, rfl⟩)
    · rw [heq]
      exact (Function.update_eq_self c s.client).symm
  · rw [h.open_of_mem hmem] at hclosed
    cases hclosed
  · exact ⟨ch, (close_eq_some hcl).2.2, (close_eq_some hcl).2.1, by rw [heq]⟩

/-- A removal touches the rooms and the clients only. -/
theorem Table.remove_rest (h : Table s) :
    (s.remove c).hub = s.hub ∧ (s.remove c).broadcast = s.broadcast ∧
      (s.remove c).subscriber = s.subscriber ∧ (s.remove c).received = s.received := by
  rcases remove_cases s c with ⟨-, heq⟩ | ⟨hmem, hclosed, -⟩ | ⟨clients, ch, -, -, -, heq⟩
  · rw [heq]
    exact ⟨rfl, rfl, rfl, rfl⟩
  · rw [h.open_of_mem hmem] at hclosed
    cases hclosed
  · rw [heq]
    exact ⟨rfl, rfl, rfl, rfl⟩

theorem Table.remove_nonempty (h : Table s) (teamID : Int) (clients : Finset ClientId)
    (hk : (s.remove c).rooms teamID = some clients) : clients.Nonempty := by
  rcases remove_cases s c with ⟨-, heq⟩ | ⟨hmem, hclosed, -⟩ | ⟨old, ch, -, -, -, heq⟩
  · rw [heq] at hk
    exact h.nonempty teamID clients hk
  · rw [h.open_of_mem hmem] at hclosed
    cases hclosed
  · rw [heq] at hk
    by_cases hkt : teamID = (s.client c).teamID
    · subst hkt
      simp only [Function.update_self] at hk
      split at hk
      · cases hk
      · rename_i hne
        cases hk
        exact Finset.nonempty_iff_ne_empty.mpr hne
    · simp only [Function.update_of_ne hkt] at hk
      exact h.nonempty teamID clients hk

/-- Removing a registered client keeps the invariant; the hub is at its `select`. -/
theorem Table.remove (h : Table s) (log : List HubEvent) (hhub : s.hub = .selecting)
    (hreg : (s.client c).stage = .registered) : Table { s.remove c with log := log } := by
  obtain ⟨ch, hclosed, -, hclient⟩ := h.remove_client hreg
  obtain ⟨hhub', hbroadcast, -, -⟩ := h.remove_rest (c := c)
  refine ⟨?_, ?_, h.remove_nonempty, ?_, ?_, ?_⟩
  · exact fun hp => h.running (hhub'.symm.trans hp)
  · exact (congrArg Chan.closed hbroadcast).trans h.broadcast_open
  · intro msg remaining hr
    rw [show ({ s.remove c with log := log } : State).hub = .selecting from hhub'.trans hhub] at hr
    cases hr
  · intro d k
    refine Iff.trans (b := d ∈ (s.members k).erase c) (by rw [← h.members_remove k]; rfl) ?_
    rw [Finset.mem_erase, h.member_iff d k]
    simp only [hclient]
    by_cases hd : d = c
    · subst hd
      simp [hclosed]
    · simp only [Function.update_of_ne hd, ne_eq, hd, not_false_eq_true, true_and]
  · intro d hd
    simp only [hclient] at hd ⊢
    by_cases hdc : d = c
    · subst hdc
      simp only [Function.update_self, hreg, ne_eq, not_true_eq_false] at hd
    · simp only [Function.update_of_ne hdc] at hd ⊢
      exact h.idle d hd

theorem Table.unregister (h : Table s) {sender : Unregister}
    (hs : s.unregister c sender = some t) : Table t := by
  obtain ⟨hhub, cl, htake, rfl⟩ := unregister_eq_some hs
  obtain ⟨hreq, hteam, hstage, hsend, -⟩ := takeUnregister_eq_some htake
  have hreg := h.registered_of_request hreq
  have htaken : Table (s.setClient c cl) :=
    h.setClient s.log hreg (hstage.trans hreg) hteam (congrArg Chan.closed hsend)
  refine htaken.remove _ hhub ?_
  simp only [State.setClient, Function.update_self, hstage, hreg]

/-- **Taking an unregister request.**  Whoever sent it, the client is out of the table and its
channel is closed afterwards; every other client, and every other client's rooms, are as they
were. -/
theorem Table.unregister_spec (h : Table s) {sender : Unregister}
    (hs : s.unregister c sender = some t) :
    (∀ teamID, c ∉ t.members teamID) ∧ (t.client c).send.closed = true ∧
      ∀ d, d ≠ c → t.client d = s.client d ∧
        ∀ teamID, d ∈ t.members teamID ↔ d ∈ s.members teamID := by
  obtain ⟨hhub, cl, htake, rfl⟩ := unregister_eq_some hs
  obtain ⟨hreq, hteam, hstage, hsend, -⟩ := takeUnregister_eq_some htake
  have hreg := h.registered_of_request hreq
  have htaken : Table (s.setClient c cl) :=
    h.setClient s.log hreg (hstage.trans hreg) hteam (congrArg Chan.closed hsend)
  have hreg' : ((s.setClient c cl).client c).stage = .registered := by
    simp only [State.setClient, Function.update_self, hstage, hreg]
  obtain ⟨ch, hclosed, -, hclient⟩ := htaken.remove_client hreg'
  have hmem : ∀ k d, d ∈ ((s.setClient c cl).remove c).members k ↔ d ≠ c ∧ d ∈ s.members k := by
    intro k d
    rw [htaken.members_remove k, Finset.mem_erase]
    rfl
  refine ⟨fun k hk => ((hmem k c).mp hk).1 rfl, ?_, fun d hd => ⟨?_, fun k => ?_⟩⟩
  · simp only [hclient, Function.update_self, hclosed]
  · simp only [hclient, Function.update_of_ne hd]
    simp only [State.setClient, Function.update_of_ne hd]
  · exact (hmem k d).trans (and_iff_right hd)

/-! ### Broadcasting -/

theorem startBroadcast_eq_some (hs : s.startBroadcast = some t) :
    s.hub = .selecting ∧ ∃ msg ch, s.broadcast.recv = .value msg ch ∧
      t = { s with
        broadcast := ch
        hub := .ranging msg (s.members msg.teamID)
        log := s.log ++ [.broadcast msg] } := by
  unfold State.startBroadcast at hs
  split at hs
  · rename_i hhub
    split at hs
    · rename_i msg ch hrecv
      cases hs
      exact ⟨hhub, msg, ch, hrecv, rfl⟩
    · cases hs
  · cases hs

theorem Table.startBroadcast (h : Table s) (hs : s.startBroadcast = some t) : Table t := by
  obtain ⟨-, msg, ch, hrecv, rfl⟩ := startBroadcast_eq_some hs
  refine ⟨by simp, (recv_eq_value hrecv).2.trans h.broadcast_open, h.nonempty, ?_,
    h.member_iff, h.idle⟩
  intro m remaining hr
  simp only [HubPc.ranging.injEq] at hr
  obtain ⟨rfl, rfl⟩ := hr
  exact subset_rfl

/-- What one iteration of the range loop does to the client it visits: its buffer takes the
message, or a goroutine that asks for its removal is spawned. -/
inductive Visit (msg : RoomMessage) (cl : Client) : Client → Prop
  | sent {ch : Chan RoomMessage sendCapacity} (h : cl.send.trySend msg = .sent ch) :
      Visit msg cl { cl with send := ch, attempts := cl.attempts ++ [(msg, true)] }
  | full (h : cl.send.trySend msg = .full) :
      Visit msg cl { cl with
        evictions := cl.evictions + 1, attempts := cl.attempts ++ [(msg, false)] }

theorem range_eq_some (h : Table s) (hs : s.range c = some t) :
    ∃ msg remaining cl, s.hub = .ranging msg remaining ∧ c ∈ remaining ∧
      Visit msg (s.client c) cl ∧
      t = { s with
        hub := .ranging msg (remaining.erase c)
        client := Function.update s.client c cl } := by
  unfold State.range at hs
  split at hs
  · rename_i msg remaining hhub
    split at hs
    · rename_i hc
      split at hs
      · rename_i ch hsend
        cases hs
        exact ⟨msg, remaining, _, hhub, hc, .sent hsend, rfl⟩
      · rename_i hsend
        cases hs
        exact ⟨msg, remaining, _, hhub, hc, .full hsend, rfl⟩
      · -- a member's channel is open, so the send does not panic
        rename_i hsend
        have hopen := h.open_of_mem (h.ranging_subset msg remaining hhub hc)
        rw [trySend_eq_panic hsend] at hopen
        cases hopen
    · cases hs
  · cases hs

theorem Visit.same {msg : RoomMessage} {cl cl' : Client} (h : Visit msg cl cl') :
    cl'.teamID = cl.teamID ∧ cl'.stage = cl.stage ∧ cl'.send.closed = cl.send.closed := by
  cases h with
  | sent hsend =>
      have hspec := trySend_eq_sent hsend
      exact ⟨rfl, rfl, hspec.2.2.2.trans hspec.1.symm⟩
  | full hsend => exact ⟨rfl, rfl, rfl⟩

theorem Table.range (h : Table s) (hs : s.range c = some t) : Table t := by
  obtain ⟨msg, remaining, cl, hhub, hc, hvisit, rfl⟩ := range_eq_some h hs
  obtain ⟨hteam, hstage, hclosed⟩ := hvisit.same
  have hmem := h.ranging_subset msg remaining hhub
  have hreg := ((h.member_iff c _).mp (hmem hc)).1
  have hset := h.setClient s.log hreg (hstage.trans hreg) hteam hclosed
  refine ⟨by simp, hset.broadcast_open, hset.nonempty, ?_, hset.member_iff, hset.idle⟩
  intro m rest hr
  simp only [HubPc.ranging.injEq] at hr
  obtain ⟨rfl, rfl⟩ := hr
  exact (Finset.erase_subset c remaining).trans hmem

theorem endBroadcast_eq_some (hs : s.endBroadcast = some t) :
    ∃ msg, s.hub = .ranging msg ∅ ∧ t = { s with hub := .selecting } := by
  unfold State.endBroadcast at hs
  split at hs
  · rename_i msg remaining hhub
    split at hs
    · rename_i hempty
      cases hs
      exact ⟨msg, hempty ▸ hhub, rfl⟩
    · cases hs
  · cases hs

theorem Table.endBroadcast (h : Table s) (hs : s.endBroadcast = some t) : Table t := by
  obtain ⟨msg, -, rfl⟩ := endBroadcast_eq_some hs
  exact ⟨by simp, h.broadcast_open, h.nonempty, by simp, h.member_iff, h.idle⟩

/-! ### The pumps -/

/-- The actions of the two pumps; each of them works on its own client. -/
inductive Pump (cl : Client) : Client → Prop
  | readError {cl' : Client} (h : cl.readError = some cl') : Pump cl cl'
  | closeConn {cl' : Client} (h : cl.closeConn = some cl') : Pump cl cl'
  | receive {cl' : Client} (h : cl.receive = some cl') : Pump cl cl'
  | write {cl' : Client} {ok : Bool} (h : cl.write ok = some cl') : Pump cl cl'
  | ping {cl' : Client} {ok : Bool} (h : cl.ping ok = some cl') : Pump cl cl'

theorem readError_eq_some {cl cl' : Client} (h : cl.readError = some cl') :
    cl.stage = .registered ∧ cl' = { cl with readPump := .unregistering } := by
  unfold Client.readError at h
  split at h
  · rename_i hguard
    cases h
    exact ⟨hguard.1, rfl⟩
  · cases h

theorem closeConn_eq_some {cl cl' : Client} (h : cl.closeConn = some cl') :
    cl.readPump = .closing ∧ cl' = { cl with readPump := .returned, connClosed := true } := by
  unfold Client.closeConn at h
  split at h
  · rename_i hread
    cases h
    exact ⟨hread, rfl⟩
  · cases h

theorem receive_eq_some {cl cl' : Client} (h : cl.receive = some cl') :
    cl.stage = .registered ∧ cl.writePump = .selecting ∧
      ((∃ msg ch, cl.send.recv = .value msg ch ∧
          cl' = { cl with send := ch, writePump := .writing (some msg) }) ∨
        (cl.send.recv = .closed ∧ cl' = { cl with writePump := .writing none })) := by
  unfold Client.receive at h
  split at h
  · rename_i hguard
    split at h
    · rename_i msg ch hrecv
      cases h
      exact ⟨hguard.1, hguard.2, Or.inl ⟨msg, ch, hrecv, rfl⟩⟩
    · rename_i hrecv
      cases h
      exact ⟨hguard.1, hguard.2, Or.inr ⟨hrecv, rfl⟩⟩
    · cases h
  · cases h

theorem write_eq_some {cl cl' : Client} {ok : Bool} (h : cl.write ok = some cl') :
    (∃ msg, cl.writePump = .writing (some msg) ∧
      ((ok = true ∧ cl' = { cl with
          writePump := .selecting, frames := cl.frames ++ [.text msg.payload] }) ∨
        (ok = false ∧ cl' = { cl with writePump := .returned, connClosed := true }))) ∨
    (cl.writePump = .writing none ∧ cl' = { cl with
      writePump := .returned
      connClosed := true
      frames := if ok then cl.frames ++ [.close] else cl.frames }) := by
  unfold Client.write at h
  split at h
  · cases h
  · split at h
    · rename_i msg hpc
      split at h
      · rename_i hok
        cases h
        exact Or.inl ⟨msg, hpc, Or.inl ⟨hok, rfl⟩⟩
      · rename_i hok
        cases h
        exact Or.inl ⟨msg, hpc, Or.inr ⟨by simpa using hok, rfl⟩⟩
    · rename_i hpc
      cases h
      exact Or.inr ⟨hpc, rfl⟩
    · cases h

theorem ping_eq_some {cl cl' : Client} {ok : Bool} (h : cl.ping ok = some cl') :
    cl.stage = .registered ∧ cl.writePump = .selecting ∧
      (cl' = { cl with frames := cl.frames ++ [.ping] } ∨
        cl' = { cl with writePump := .returned, connClosed := true }) := by
  unfold Client.ping at h
  split at h
  · cases h
  · split at h
    · rename_i hguard
      split at h
      · cases h
        exact ⟨hguard.1, hguard.2, Or.inl rfl⟩
      · cases h
        exact ⟨hguard.1, hguard.2, Or.inr rfl⟩
    · cases h

/-- A pump keeps the client's team, stage and channel flag. -/
theorem Pump.same {cl cl' : Client} (h : Pump cl cl') :
    cl'.teamID = cl.teamID ∧ cl'.stage = cl.stage ∧ cl'.send.closed = cl.send.closed := by
  cases h with
  | readError h =>
      obtain ⟨-, rfl⟩ := readError_eq_some h
      exact ⟨rfl, rfl, rfl⟩
  | closeConn h =>
      obtain ⟨-, rfl⟩ := closeConn_eq_some h
      exact ⟨rfl, rfl, rfl⟩
  | receive h =>
      obtain ⟨-, -, ⟨msg, ch, hrecv, rfl⟩ | ⟨-, rfl⟩⟩ := receive_eq_some h
      · exact ⟨rfl, rfl, (recv_eq_value hrecv).2⟩
      · exact ⟨rfl, rfl, rfl⟩
  | write h =>
      obtain ⟨msg, -, ⟨-, rfl⟩ | ⟨-, rfl⟩⟩ | ⟨-, rfl⟩ := write_eq_some h
      · exact ⟨rfl, rfl, rfl⟩
      · exact ⟨rfl, rfl, rfl⟩
      · exact ⟨rfl, rfl, rfl⟩
  | ping h =>
      obtain ⟨-, -, rfl | rfl⟩ := ping_eq_some h
      · exact ⟨rfl, rfl, rfl⟩
      · exact ⟨rfl, rfl, rfl⟩

/-- Only a registered client's pumps act: before that they are at their start with nothing
received. -/
theorem Table.registered_of_pump (h : Table s) {cl : Client} (hp : Pump (s.client c) cl) :
    (s.client c).stage = .registered := by
  cases hp with
  | readError h => exact (readError_eq_some h).1
  | closeConn hclose =>
      by_contra hne
      have hread := (closeConn_eq_some hclose).1
      rw [h.idle c hne] at hread
      cases hread
  | receive h => exact (receive_eq_some h).1
  | write hw =>
      by_contra hne
      have hfresh := h.idle c hne
      have hpc : (s.client c).writePump = .selecting := by rw [hfresh]; rfl
      obtain ⟨msg, hwr, -⟩ | ⟨hwr, -⟩ := write_eq_some hw
      · rw [hpc] at hwr
        cases hwr
      · rw [hpc] at hwr
        cases hwr
  | ping h => exact (ping_eq_some h).1

theorem Table.pump (h : Table s) {cl : Client} (hp : Pump (s.client c) cl) :
    Table (s.setClient c cl) := by
  obtain ⟨hteam, hstage, hclosed⟩ := hp.same
  have hreg := h.registered_of_pump hp
  exact h.setClient s.log hreg (hstage.trans hreg) hteam hclosed

end Actions

/-! ### Every run keeps the invariant -/

variable {δ : Type*} {codec : EventCodec δ}

theorem Table.step {s t : State} {a : Action} (h : Table s) (hs : step codec s a = some t) :
    Table t := by
  cases a with
  | redis raw => exact h.redis hs
  | enqueue => exact h.enqueue hs
  | stop => exact h.stop hs
  | serve c teamID => exact h.serve hs
  | register c => exact h.register hs
  | unregister c sender => exact h.unregister hs
  | startBroadcast => exact h.startBroadcast hs
  | range c => exact h.range hs
  | endBroadcast => exact h.endBroadcast hs
  | readError c =>
      obtain ⟨cl, hcl, rfl⟩ := Option.map_eq_some_iff.mp hs
      exact h.pump (.readError hcl)
  | closeConn c =>
      obtain ⟨cl, hcl, rfl⟩ := Option.map_eq_some_iff.mp hs
      exact h.pump (.closeConn hcl)
  | receive c =>
      obtain ⟨cl, hcl, rfl⟩ := Option.map_eq_some_iff.mp hs
      exact h.pump (.receive hcl)
  | write c ok =>
      obtain ⟨cl, hcl, rfl⟩ := Option.map_eq_some_iff.mp hs
      exact h.pump (.write hcl)
  | ping c ok =>
      obtain ⟨cl, hcl, rfl⟩ := Option.map_eq_some_iff.mp hs
      exact h.pump (.ping hcl)

end SocketServer.Chat

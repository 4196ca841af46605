import SocketServer.Chat.Settling

/-!
# The chat service at rest

What is left when the process has nothing more to do by itself (`settled_rests`).  Every client is
either *live* (in the room of its team, its connection open, and everything broadcast to its room
while it was there written to it) or *gone* (in no room, its channel and its connection closed,
both pumps returned).  No message is stuck in a channel and no goroutine in a send.

`Client.Released` is the invariant that makes a client go as a whole: a pump returns only with the
connection closed, so the other one follows.
-/

namespace SocketServer.Chat

open SocketServer.GoChannel SocketServer.Text

variable {δ : Type*} (codec : EventCodec δ)

/-! ### Clients that have left -/

/-- A pump that has returned has closed the connection; the reader has been unregistered before. -/
structure Client.Released (cl : Client) : Prop where
  closing : cl.readPump = .closing → cl.send.closed = true
  reader : cl.readPump = .returned → cl.connClosed = true ∧ cl.send.closed = true
  writer : cl.writePump = .returned → cl.connClosed = true

theorem Client.Released.pump {cl cl' : Client} (h : cl.Released) (hp : Pump cl cl') :
    cl'.Released := by
  cases hp with
  | readError hs =>
      obtain ⟨-, rfl⟩ := readError_eq_some hs
      exact ⟨nofun, nofun, h.writer⟩
  | closeConn hs =>
      obtain ⟨hread, rfl⟩ := closeConn_eq_some hs
      exact ⟨nofun, fun _ => ⟨rfl, h.closing hread⟩, fun _ => rfl⟩
  | receive hs =>
      obtain ⟨-, -, ⟨msg, ch, hrecv, rfl⟩ | ⟨-, rfl⟩⟩ := receive_eq_some hs
      · have hsame := (recv_eq_value hrecv).2
        exact ⟨fun hr => hsame.trans (h.closing hr),
          fun hr => ⟨(h.reader hr).1, hsame.trans (h.reader hr).2⟩, nofun⟩
      · exact ⟨h.closing, h.reader, nofun⟩
  | write hs =>
      obtain ⟨msg, -, ⟨-, rfl⟩ | ⟨-, rfl⟩⟩ | ⟨-, rfl⟩ := write_eq_some hs
      · exact ⟨h.closing, h.reader, nofun⟩
      · exact ⟨h.closing, fun hr => ⟨rfl, (h.reader hr).2⟩, fun _ => rfl⟩
      · exact ⟨h.closing, fun hr => ⟨rfl, (h.reader hr).2⟩, fun _ => rfl⟩
  | ping hs =>
      obtain ⟨-, hpc, rfl | rfl⟩ := ping_eq_some hs
      · exact ⟨h.closing, h.reader, h.writer⟩
      · exact ⟨h.closing, fun hr => ⟨rfl, (h.reader hr).2⟩, fun _ => rfl⟩

/-- Taking an unregister request, with the channel closed behind it. -/
theorem Client.Released.unregister {cl cl' : Client} {sender : Unregister}
    {ch : Chan RoomMessage sendCapacity} (h : cl.Released)
    (htake : cl.takeUnregister sender = some cl') (hclosed : ch.closed = true) :
    Client.Released { cl' with send := ch } := by
  cases sender with
  | eviction =>
      simp only [Client.takeUnregister] at htake
      split at htake
      · cases htake
        exact ⟨fun _ => hclosed, fun hr => ⟨(h.reader hr).1, hclosed⟩, h.writer⟩
      · cases htake
  | readPump =>
      simp only [Client.takeUnregister] at htake
      split at htake
      · cases htake
        exact ⟨fun _ => hclosed, fun hr => (by cases hr), h.writer⟩
      · cases htake

theorem Client.Released.step {m m' : Mailbox} (h : m.client.Released) (hs : m.Step m') :
    m'.client.Released := by
  cases hs with
  | serve habsent => exact ⟨nofun, nofun, nofun⟩
  | register hstage => exact ⟨h.closing, h.reader, h.writer⟩
  | unregister hdue htake hclosed hbuffer => exact h.unregister htake hclosed
  | offer hdue hreg hopen hteam => exact h
  | visit hdue hvisit =>
      cases hvisit with
      | sent hsend =>
          obtain ⟨hopen, -, -, -⟩ := trySend_eq_sent hsend
          have hnot : m.client.send.closed ≠ true := by rw [hopen]; exact Bool.false_ne_true
          exact ⟨fun hr => absurd (h.closing hr) hnot, fun hr => absurd (h.reader hr).2 hnot,
            h.writer⟩
      | full hsend => exact ⟨h.closing, h.reader, h.writer⟩
  | pump hreg hpump => exact h.pump hpump

theorem released_run {as : List Action} {s : State} (h : run codec as = some s) (c : ClientId) :
    (s.client c).Released := by
  have hboth : Inv s ∧ ∀ c, (s.mailbox c).client.Released := by
    refine Runs.invariant_run (step codec)
      (I := fun s => Inv s ∧ ∀ c, (s.mailbox c).client.Released) (fun s a t hI hs => ?_)
      ⟨Inv.initial, fun _ => ⟨nofun, nofun, nofun⟩⟩ h
    refine ⟨hI.1.step hs, fun c => ?_⟩
    rcases step_mailbox hI.1.table hI.1.logged hs c with heq | hstep
    · rw [heq]
      exact hI.2 c
    · exact (hI.2 c).step hstep
  exact hboth.2 c

/-! ### What is left in a settled state -/

/-- A client in the room of its team, with nothing left to write. -/
structure State.Live (s : State) (c : ClientId) : Prop where
  member : ∀ teamID, c ∈ s.members teamID ↔ teamID = (s.client c).teamID
  reading : (s.client c).readPump = .reading
  selecting : (s.client c).writePump = .selecting
  connected : (s.client c).connClosed = false
  drained : (s.client c).send.buffer = []
  complete : texts (s.client c).frames = payloads (s.offered c)

/-- A client in no room, of which no goroutine is left. -/
structure State.Gone (s : State) (c : ClientId) : Prop where
  notMember : ∀ teamID, c ∉ s.members teamID
  closed : (s.client c).send.closed = true
  disconnected : (s.client c).connClosed = true
  readReturned : (s.client c).readPump = .returned
  writeReturned : (s.client c).writePump = .returned

section Settled

variable {codec} {s : State} {c : ClientId}

theorem Settled.hub (h : s.Settled codec) (htable : Table s) : s.hub = .selecting := by
  cases hhub : s.hub with
  | selecting => rfl
  | panicked => exact absurd hhub htable.running
  | ranging msg remaining =>
      rcases remaining.eq_empty_or_nonempty with hempty | ⟨d, hd⟩
      · have hnone := h .endBroadcast trivial
        simp [step, State.endBroadcast, hhub, hempty] at hnone
      · -- the visit of a remaining member is enabled, whatever its outcome
        have hnone := h (.range d) trivial
        simp only [step, State.range, hhub, if_pos hd] at hnone
        split at hnone <;> cases hnone

theorem Settled.broadcast (h : s.Settled codec) (htable : Table s) :
    s.broadcast.buffer = [] := by
  have hnone := h .startBroadcast trivial
  simp only [step, State.startBroadcast, Settled.hub h htable] at hnone
  split at hnone
  · cases hnone
  · rename_i hrecv
    unfold Chan.recv at hrecv
    split at hrecv
    · exact absurd rfl (hrecv _ _)
    · assumption

theorem Settled.subscriber (h : s.Settled codec) (htable : Table s) :
    s.subscriber.pending = [] := by
  cases hpc : s.subscriber with
  | receiving => rfl
  | returned => rfl
  | publishing msg =>
      -- the broadcast channel is empty and open, so the send goes through
      have hempty := Settled.broadcast h htable
      have hnone := h .enqueue trivial
      simp only [step, State.enqueue, hpc] at hnone
      split at hnone
      · cases hnone
      · rename_i hfull
        have hlen := (trySend_eq_full hfull).2
        rw [hempty] at hlen
        cases hlen
      · cases hnone

theorem Settled.evictions (h : s.Settled codec) (htable : Table s) :
    (s.client c).evictions = 0 := by
  by_contra hne
  have hnone := h (.unregister c .eviction) trivial
  simp [step, State.unregister, Settled.hub h htable, Client.takeUnregister,
    Nat.pos_of_ne_zero hne] at hnone

theorem Settled.readPump (h : s.Settled codec) (htable : Table s) :
    (s.client c).readPump ≠ .unregistering := by
  intro hread
  have hnone := h (.unregister c .readPump) trivial
  simp [step, State.unregister, Settled.hub h htable, Client.takeUnregister, hread] at hnone

theorem Settled.closing (h : s.Settled codec) : (s.client c).readPump ≠ .closing := by
  intro hread
  have hnone := h (.closeConn c) trivial
  simp [step, Client.closeConn, hread] at hnone

theorem Settled.registering (h : s.Settled codec) (htable : Table s) :
    (s.client c).stage ≠ .registering := by
  intro hstage
  have hnone := h (.register c) trivial
  simp [step, State.register, Settled.hub h htable, hstage] at hnone

theorem Settled.writing (h : s.Settled codec) (message : Option RoomMessage) :
    (s.client c).writePump ≠ .writing message := by
  intro hwrite
  have hnone := h (.write c false) trivial
  cases message with
  | none => simp [step, Client.write, hwrite] at hnone
  | some msg => simp [step, Client.write, hwrite] at hnone

/-- A reader on a closed connection has left. -/
theorem Settled.connClosed (h : s.Settled codec) (htable : Table s)
    (hreg : (s.client c).stage = .registered) (hconn : (s.client c).connClosed = true) :
    (s.client c).readPump = .returned := by
  cases hread : (s.client c).readPump with
  | returned => rfl
  | unregistering => exact absurd hread (Settled.readPump h htable)
  | closing => exact absurd hread (Settled.closing h)
  | reading =>
      have hnone := h (.readError c) hconn
      simp [step, Client.readError, hreg, hread] at hnone

/-- An idle writer has an open channel with nothing in it. -/
theorem Settled.receive (h : s.Settled codec) (hreg : (s.client c).stage = .registered)
    (hpc : (s.client c).writePump = .selecting) :
    (s.client c).send.buffer = [] ∧ (s.client c).send.closed = false := by
  have hnone := h (.receive c) trivial
  simp only [step, Client.receive, hreg, hpc, and_self, if_true, Option.map_eq_none_iff] at hnone
  unfold Chan.recv at hnone
  split at hnone
  · cases hnone
  · rename_i hrecv
    cases hnone
  · rename_i hrecv
    split at hrecv
    · cases hrecv
    · rename_i hbuffer
      split at hrecv
      · cases hrecv
      · rename_i hopen
        exact ⟨hbuffer, by simpa using hopen⟩

/-- A registered client whose writer is idle is live. -/
theorem Settled.live (h : s.Settled codec) (hinv : Inv s) (hrel : (s.client c).Released)
    (hreg : (s.client c).stage = .registered) (hpc : (s.client c).writePump = .selecting) :
    s.Live c := by
  obtain ⟨hbuffer, hopen⟩ := Settled.receive h hreg hpc
  -- a reader that has left would have closed the channel
  have hread : (s.client c).readPump = .reading := by
    cases hr : (s.client c).readPump with
    | reading => rfl
    | unregistering => exact absurd hr (Settled.readPump h hinv.table)
    | closing => exact absurd hr (Settled.closing h)
    | returned =>
        have hclosed := (hrel.reader hr).2
        rw [hopen] at hclosed
        cases hclosed
  have hconn : (s.client c).connClosed = false := by
    by_contra hclosed
    have hreturned := Settled.connClosed h hinv.table hreg (by simpa using hclosed)
    rw [hread] at hreturned
    cases hreturned
  -- a drop would have left an eviction to take, so everything offered was accepted
  have hmailbox := hinv.mailbox c
  have hdrop : (s.client c).dropped = [] := by
    by_contra hne
    have hpos : 0 < (s.client c).evictions := hmailbox.evicting hne hopen
    rw [Settled.evictions h hinv.table] at hpos
    exact absurd hpos (Nat.lt_irrefl 0)
  have hdue : s.hub.due c = none := by
    rw [Settled.hub h hinv.table]
    rfl
  have haccount : (s.client c).reached ++ (s.hub.due c).toList = s.offered c := hmailbox.account
  rw [hdue, Option.toList_none, List.append_nil] at haccount
  have hflow : (s.client c).Flow := hmailbox.flow
  unfold Client.Flow at hflow
  rw [hpc] at hflow
  refine ⟨fun teamID => ?_, hread, hpc, hconn, hbuffer, ?_⟩
  · rw [hinv.table.member_iff c teamID]
    simp [hreg, hopen, eq_comm]
  · rw [← haccount, ← accepted_eq_reached hdrop, hflow.1, hbuffer]
    exact (List.append_nil _).symm

/-- A registered client whose writer has returned is gone. -/
theorem Settled.gone (h : s.Settled codec) (hinv : Inv s) (hrel : (s.client c).Released)
    (hreg : (s.client c).stage = .registered) (hpc : (s.client c).writePump = .returned) :
    s.Gone c := by
  have hconn := hrel.writer hpc
  have hread := Settled.connClosed h hinv.table hreg hconn
  have hclosed := (hrel.reader hread).2
  refine ⟨fun teamID hmem => ?_, hclosed, hconn, hread, hpc⟩
  rw [hinv.table.open_of_mem hmem] at hclosed
  cases hclosed

end Settled

/-- **What a process at rest looks like.**  In every reachable state with no internal step left:
the hub waits at its `select`, every valid event received from Redis has been broadcast, no
unregister request is waiting, and every client that `ServeWS` has allocated is live or gone. -/
theorem settled_rests {as : List Action} {s : State} (h : run codec as = some s)
    (hsettled : s.Settled codec) :
    s.hub = .selecting ∧ broadcasts s.log = messagesFrom codec 0 (redisPayloads as) ∧
      ∀ c, (s.client c).evictions = 0 ∧
        ((s.client c).stage = .absent ∨ s.Live c ∨ s.Gone c) := by
  have hinv := inv_run h
  refine ⟨Settled.hub hsettled hinv.table, ?_, fun c => ⟨Settled.evictions hsettled hinv.table, ?_⟩⟩
  · rw [← received_run codec h, ← published_run codec h, State.published,
      Settled.broadcast hsettled hinv.table, Settled.subscriber hsettled hinv.table,
      List.append_nil, List.append_nil]
  · cases hstage : (s.client c).stage with
    | absent => exact Or.inl rfl
    | registering => exact absurd hstage (Settled.registering hsettled hinv.table)
    | registered =>
        refine Or.inr ?_
        cases hpc : (s.client c).writePump with
        | selecting =>
            exact Or.inl (Settled.live hsettled hinv (released_run codec h c) hstage hpc)
        | writing message => exact absurd hpc (Settled.writing hsettled message)
        | returned =>
            exact Or.inr (Settled.gone hsettled hinv (released_run codec h c) hstage hpc)

theorem settled_rests_sample :
    ∃ bs t, run sampleCodec (sampleWaiting ++ bs) = some t ∧ t.hub = .selecting ∧
      ((t.client 0).stage = .absent ∨ t.Live 0 ∨ t.Gone 0) := by
  have hsome : (run sampleCodec sampleWaiting).isSome = true := by decide +kernel
  obtain ⟨s, hs⟩ := Option.isSome_iff_exists.mp hsome
  obtain ⟨bs, t, -, hbs, hsettled⟩ :=
    (lowers_weight sampleCodec _).exists_settled (among_served hs)
  have ht : run sampleCodec (sampleWaiting ++ bs) = some t := by
    rw [run, Runs.run_append]
    exact Option.bind_eq_some_iff.mpr ⟨s, hs, hbs⟩
  obtain ⟨hhub, -, hclients⟩ := settled_rests sampleCodec ht hsettled
  exact ⟨bs, t, ht, hhub, (hclients 0).2⟩

end SocketServer.Chat

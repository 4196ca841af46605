import SocketServer.Chat.Delivery
import SocketServer.Library.Settling
import Mathlib.Algebra.BigOperators.Group.Finset.Basic

/-!
# The chat service comes to rest

What the process does by itself, when Redis sends nothing, nobody joins and no peer acts: the hub
takes what is waiting on its three channels and finishes its range loop, the writers drain their
channels, and a reader whose connection is closed fails and leaves.  These steps are `Internal`;
a ticker, a Redis payload, a join, a frame or an error from a peer are not.

`settles`: these steps cannot go on for ever, whatever their order.  The bound is `State.weight`,
which counts how often a message or a request may still be passed on.
-/

namespace SocketServer.Chat

open SocketServer.GoChannel

/-! ### Internal steps -/

/-- The steps that the process takes without its environment.  A read fails by itself only on a
connection that is closed already. -/
def Action.Internal (s : State) : Action → Prop
  | .redis _ | .stop | .serve _ _ | .ping _ _ => False
  | .readError c => (s.client c).connClosed = true
  | _ => True

/-- The clients that a run has allocated. -/
def served (as : List Action) : Finset ClientId :=
  (as.filterMap fun a => match a with
    | .serve c _ => some c
    | _ => none).toFinset

/-! ### How much is left to do -/

def Stage.weight : Stage → ℕ
  | .registering => 1
  | _ => 0

def ReadPc.weight : ReadPc → ℕ
  | .reading => 3
  | .unregistering => 2
  | .closing => 1
  | .returned => 0

def WritePc.weight : WritePc → ℕ
  | .selecting => 2
  | .writing (some _) => 3
  | .writing none => 1
  | .returned => 0

/-- A buffered message is received and written: two steps. -/
def Client.weight (cl : Client) : ℕ :=
  cl.stage.weight + 2 * cl.send.buffer.length + cl.evictions + cl.readPump.weight +
    cl.writePump.weight

/-- A member that the range loop has yet to visit gets a message to receive and to write. -/
def HubPc.weight : HubPc → ℕ
  | .ranging _ remaining => 3 * remaining.card + 1
  | _ => 0

/-- A message for a room of at most `n` clients, blocked before the broadcast channel. -/
def SubscriberPc.weight (n : ℕ) : SubscriberPc → ℕ
  | .publishing _ => 3 * n + 3
  | _ => 0

/-- A bound for the internal steps of a state whose clients are among `clients`. -/
def State.weight (clients : Finset ClientId) (s : State) : ℕ :=
  s.subscriber.weight clients.card + (3 * clients.card + 2) * s.broadcast.buffer.length +
    s.hub.weight + ∑ c ∈ clients, (s.client c).weight

theorem sum_update_weight {clients : Finset ClientId} {c : ClientId} (hc : c ∈ clients)
    (client : ClientId → Client) (cl : Client) :
    ∑ d ∈ clients, (Function.update client c cl d).weight + (client c).weight =
      ∑ d ∈ clients, (client d).weight + cl.weight := by
  have hrest : ∑ d ∈ clients.erase c, (Function.update client c cl d).weight =
      ∑ d ∈ clients.erase c, (client d).weight :=
    Finset.sum_congr rfl fun d hd => by rw [Function.update_of_ne (Finset.ne_of_mem_erase hd)]
  rw [← Finset.add_sum_erase clients _ hc, ← Finset.add_sum_erase clients _ hc, hrest,
    Function.update_self]
  omega

/-! ### Only allocated clients take part -/

section Steps

variable {δ : Type*} {codec : EventCodec δ} {s t : State} {c : ClientId}

/-- A client that is not allocated stays so until `ServeWS` allocates it. -/
theorem absent_step (h : Table s) {a : Action} (hs : step codec s a = some t)
    (hserve : ∀ teamID, a ≠ .serve c teamID) (habsent : (s.client c).stage = .absent) :
    (t.client c).stage = .absent := by
  have hne : (s.client c).stage ≠ .registered := by rw [habsent]; simp
  -- an update of another client, or of one that is registered
  have hupdate : ∀ (d : ClientId) (cl : Client), (s.client d).stage = .registered →
      (Function.update s.client d cl c).stage = .absent := by
    intro d cl hd
    have hcd : c ≠ d := fun hcd => hne (by rw [hcd, hd])
    rw [Function.update_of_ne hcd, habsent]
  cases a with
  | redis raw =>
      rw [(subscriber_frame codec h (Or.inl ⟨raw, hs⟩)).1]
      exact habsent
  | enqueue =>
      rw [(subscriber_frame codec h (Or.inr (Or.inl hs))).1]
      exact habsent
  | stop =>
      rw [(subscriber_frame codec h (Or.inr (Or.inr hs))).1]
      exact habsent
  | serve d teamID =>
      have hcd : c ≠ d := fun hcd => hserve teamID (by rw [hcd])
      simp only [step, State.serve] at hs
      split at hs
      · cases hs
        simp only [State.setClient, Function.update_of_ne hcd, habsent]
      · cases hs
  | register d =>
      obtain ⟨-, hstage, rfl⟩ := register_eq_some hs
      have hcd : c ≠ d := by
        intro hcd
        rw [← hcd, habsent] at hstage
        cases hstage
      simp only [Function.update_of_ne hcd, habsent]
  | unregister d sender =>
      obtain ⟨-, -, -, hreg, cl, ch, -, -, -, hclient⟩ := unregister_client h hs
      rw [hclient]
      exact hupdate d _ hreg
  | startBroadcast =>
      obtain ⟨-, msg, ch, -, rfl⟩ := startBroadcast_eq_some hs
      exact habsent
  | range d =>
      obtain ⟨msg, remaining, cl, hhub, hd, -, rfl⟩ := range_eq_some h hs
      exact hupdate d cl ((h.member_iff d _).mp (h.ranging_subset msg remaining hhub hd)).1
  | endBroadcast =>
      obtain ⟨msg, -, rfl⟩ := endBroadcast_eq_some hs
      exact habsent
  | readError d =>
      obtain ⟨cl, hcl, rfl⟩ := Option.map_eq_some_iff.mp hs
      exact hupdate d cl (h.registered_of_pump (.readError hcl))
  | closeConn d =>
      obtain ⟨cl, hcl, rfl⟩ := Option.map_eq_some_iff.mp hs
      exact hupdate d cl (h.registered_of_pump (.closeConn hcl))
  | receive d =>
      obtain ⟨cl, hcl, rfl⟩ := Option.map_eq_some_iff.mp hs
      exact hupdate d cl (h.registered_of_pump (.receive hcl))
  | write d ok =>
      obtain ⟨cl, hcl, rfl⟩ := Option.map_eq_some_iff.mp hs
      exact hupdate d cl (h.registered_of_pump (.write hcl))
  | ping d ok =>
      obtain ⟨cl, hcl, rfl⟩ := Option.map_eq_some_iff.mp hs
      exact hupdate d cl (h.registered_of_pump (.ping hcl))

/-- The clients of a reachable state that are allocated are those the run served. -/
theorem absent_of_not_served {as : List Action} (h : run codec as = some s) (hc : c ∉ served as) :
    (s.client c).stage = .absent := by
  induction as using List.reverseRecOn generalizing s with
  | nil =>
      cases h
      rfl
  | append_singleton as a ih =>
      obtain ⟨u, hu, hs⟩ := (Runs.run_snoc_eq_some (step codec)).mp h
      rw [served, List.filterMap_append, List.toFinset_append, Finset.notMem_union] at hc
      refine absent_step (inv_run hu).table hs (fun teamID ha => hc.2 ?_) (ih hu hc.1)
      simp [ha]

/-! ### Internal steps lower the weight -/

/-- The invariant behind the bound: that of the hub, and no client outside `clients`. -/
structure Among (clients : Finset ClientId) (s : State) : Prop where
  inv : Inv s
  absent : ∀ c, c ∉ clients → (s.client c).stage = .absent

theorem among_served {as : List Action} (h : run codec as = some s) : Among (served as) s where
  inv := inv_run h
  absent := fun _ hc => absent_of_not_served h hc

variable {clients : Finset ClientId}

theorem Among.mem (h : Among clients s) (hc : (s.client c).stage ≠ .absent) : c ∈ clients := by
  by_contra hnot
  exact hc (h.absent c hnot)

theorem Among.mem_of_registered (h : Among clients s) (hc : (s.client c).stage = .registered) :
    c ∈ clients := h.mem (by rw [hc]; simp)

/-- A room has no more members than there are clients. -/
theorem Among.card_members_le (h : Among clients s) (teamID : Int) :
    (s.members teamID).card ≤ clients.card :=
  Finset.card_le_card fun d hd => h.mem_of_registered ((h.inv.table.member_iff d teamID).mp hd).1

theorem Among.step {a : Action} (h : Among clients s) (hint : a.Internal s)
    (hs : step codec s a = some t) : Among clients t where
  inv := h.inv.step hs
  absent := fun d hd => by
    refine absent_step h.inv.table hs (fun teamID ha => ?_) (h.absent d hd)
    rw [ha] at hint
    exact hint

theorem enqueue_eq_some (h : Table s) (hs : s.enqueue = some t) :
    ∃ msg ch, s.subscriber = .publishing msg ∧ s.broadcast.trySend msg = .sent ch ∧
      t = { s with broadcast := ch, subscriber := .receiving } := by
  unfold State.enqueue at hs
  split at hs
  · rename_i msg hpc
    split at hs
    · rename_i ch hsend
      cases hs
      exact ⟨msg, ch, hpc, hsend, rfl⟩
    · cases hs
    · rename_i hsend
      have hclosed := trySend_eq_panic hsend
      rw [h.broadcast_open] at hclosed
      cases hclosed
  · cases hs

theorem weight_enqueue (h : Among clients s) (hs : s.enqueue = some t) :
    t.weight clients < s.weight clients := by
  obtain ⟨msg, ch, hpc, hsend, rfl⟩ := enqueue_eq_some h.inv.table hs
  have hbuffer : ch.buffer.length = s.broadcast.buffer.length + 1 := by
    rw [(trySend_eq_sent hsend).2.2.1, List.length_append, List.length_singleton]
  simp only [State.weight, hpc, SubscriberPc.weight, hbuffer, Nat.mul_add]
  omega

theorem weight_startBroadcast (h : Among clients s) (hs : s.startBroadcast = some t) :
    t.weight clients < s.weight clients := by
  obtain ⟨hhub, msg, ch, hrecv, rfl⟩ := startBroadcast_eq_some hs
  have hbuffer : s.broadcast.buffer.length = ch.buffer.length + 1 := by
    rw [(recv_eq_value hrecv).1, List.length_cons]
  have hcard := h.card_members_le msg.teamID
  simp only [State.weight, hhub, HubPc.weight, hbuffer, Nat.mul_add]
  omega

theorem weight_endBroadcast (hs : s.endBroadcast = some t) :
    t.weight clients < s.weight clients := by
  obtain ⟨msg, hhub, rfl⟩ := endBroadcast_eq_some hs
  simp only [State.weight, hhub, HubPc.weight, Finset.card_empty]
  omega

/-- An update of one client that lowers its weight lowers the weight of the state. -/
theorem weight_setClient {cl : Client} (hc : c ∈ clients) (hlt : cl.weight < (s.client c).weight) :
    (s.setClient c cl).weight clients < s.weight clients := by
  have hsum := sum_update_weight hc s.client cl
  simp only [State.weight, State.setClient]
  omega

theorem weight_register (h : Among clients s) (hs : s.register c = some t) :
    t.weight clients < s.weight clients := by
  obtain ⟨-, hstage, rfl⟩ := register_eq_some hs
  have hlt : Client.weight { s.client c with stage := .registered } < (s.client c).weight := by
    simp only [Client.weight, hstage, Stage.weight]
    omega
  exact weight_setClient (h.mem (by rw [hstage]; simp)) hlt

/-- A taken request is one less to take. -/
theorem takeUnregister_weight {cl cl' : Client} {sender : Unregister}
    (h : cl.takeUnregister sender = some cl') : cl'.weight < cl.weight := by
  cases sender with
  | eviction =>
      simp only [Client.takeUnregister] at h
      split at h
      · cases h
        simp only [Client.weight]
        omega
      · cases h
  | readPump =>
      simp only [Client.takeUnregister] at h
      split at h
      · rename_i hread
        cases h
        simp only [Client.weight, hread, ReadPc.weight]
        omega
      · cases h

theorem weight_unregister (h : Among clients s) {sender : Unregister}
    (hs : s.unregister c sender = some t) : t.weight clients < s.weight clients := by
  obtain ⟨hhub, hhub', -, hreg, cl, ch, htake, -, hbuffer, hclient⟩ :=
    unregister_client h.inv.table hs
  have hsame : t.subscriber = s.subscriber ∧ t.broadcast = s.broadcast := by
    obtain ⟨-, cl', htake', rfl⟩ := unregister_eq_some hs
    obtain ⟨hreq, hteam, hstage, hsend, -⟩ := takeUnregister_eq_some htake'
    have htaken : Table (s.setClient c cl') :=
      h.inv.table.setClient s.log hreg (hstage.trans hreg) hteam (congrArg Chan.closed hsend)
    obtain ⟨-, hbroadcast, hsub, -⟩ := htaken.remove_rest (c := c)
    exact ⟨hsub, hbroadcast⟩
  have hsum := sum_update_weight (h.mem_of_registered hreg) s.client { cl with send := ch }
  have hlt := takeUnregister_weight htake
  have heq : Client.weight { cl with send := ch } = cl.weight := by
    simp only [Client.weight, hbuffer]
  simp only [State.weight, hclient, hsame.1, hsame.2, hhub, hhub']
  omega

/-- A visit makes for at most two more steps: to receive and to write. -/
theorem Visit.weight_le {msg : RoomMessage} {cl cl' : Client} (h : Visit msg cl cl') :
    cl'.weight ≤ cl.weight + 2 := by
  cases h with
  | sent hsend =>
      simp only [Client.weight, (trySend_eq_sent hsend).2.2.1, List.length_append,
        List.length_singleton]
      omega
  | full hsend =>
      simp only [Client.weight]
      omega

theorem weight_range (h : Among clients s) (hs : s.range c = some t) :
    t.weight clients < s.weight clients := by
  obtain ⟨msg, remaining, cl, hhub, hc, hvisit, rfl⟩ := range_eq_some h.inv.table hs
  have hreg := ((h.inv.table.member_iff c _).mp
    (h.inv.table.ranging_subset msg remaining hhub hc)).1
  have hsum := sum_update_weight (h.mem_of_registered hreg) s.client cl
  have hle := hvisit.weight_le
  have hcard := Finset.card_erase_add_one hc
  simp only [State.weight, hhub, HubPc.weight]
  omega

/-- A pump's step that lowers the weight of its client. -/
theorem weight_pump (h : Among clients s) {cl : Client} (hp : Pump (s.client c) cl)
    (hlt : cl.weight < (s.client c).weight) :
    (s.setClient c cl).weight clients < s.weight clients :=
  weight_setClient (h.mem_of_registered (h.inv.table.registered_of_pump hp)) hlt

theorem readError_weight {cl cl' : Client} (h : cl.readError = some cl') :
    cl'.weight < cl.weight := by
  unfold Client.readError at h
  split at h
  · rename_i hguard
    cases h
    simp only [Client.weight, hguard.2, ReadPc.weight]
    omega
  · cases h

theorem closeConn_weight {cl cl' : Client} (h : cl.closeConn = some cl') :
    cl'.weight < cl.weight := by
  obtain ⟨hread, rfl⟩ := closeConn_eq_some h
  simp only [Client.weight, hread, ReadPc.weight]
  omega

theorem receive_weight {cl cl' : Client} (h : cl.receive = some cl') :
    cl'.weight < cl.weight := by
  obtain ⟨-, hpc, ⟨msg, ch, hrecv, rfl⟩ | ⟨-, rfl⟩⟩ := receive_eq_some h
  · have hbuffer : cl.send.buffer.length = ch.buffer.length + 1 := by
      rw [(recv_eq_value hrecv).1, List.length_cons]
    simp only [Client.weight, hpc, WritePc.weight, hbuffer]
    omega
  · simp only [Client.weight, hpc, WritePc.weight]
    omega

theorem write_weight {cl cl' : Client} {ok : Bool} (h : cl.write ok = some cl') :
    cl'.weight < cl.weight := by
  obtain ⟨msg, hpc, ⟨-, rfl⟩ | ⟨-, rfl⟩⟩ | ⟨hpc, rfl⟩ := write_eq_some h
  · simp only [Client.weight, hpc, WritePc.weight]
    omega
  · simp only [Client.weight, hpc, WritePc.weight]
    omega
  · simp only [Client.weight, hpc, WritePc.weight]
    omega

/-- **Every internal step lowers the weight.** -/
theorem weight_step {a : Action} (h : Among clients s) (hint : a.Internal s)
    (hs : step codec s a = some t) : t.weight clients < s.weight clients := by
  cases a with
  | redis raw => exact hint.elim
  | enqueue => exact weight_enqueue h hs
  | stop => exact hint.elim
  | serve c teamID => exact hint.elim
  | register c => exact weight_register h hs
  | unregister c sender => exact weight_unregister h hs
  | startBroadcast => exact weight_startBroadcast h hs
  | range c => exact weight_range h hs
  | endBroadcast => exact weight_endBroadcast hs
  | readError c =>
      obtain ⟨cl, hcl, rfl⟩ := Option.map_eq_some_iff.mp hs
      exact weight_pump h (.readError hcl) (readError_weight hcl)
  | closeConn c =>
      obtain ⟨cl, hcl, rfl⟩ := Option.map_eq_some_iff.mp hs
      exact weight_pump h (.closeConn hcl) (closeConn_weight hcl)
  | receive c =>
      obtain ⟨cl, hcl, rfl⟩ := Option.map_eq_some_iff.mp hs
      exact weight_pump h (.receive hcl) (receive_weight hcl)
  | write c ok =>
      obtain ⟨cl, hcl, rfl⟩ := Option.map_eq_some_iff.mp hs
      exact weight_pump h (.write hcl) (write_weight hcl)
  | ping c ok => exact hint.elim

end Steps

variable {δ : Type*} (codec : EventCodec δ)

theorem lowers_weight (clients : Finset ClientId) :
    Runs.Lowers (step codec) (fun s a => a.Internal s) (Among clients) (State.weight clients) where
  keeps := fun _ _ _ h hint hs => h.step hint hs
  lowers := fun _ _ _ h hint hs => weight_step h hint hs

/-- No internal step is left. -/
abbrev State.Settled (s : State) : Prop := Runs.Settled (step codec) (fun s a => a.Internal s) s

/-- **The process comes to rest.**  In every reachable state, the steps that the process can take
by itself, in whatever order, are no more than the state's weight; and they can always be taken to
the point where none is left. -/
theorem settles {as : List Action} {s : State} (h : run codec as = some s) :
    (∀ bs t, Runs.Meets (step codec) (fun s a => a.Internal s) s bs →
      Runs.run (step codec) s bs = some t →
        bs.length + t.weight (served as) ≤ s.weight (served as)) ∧
    ∃ bs t, Runs.Meets (step codec) (fun s a => a.Internal s) s bs ∧
      Runs.run (step codec) s bs = some t ∧ t.Settled codec := by
  have hamong := among_served h
  exact ⟨fun bs t hint hrun => (lowers_weight codec _).length_add_weight_le hamong hint hrun,
    (lowers_weight codec _).exists_settled hamong⟩

/-- Client 0 of team 1 has joined and an event for its team is waiting for the hub. -/
def sampleWaiting : List Action := sampleJoin ++ [.redis sampleRaw, .enqueue]

theorem settles_sample :
    ∃ s, run sampleCodec sampleWaiting = some s ∧
      (∀ bs t, Runs.Meets (step sampleCodec) (fun s a => a.Internal s) s bs →
        Runs.run (step sampleCodec) s bs = some t → bs.length ≤ 10) := by
  have hrun : (run sampleCodec sampleWaiting).map (fun s => s.weight (served sampleWaiting))
      = some 10 := by decide +kernel
  obtain ⟨s, hs, hweight⟩ := Option.map_eq_some_iff.mp hrun
  refine ⟨s, hs, fun bs t hint hbs => ?_⟩
  have hle := (settles sampleCodec hs).1 bs t hint hbs
  omega

end SocketServer.Chat

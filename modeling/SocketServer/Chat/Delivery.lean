import SocketServer.Chat.MailboxInvariant

/-!
# Delivery: what a client receives of what is published

* **Conservation** (`published_run`): the messages broadcast by the hub, those buffered on its
  channel and the one its publisher is blocked on are together exactly the valid events among the
  Redis payloads received, in the order of their arrival.  Nothing is lost, duplicated or
  reordered before the hub.
* **Delivery**: a client's accepted payloads are a subsequence of the broadcasts for its team
  while it was in its room; the text frames written are a prefix of them and a close frame comes
  last (`delivery_ordered_isolated`).
-/

namespace SocketServer.Chat

open SocketServer.GoChannel SocketServer.Text

variable {δ : Type*} (codec : EventCodec δ)

/-! ### Conservation of publications -/

/-- The messages made from Redis payloads, the first of which has index `n`. -/
def messagesFrom : ℕ → List Bytes → List RoomMessage
  | _, [] => []
  | n, raw :: raws =>
      match forward codec raw with
      | none => messagesFrom (n + 1) raws
      | some (teamID, payload) => ⟨n, teamID, payload⟩ :: messagesFrom (n + 1) raws

theorem messagesFrom_append (n : ℕ) (xs ys : List Bytes) :
    messagesFrom codec n (xs ++ ys)
      = messagesFrom codec n xs ++ messagesFrom codec (n + xs.length) ys := by
  induction xs generalizing n with
  | nil => rfl
  | cons x xs ih =>
      rw [List.cons_append, messagesFrom, messagesFrom, ih, List.length_cons,
        show n + 1 + xs.length = n + (xs.length + 1) from by omega]
      cases forward codec x <;> rfl

/-- Where a message comes from: the payload with its index, decoded to a valid event. -/
theorem mem_messagesFrom {n : ℕ} {raws : List Bytes} {msg : RoomMessage}
    (h : msg ∈ messagesFrom codec n raws) :
    n ≤ msg.seq ∧ ∃ raw, raws[msg.seq - n]? = some raw ∧
      forward codec raw = some (msg.teamID, msg.payload) := by
  induction raws generalizing n with
  | nil => exact absurd h List.not_mem_nil
  | cons raw raws ih =>
      have htail : msg ∈ messagesFrom codec (n + 1) raws →
          n ≤ msg.seq ∧ ∃ r, (raw :: raws)[msg.seq - n]? = some r ∧
            forward codec r = some (msg.teamID, msg.payload) := by
        intro hmem
        obtain ⟨hle, r, hr, hf⟩ := ih hmem
        refine ⟨by omega, r, ?_, hf⟩
        rw [show msg.seq - n = (msg.seq - (n + 1)) + 1 from by omega, List.getElem?_cons_succ]
        exact hr
      rw [messagesFrom] at h
      cases hf : forward codec raw with
      | none =>
          rw [hf] at h
          exact htail h
      | some p =>
          rw [hf] at h
          rcases List.mem_cons.mp h with rfl | hmem
          · exact ⟨le_rfl, raw, by rw [Nat.sub_self]; rfl, hf⟩
          · exact htail hmem

/-- The indices of the messages increase strictly, so no publication occurs twice. -/
theorem messagesFrom_pairwise (n : ℕ) (raws : List Bytes) :
    (messagesFrom codec n raws).Pairwise (fun m m' => m.seq < m'.seq) := by
  induction raws generalizing n with
  | nil => exact List.Pairwise.nil
  | cons raw raws ih =>
      rw [messagesFrom]
      cases hf : forward codec raw with
      | none => exact ih (n + 1)
      | some p =>
          refine List.Pairwise.cons (fun m hm => ?_) (ih (n + 1))
          have hle := (mem_messagesFrom codec hm).1
          exact Nat.lt_of_succ_le hle

/-- The message whose publisher is blocked on the broadcast channel. -/
def SubscriberPc.pending : SubscriberPc → List RoomMessage
  | .publishing msg => [msg]
  | _ => []

/-- Everything published so far: broadcast, buffered, or blocked. -/
def State.published (s : State) : List RoomMessage :=
  broadcasts s.log ++ s.broadcast.buffer ++ s.subscriber.pending

/-- What was published is what the Redis payloads amount to. -/
def Conserved (s : State) : Prop := s.published = messagesFrom codec 0 s.received

theorem Conserved.frame {s t : State} (h : Conserved codec s) (hreceived : t.received = s.received)
    (hpublished : t.published = s.published) : Conserved codec t := by
  rw [Conserved, hreceived, hpublished]
  exact h

theorem Conserved.redis {s t : State} {raw : Bytes} (h : Conserved codec s)
    (hs : s.redis codec raw = some t) : Conserved codec t := by
  unfold State.redis at hs
  split at hs
  · rename_i hpc
    have hnil : s.subscriber.pending = [] := by rw [hpc]; rfl
    rw [Conserved, State.published, hnil, List.append_nil] at h
    split at hs
    · rename_i hf
      cases hs
      change s.published = messagesFrom codec 0 (s.received ++ [raw])
      rw [messagesFrom_append, State.published, hnil, List.append_nil, h, messagesFrom, hf]
      exact (List.append_nil _).symm
    · rename_i teamID payload hf
      cases hs
      change broadcasts s.log ++ s.broadcast.buffer ++ [⟨s.received.length, teamID, payload⟩]
        = messagesFrom codec 0 (s.received ++ [raw])
      rw [messagesFrom_append, h, messagesFrom, hf, Nat.zero_add]
      rfl
  · cases hs

theorem Conserved.enqueue {s t : State} (h : Conserved codec s) (htable : Table s)
    (hs : s.enqueue = some t) : Conserved codec t := by
  unfold State.enqueue at hs
  split at hs
  · rename_i msg hpc
    split at hs
    · rename_i ch hsend
      cases hs
      refine h.frame codec rfl ?_
      change broadcasts s.log ++ ch.buffer ++ [] = s.published
      rw [State.published, hpc, (trySend_eq_sent hsend).2.2.1, List.append_nil, List.append_assoc]
      rfl
    · cases hs
    · rename_i hsend
      have hclosed := trySend_eq_panic hsend
      rw [htable.broadcast_open] at hclosed
      cases hclosed
  · cases hs

theorem Conserved.startBroadcast {s t : State} (h : Conserved codec s)
    (hs : s.startBroadcast = some t) : Conserved codec t := by
  obtain ⟨-, msg, ch, hrecv, rfl⟩ := startBroadcast_eq_some hs
  refine h.frame codec rfl ?_
  change broadcasts (s.log ++ [.broadcast msg]) ++ ch.buffer ++ s.subscriber.pending = s.published
  rw [State.published, broadcasts_snoc_broadcast, (recv_eq_value hrecv).1, List.append_assoc _ [msg]]
  rfl

/-- Cases of the hub other than a broadcast leave the broadcasts alone. -/
theorem broadcasts_snoc_registered (log : List HubEvent) (c : ClientId) :
    broadcasts (log ++ [.registered c]) = broadcasts log := by
  rw [broadcasts, List.filterMap_append]
  exact List.append_nil _

theorem broadcasts_snoc_unregistered (log : List HubEvent) (c : ClientId) :
    broadcasts (log ++ [.unregistered c]) = broadcasts log := by
  rw [broadcasts, List.filterMap_append]
  exact List.append_nil _

theorem Conserved.unregister {s t : State} {c : ClientId} {sender : Unregister}
    (h : Conserved codec s) (htable : Table s) (hs : s.unregister c sender = some t) :
    Conserved codec t := by
  obtain ⟨-, cl, htake, rfl⟩ := unregister_eq_some hs
  obtain ⟨hreq, hteam, hstage, hsend, -⟩ := takeUnregister_eq_some htake
  have hreg := htable.registered_of_request hreq
  have htaken : Table (s.setClient c cl) :=
    htable.setClient s.log hreg (hstage.trans hreg) hteam (congrArg Chan.closed hsend)
  obtain ⟨-, hbroadcast, hsub, hreceived⟩ := htaken.remove_rest (c := c)
  refine h.frame codec hreceived ?_
  change broadcasts (s.log ++ [.unregistered c]) ++ ((s.setClient c cl).remove c).broadcast.buffer
    ++ ((s.setClient c cl).remove c).subscriber.pending = s.published
  rw [broadcasts_snoc_unregistered, hbroadcast, hsub]
  rfl

theorem Conserved.step {s t : State} {a : Action} (h : Conserved codec s) (htable : Table s)
    (hs : step codec s a = some t) : Conserved codec t := by
  cases a with
  | redis raw => exact h.redis codec hs
  | enqueue => exact h.enqueue codec htable hs
  | stop =>
      simp only [Chat.step, State.stop] at hs
      split at hs
      · rename_i hpc
        cases hs
        refine h.frame codec rfl ?_
        simp only [State.published, hpc, SubscriberPc.pending]
      · cases hs
  | serve c teamID =>
      simp only [Chat.step, State.serve] at hs
      split at hs
      · cases hs
        exact h.frame codec rfl rfl
      · cases hs
  | register c =>
      obtain ⟨-, -, rfl⟩ := register_eq_some hs
      refine h.frame codec rfl ?_
      simp only [State.published, broadcasts_snoc_registered]
  | unregister c sender => exact h.unregister codec htable hs
  | startBroadcast => exact h.startBroadcast codec hs
  | range c =>
      obtain ⟨msg, remaining, cl, -, -, -, rfl⟩ := range_eq_some htable hs
      exact h.frame codec rfl rfl
  | endBroadcast =>
      obtain ⟨msg, -, rfl⟩ := endBroadcast_eq_some hs
      exact h.frame codec rfl rfl
  | readError c =>
      obtain ⟨cl, -, rfl⟩ := Option.map_eq_some_iff.mp hs
      exact h.frame codec rfl rfl
  | closeConn c =>
      obtain ⟨cl, -, rfl⟩ := Option.map_eq_some_iff.mp hs
      exact h.frame codec rfl rfl
  | receive c =>
      obtain ⟨cl, -, rfl⟩ := Option.map_eq_some_iff.mp hs
      exact h.frame codec rfl rfl
  | write c ok =>
      obtain ⟨cl, -, rfl⟩ := Option.map_eq_some_iff.mp hs
      exact h.frame codec rfl rfl
  | ping c ok =>
      obtain ⟨cl, -, rfl⟩ := Option.map_eq_some_iff.mp hs
      exact h.frame codec rfl rfl

/-- **Nothing published is lost, duplicated or reordered.** -/
theorem published_run {as : List Action} {s : State} (h : run codec as = some s) :
    s.published = messagesFrom codec 0 s.received := by
  have hboth : Inv s ∧ Conserved codec s := by
    refine Runs.invariant_run (step codec) (I := fun s => Inv s ∧ Conserved codec s)
      (fun s a t hI hs => ?_) ⟨Inv.initial, rfl⟩ h
    exact ⟨hI.1.step hs, hI.2.step codec hI.1.table hs⟩
  exact hboth.2

/-! ### Delivery -/

/-- The Redis payloads a run feeds to the subscriber, in order. -/
def redisPayloads (as : List Action) : List Bytes :=
  as.filterMap fun a => match a with
    | .redis raw => some raw
    | _ => none

theorem received_step {s t : State} {a : Action} (h : Inv s) (hs : step codec s a = some t) :
    t.received = s.received ++ redisPayloads [a] := by
  cases a with
  | redis raw =>
      simp only [step, State.redis] at hs
      split at hs
      · split at hs <;> cases hs <;> rfl
      · cases hs
  | enqueue =>
      simp only [step, State.enqueue] at hs
      split at hs
      · split at hs
        · cases hs
          exact (List.append_nil _).symm
        · cases hs
        · cases hs
          exact (List.append_nil _).symm
      · cases hs
  | stop =>
      simp only [step, State.stop] at hs
      split at hs
      · cases hs
        exact (List.append_nil _).symm
      · cases hs
  | serve c teamID =>
      simp only [step, State.serve] at hs
      split at hs
      · cases hs
        exact (List.append_nil _).symm
      · cases hs
  | register c =>
      obtain ⟨-, -, rfl⟩ := register_eq_some hs
      exact (List.append_nil _).symm
  | unregister c sender =>
      obtain ⟨-, cl, htake, rfl⟩ := unregister_eq_some hs
      obtain ⟨hreq, hteam, hstage, hsend, -⟩ := takeUnregister_eq_some htake
      have hreg := h.table.registered_of_request hreq
      have htaken : Table (s.setClient c cl) :=
        h.table.setClient s.log hreg (hstage.trans hreg) hteam (congrArg Chan.closed hsend)
      exact (htaken.remove_rest (c := c)).2.2.2.trans (List.append_nil _).symm
  | startBroadcast =>
      obtain ⟨-, msg, ch, -, rfl⟩ := startBroadcast_eq_some hs
      exact (List.append_nil _).symm
  | range c =>
      obtain ⟨msg, remaining, cl, -, -, -, rfl⟩ := range_eq_some h.table hs
      exact (List.append_nil _).symm
  | endBroadcast =>
      obtain ⟨msg, -, rfl⟩ := endBroadcast_eq_some hs
      exact (List.append_nil _).symm
  | readError c =>
      obtain ⟨cl, -, rfl⟩ := Option.map_eq_some_iff.mp hs
      exact (List.append_nil _).symm
  | closeConn c =>
      obtain ⟨cl, -, rfl⟩ := Option.map_eq_some_iff.mp hs
      exact (List.append_nil _).symm
  | receive c =>
      obtain ⟨cl, -, rfl⟩ := Option.map_eq_some_iff.mp hs
      exact (List.append_nil _).symm
  | write c ok =>
      obtain ⟨cl, -, rfl⟩ := Option.map_eq_some_iff.mp hs
      exact (List.append_nil _).symm
  | ping c ok =>
      obtain ⟨cl, -, rfl⟩ := Option.map_eq_some_iff.mp hs
      exact (List.append_nil _).symm

theorem received_run {as : List Action} {s : State} (h : run codec as = some s) :
    s.received = redisPayloads as := by
  have hgen : ∀ (bs : List Action) (u : State), Inv u → Runs.run (step codec) u bs = some s →
      s.received = u.received ++ redisPayloads bs := by
    intro bs
    induction bs with
    | nil =>
        intro u _ hu
        cases hu
        exact (List.append_nil _).symm
    | cons a bs ih =>
        intro u hI hu
        obtain ⟨v, hv, hrest⟩ := (Runs.run_cons_eq_some (step codec)).mp hu
        rw [ih v (hI.step hv) hrest, received_step codec hI hv, List.append_assoc]
        refine congrArg (u.received ++ ·) ?_
        rw [redisPayloads, redisPayloads, ← List.filterMap_append, List.singleton_append,
          redisPayloads]
  exact hgen as State.initial Inv.initial h

/-- What is offered to a client is a part of what was published. -/
theorem offered_sublist_published (s : State) (c : ClientId) :
    (s.offered c).Sublist s.published := by
  refine (window_sublist c (s.client c).teamID s.log).trans (List.filter_sublist.trans ?_)
  rw [State.published, List.append_assoc]
  exact List.sublist_append_left _ _

theorem offered_pairwise {s : State} (h : Conserved codec s) (c : ClientId) :
    (s.offered c).Pairwise (fun m m' => m.seq < m'.seq) := by
  refine List.Pairwise.sublist (offered_sublist_published s c) ?_
  rw [h]
  exact messagesFrom_pairwise codec 0 s.received

/-- A valid event: decodable, with a team and a type, and its payload for the hub. -/
def ValidEvent (raw : Bytes) (teamID : Int) (payload : Bytes) : Prop :=
  ∃ event, codec.unmarshal raw = some event ∧ 1 ≤ event.teamID ∧ event.type ≠ [] ∧
    event.teamID = teamID ∧ codec.marshal { type := event.type, data := event.data } = some payload

theorem forward_eq_some {raw payload : Bytes} {teamID : Int} :
    forward codec raw = some (teamID, payload) ↔ ValidEvent codec raw teamID payload := by
  unfold forward ValidEvent publish
  cases hu : codec.unmarshal raw with
  | none => simp
  | some event =>
      by_cases hdrop : event.teamID < 1 ∨ event.type = []
      · simp only [if_pos hdrop, reduceCtorEq, false_iff]
        rintro ⟨e, he, hteam, htype, -⟩
        cases he
        rcases hdrop with hlt | hnil
        · omega
        · exact htype hnil
      · obtain ⟨hteam, htype⟩ := not_or.mp hdrop
        simp only [if_neg hdrop, Option.map_eq_some_iff, Prod.mk.injEq]
        constructor
        · rintro ⟨p, hp, hk, rfl⟩
          exact ⟨event, rfl, by omega, htype, hk, hp⟩
        · rintro ⟨e, he, -, -, hk, hp⟩
          cases he
          exact ⟨payload, hp, hk, rfl⟩

/-- **Delivery is isolated by team, ordered and free of duplicates.**  In every run and for every
client: what was accepted into its channel is a subsequence of the broadcasts for its team while
it was in its room, which come from valid events and carry strictly increasing publication
numbers; it is all of them (but for the one the hub is about to try) if no broadcast found the
buffer full; the text frames are a prefix of it, and a close frame is the last frame, behind
everything accepted. -/
theorem delivery_ordered_isolated {as : List Action} {s : State} (h : run codec as = some s)
    (c : ClientId) :
    (s.client c).accepted.Sublist (s.offered c) ∧
    (s.offered c).Pairwise (fun m m' => m.seq < m'.seq) ∧
    (∀ msg ∈ s.offered c, msg.teamID = (s.client c).teamID ∧
      ∃ raw, (redisPayloads as)[msg.seq]? = some raw ∧
        ValidEvent codec raw msg.teamID msg.payload) ∧
    ((s.client c).dropped = [] →
      (s.client c).accepted ++ (s.hub.due c).toList = s.offered c) ∧
    texts (s.client c).frames <+: payloads (s.client c).accepted ∧
    (∀ pre post, (s.client c).frames = pre ++ .close :: post →
      post = [] ∧ texts pre = payloads (s.client c).accepted) := by
  have hmailbox := (inv_run h).mailbox c
  have haccount : (s.client c).reached ++ (s.hub.due c).toList = s.offered c := hmailbox.account
  refine ⟨?_, offered_pairwise codec (published_run codec h) c,
    fun msg hmsg => ⟨hmailbox.team msg hmsg, ?_⟩, ?_, hmailbox.flow.texts_prefix,
    fun pre post hf => hmailbox.flow.close_last hf⟩
  · rw [← haccount]
    exact (accepted_sublist_reached _).trans (List.sublist_append_left _ _)
  · have hpublished := (offered_sublist_published s c).subset hmsg
    rw [published_run codec h, received_run codec h] at hpublished
    obtain ⟨-, raw, hraw, hf⟩ := mem_messagesFrom codec hpublished
    exact ⟨raw, hraw, (forward_eq_some codec).mp hf⟩
  · intro hdrop
    rw [accepted_eq_reached hdrop]
    exact haccount

/-! ### A sample run -/

/-- An event for team 1, as published to Redis. -/
def sampleRaw : Bytes := utf8 "\x7b\"team_id\":1,\"type\":\"m\",\"data\":null\x7d".toList

/-- The same event, as the hub sends it to clients. -/
def samplePayload : Bytes := utf8 "\x7b\"type\":\"m\",\"data\":null\x7d".toList

/-- What `encoding/json` does on the sample event. -/
def sampleCodec : EventCodec Unit where
  unmarshal raw := if raw = sampleRaw then some ⟨1, utf8 "m".toList, ()⟩ else none
  marshal event := if event.type = utf8 "m".toList then some samplePayload else none

/-- Client 0 of team 1 joins. -/
def sampleJoin : List Action := [.serve 0 1, .register 0]

/-- The sample event goes through the hub. -/
def sampleBroadcast : List Action :=
  [.redis sampleRaw, .enqueue, .startBroadcast, .range 0, .endBroadcast]

/-- Client 0 joins, is sent the event, and its writer writes it. -/
def sampleRun : List Action := sampleJoin ++ sampleBroadcast ++ [.receive 0, .write 0 true]

theorem delivery_ordered_isolated_sample :
    ∃ s, run sampleCodec sampleRun = some s ∧ (s.client 0).frames = [.text samplePayload] ∧
      (s.client 0).accepted.Sublist (s.offered 0) ∧
      texts (s.client 0).frames <+: payloads (s.client 0).accepted := by
  have hrun : (run sampleCodec sampleRun).map (fun s => (s.client 0).frames)
      = some [.text samplePayload] := by decide +kernel
  obtain ⟨s, hs, hframes⟩ := Option.map_eq_some_iff.mp hrun
  have hdelivery := delivery_ordered_isolated sampleCodec hs 0
  exact ⟨s, hs, hframes, hdelivery.1, hdelivery.2.2.2.2.1⟩

end SocketServer.Chat

import SocketServer.Chat.Server

/-!
# Who hears what from whom

`Server.Inv` ties the messages in the hub to their senders and the clients to their tickets:

* `account`, `redis`, `request`: the messages sent on the broadcast channel are those broadcast and
  those still buffered; the subscriber's are the valid events of its payloads in their order, a
  handler's is the one of its request, once it has been answered;
* `valid`, `joined`: a handler stands where its request leads, and a client's team is that of the
  ticket it was registered for.

Every action keeps it, in any interleaving of the subscriber, the hub, the pumps and the handlers.
-/

namespace SocketServer.Chat

open SocketServer.GoChannel SocketServer.Text

variable {δ : Type*} (runtime : ServerRuntime δ) (getenv : String → Bytes)

/-- What a handler has sent. -/
def HandlerPc.sent : HandlerPc → List RoomMessage
  | .published (some msg) => [msg]
  | _ => []

def Server.sentFor (s : Server) (r : RequestId) : List RoomMessage :=
  ((s.handler r).map (·.pc.sent)).getD []

/-- The messages of one sender, in the order of their sends. -/
def Server.sentBy (s : Server) (sender : Sender) : List RoomMessage :=
  (s.sent.filter (·.1 = sender)).map (·.2)

/-- The message of a request that was allowed to publish it. -/
def Published (request : Request) (r : RequestId) (msg : RoomMessage) : Prop :=
  msg.seq = r ∧ ∃ event, Authorised runtime getenv request msg.teamID event ∧
    runtime.codec.marshal event = some msg.payload

/-- What became of an event that request `r` may publish, when its handler stands at `pc` and has
sent `sent`: `Hub.Publish` drops what `json.Marshal` does not write, and the handler answers 204 all
the same; else the handler has sent the event once it has answered, and nothing before. -/
def HandlerPc.Accounted (r : RequestId) (teamID : ℤ) (event : Event δ) (pc : HandlerPc)
    (sent : List RoomMessage) : Prop :=
  match runtime.codec.marshal event with
  | none => pc = .published none ∧ sent = []
  | some payload =>
      (pc = .publishing ⟨r, teamID, payload⟩ ∧ sent = []) ∨
        (pc = .published (some ⟨r, teamID, payload⟩) ∧ sent = [⟨r, teamID, payload⟩])

/-- Where a handler may stand when its request comes to an outcome. -/
def HandlerPc.Reached (r : RequestId) (request : Request) (pc : HandlerPc) : Outcome δ → Prop
  | .respond status body => pc = .answered ⟨status, corsHeaders getenv request.origin, body⟩
  | .upgradeFailed => pc = .upgradeFailed
  | .join claims => ∃ c, pc = .joined c claims
  | .publish teamID event => pc.Accounted runtime r teamID event pc.sent

/-- A handler stands where its request leads. -/
def Exchange.Valid (r : RequestId) (ex : Exchange) : Prop :=
  ex.pc.Reached runtime getenv r ex.request (serveHTTP runtime getenv ex.now ex.request)

/-- The client was registered by some handler, for the team of its ticket. -/
def Server.Joined (s : Server) (c : ClientId) : Prop :=
  ∃ r ex claims, s.handler r = some ex ∧ ex.pc = .joined c claims ∧
    (s.hub.client c).teamID = claims.teamID

structure Server.Inv (s : Server) : Prop where
  hub : Chat.Inv s.hub
  account : s.sent.map (·.2) = broadcasts s.hub.log ++ s.hub.broadcast.buffer
  redis : s.sentBy .redis ++ s.hub.subscriber.pending =
    messagesFrom runtime.codec 0 s.hub.received
  request : ∀ r, s.sentBy (.request r) = s.sentFor r
  valid : ∀ r ex, s.handler r = some ex → ex.Valid runtime getenv r
  joined : ∀ c, (s.hub.client c).stage ≠ .absent → s.Joined c

theorem Server.Inv.initial : Server.Inv runtime getenv Server.initial where
  hub := Chat.Inv.initial
  account := rfl
  redis := rfl
  request := fun _ => rfl
  valid := fun _ _ h => nomatch h
  joined := fun _ h => absurd rfl h

variable {runtime getenv} {s t : Server}

/-! ### Where a handler stands -/

theorem Exchange.valid_iff {r : RequestId} {ex : Exchange} {outcome : Outcome δ}
    (ho : serveHTTP runtime getenv ex.now ex.request = outcome) :
    ex.Valid runtime getenv r ↔ ex.pc.Reached runtime getenv r ex.request outcome := by
  subst ho
  exact Iff.rfl

theorem Exchange.Valid.admitted {r : RequestId} {ex : Exchange} (h : ex.Valid runtime getenv r)
    {c : ClientId} {claims : Claims} (hpc : ex.pc = .joined c claims) :
    Admitted runtime getenv ex.now ex.request claims := by
  cases ho : serveHTTP runtime getenv ex.now ex.request with
  | respond status body =>
      rw [Exchange.valid_iff ho, hpc] at h
      cases h
  | upgradeFailed =>
      rw [Exchange.valid_iff ho, hpc] at h
      cases h
  | join claims' =>
      rw [Exchange.valid_iff ho, hpc] at h
      obtain ⟨d, hd⟩ := h
      cases hd
      exact admitted_of_join ho
  | publish teamID event =>
      rw [Exchange.valid_iff ho, hpc, HandlerPc.Reached, HandlerPc.Accounted] at h
      split at h
      · cases h.1
      · rcases h with ⟨hjoined, -⟩ | ⟨hjoined, -⟩ <;> cases hjoined

/-- Only a request that may publish has anything sent for it. -/
theorem Exchange.Valid.authorised {r : RequestId} {ex : Exchange} (h : ex.Valid runtime getenv r)
    (hsent : ex.pc.sent ≠ []) :
    ∃ teamID event, Authorised runtime getenv ex.request teamID event := by
  cases ho : serveHTTP runtime getenv ex.now ex.request with
  | respond status body =>
      have hpc : ex.pc = _ := (Exchange.valid_iff ho).mp h
      rw [hpc] at hsent
      exact absurd rfl hsent
  | upgradeFailed =>
      have hpc : ex.pc = _ := (Exchange.valid_iff ho).mp h
      rw [hpc] at hsent
      exact absurd rfl hsent
  | join claims =>
      obtain ⟨c, hpc⟩ := (Exchange.valid_iff ho).mp h
      rw [hpc] at hsent
      exact absurd rfl hsent
  | publish teamID event => exact ⟨teamID, event, authorised_of_publish ho⟩

/-- A request that may publish comes to its own event. -/
theorem Exchange.Valid.accounted {r : RequestId} {ex : Exchange} (h : ex.Valid runtime getenv r)
    {teamID : ℤ} {event : Event δ} (ha : Authorised runtime getenv ex.request teamID event) :
    ex.pc.Accounted runtime r teamID event ex.pc.sent :=
  (Exchange.valid_iff (publish_of_authorised ex.now ha)).mp h

/-- What a handler has sent is the message of its request. -/
theorem HandlerPc.Accounted.published {r : RequestId} {request : Request} {teamID : ℤ}
    {event : Event δ} {pc : HandlerPc} {sent : List RoomMessage} {msg : RoomMessage}
    (h : pc.Accounted runtime r teamID event sent)
    (ha : Authorised runtime getenv request teamID event) (hmsg : msg ∈ sent) :
    Published runtime getenv request r msg := by
  unfold HandlerPc.Accounted at h
  split at h
  · rw [h.2] at hmsg
    exact absurd hmsg List.not_mem_nil
  · rename_i payload hpayload
    rcases h with ⟨-, hsent⟩ | ⟨-, hsent⟩
    · rw [hsent] at hmsg
      exact absurd hmsg List.not_mem_nil
    · rw [hsent] at hmsg
      cases List.mem_singleton.mp hmsg
      exact ⟨rfl, event, ha, hpayload⟩

/-- The send of a blocked handler keeps it on its request's way. -/
theorem HandlerPc.Reached.send {r : RequestId} {request : Request} {msg : RoomMessage}
    {outcome : Outcome δ}
    (h : (HandlerPc.publishing msg).Reached runtime getenv r request outcome) :
    (HandlerPc.published (some msg)).Reached runtime getenv r request outcome := by
  cases outcome with
  | respond status body => cases h
  | upgradeFailed => cases h
  | join claims =>
      obtain ⟨c, hc⟩ := h
      cases hc
  | publish teamID event =>
      rw [HandlerPc.Reached, HandlerPc.Accounted] at h ⊢
      split at h
      · cases h.1
      · rcases h with ⟨hpc, -⟩ | ⟨hpc, -⟩
        · cases hpc
          exact Or.inr ⟨rfl, rfl⟩
        · cases hpc

/-! ### Actions of the hub -/

theorem act_eq_some {a : Action} (hs : s.act runtime a = some t) :
    (∀ c teamID, a ≠ .serve c teamID) ∧ Chat.step runtime.codec s.hub a = some t.hub ∧
      t.handler = s.handler ∧ t.sent = s.sent ++ s.hub.sending a := by
  unfold Server.act at hs
  split at hs
  · cases hs
  · rename_i hserve
    obtain ⟨hub, hhub, rfl⟩ := Option.map_eq_some_iff.mp hs
    exact ⟨fun c teamID ha => hserve c teamID ha, hhub, rfl, rfl⟩

/-- The hub's own sends are the subscriber's. -/
theorem sending_redis (s : State) (a : Action) :
    ∀ p ∈ s.sending a, p.1 = .redis := by
  intro p hp
  cases a with
  | enqueue =>
      obtain ⟨msg, -, rfl⟩ := List.mem_map.mp hp
      rfl
  | _ => exact absurd hp List.not_mem_nil

theorem sentBy_append_redis {s t : Server} {sending : List (Sender × RoomMessage)}
    (hsent : t.sent = s.sent ++ sending) (hredis : ∀ p ∈ sending, p.1 = .redis) :
    t.sentBy .redis = s.sentBy .redis ++ sending.map (·.2) ∧
      ∀ r, t.sentBy (.request r) = s.sentBy (.request r) := by
  have hall : sending.filter (·.1 = .redis) = sending :=
    List.filter_eq_self.mpr fun p hp => decide_eq_true (hredis p hp)
  have hnone : ∀ r, sending.filter (·.1 = .request r) = [] := fun r =>
    List.filter_eq_nil_iff.mpr fun p hp => by simp [hredis p hp]
  refine ⟨?_, fun r => ?_⟩
  · rw [Server.sentBy, hsent, List.filter_append, List.map_append, hall, Server.sentBy]
  · rw [Server.sentBy, hsent, List.filter_append, List.map_append, hnone, List.map_nil,
      List.append_nil, Server.sentBy]

theorem Server.Inv.act {a : Action} (h : s.Inv runtime getenv) (hs : s.act runtime a = some t) :
    t.Inv runtime getenv := by
  obtain ⟨hserve, hhub, hhandler, hsent⟩ := act_eq_some hs
  have hmoves := moves_step h.hub.table hhub
  obtain ⟨hredis, hrequest⟩ := sentBy_append_redis hsent (sending_redis s.hub a)
  refine ⟨h.hub.step hhub, ?_, ?_, fun r => ?_, fun r ex hr => ?_, fun c hc => ?_⟩
  · rw [hsent, List.map_append, h.account, hmoves.account]
  · obtain ⟨raws, hreceived, hpending⟩ := hmoves.subscriber
    rw [hredis, hreceived, messagesFrom_append, ← h.redis, List.append_assoc, hpending,
      List.append_assoc, Nat.zero_add]
  · rw [hrequest, h.request, Server.sentFor, Server.sentFor, hhandler]
  · exact h.valid r ex (hhandler ▸ hr)
  · have hold : (s.hub.client c).stage ≠ .absent := fun habsent =>
      hc (absent_step h.hub.table hhub (hserve c) habsent)
    obtain ⟨r, ex, claims, hr, hpc, hteam⟩ := h.joined c hold
    exact ⟨r, ex, claims, hhandler ▸ hr, hpc, (team_step h.hub hhub hold).trans hteam⟩

/-! ### Requests -/

/-- A handler starts: the hub is as it was, or has allocated the handler's client. -/
theorem request_eq_some {r : RequestId} {now : ℤ} {request : Request} {c : ClientId}
    (hs : s.request runtime getenv r now request c = some t) :
    s.handler r = none ∧ ∃ pc hub, t = s.enter r ⟨request, now, pc⟩ hub ∧ pc.sent = [] ∧
      Exchange.Valid runtime getenv r ⟨request, now, pc⟩ ∧
      ((hub = s.hub ∧ ∀ d claims, pc ≠ .joined d claims) ∨
        ∃ claims, pc = .joined c claims ∧ s.hub.serve c claims.teamID = some hub) := by
  unfold Server.request at hs
  split at hs
  · cases hs
  · rename_i hnone
    refine ⟨hnone, ?_⟩
    split at hs
    · rename_i status body ho
      cases hs
      refine ⟨_, _, rfl, rfl, (Exchange.valid_iff ho).mpr ?_,
        Or.inl ⟨rfl, fun _ _ h => by cases h⟩⟩
      rfl
    · rename_i ho
      cases hs
      refine ⟨_, _, rfl, rfl, (Exchange.valid_iff ho).mpr ?_,
        Or.inl ⟨rfl, fun _ _ h => by cases h⟩⟩
      rfl
    · rename_i claims ho
      obtain ⟨hub, hhub, rfl⟩ := Option.map_eq_some_iff.mp hs
      refine ⟨_, _, rfl, rfl, (Exchange.valid_iff ho).mpr ?_, Or.inr ⟨claims, rfl, hhub⟩⟩
      exact ⟨c, rfl⟩
    · rename_i teamID event ho
      split at hs
      · rename_i hmarshal
        cases hs
        refine ⟨_, _, rfl, rfl, (Exchange.valid_iff ho).mpr ?_,
          Or.inl ⟨rfl, fun _ _ h => by cases h⟩⟩
        rw [publish] at hmarshal
        rw [HandlerPc.Reached, HandlerPc.Accounted, hmarshal]
        exact ⟨rfl, rfl⟩
      · rename_i payload hmarshal
        cases hs
        refine ⟨_, _, rfl, rfl, (Exchange.valid_iff ho).mpr ?_,
          Or.inl ⟨rfl, fun _ _ h => by cases h⟩⟩
        rw [publish] at hmarshal
        rw [HandlerPc.Reached, HandlerPc.Accounted, hmarshal]
        exact Or.inl ⟨rfl, rfl⟩

theorem enter_self (s : Server) (r : RequestId) (ex : Exchange) (hub : State) :
    (s.enter r ex hub).handler r = some ex := Function.update_self r _ _

theorem enter_of_ne {r d : RequestId} (hd : d ≠ r) (s : Server) (ex : Exchange) (hub : State) :
    (s.enter r ex hub).handler d = s.handler d := Function.update_of_ne hd _ _

theorem sentFor_enter (s : Server) (r d : RequestId) (ex : Exchange) (hub : State) :
    (s.enter r ex hub).sentFor d = if d = r then ex.pc.sent else s.sentFor d := by
  by_cases hd : d = r
  · subst hd
    rw [if_pos rfl, Server.sentFor, enter_self]
    rfl
  · rw [if_neg hd, Server.sentFor, enter_of_ne hd, Server.sentFor]

/-- Handlers that went before keep what they checked. -/
theorem valid_enter {r d : RequestId} {ex : Exchange} (hub : State)
    (hold : ∀ d ex, s.handler d = some ex → ex.Valid runtime getenv d)
    (hnew : ex.Valid runtime getenv r) {e : Exchange} (he : (s.enter r ex hub).handler d = some e) :
    e.Valid runtime getenv d := by
  by_cases hd : d = r
  · subst hd
    rw [enter_self, Option.some.injEq] at he
    exact he ▸ hnew
  · rw [enter_of_ne hd] at he
    exact hold d e he

/-- A handler that goes on from a point where it had no client leaves the clients' handlers. -/
theorem Server.Joined.enter {c : ClientId} {r : RequestId} {ex : Exchange} {hub : State}
    (h : s.Joined c) (hteam : (hub.client c).teamID = (s.hub.client c).teamID)
    (hr : ∀ e d claims, s.handler r = some e → e.pc ≠ .joined d claims) :
    (s.enter r ex hub).Joined c := by
  obtain ⟨r', ex', claims, hr', hpc, hclaims⟩ := h
  have hne : r' ≠ r := fun heq => hr ex' c claims (heq ▸ hr') hpc
  exact ⟨r', ex', claims, (enter_of_ne hne s ex hub).trans hr', hpc, hteam.trans hclaims⟩

theorem serve_eq_some {s t : State} {c : ClientId} {teamID : ℤ} (hs : s.serve c teamID = some t) :
    (s.client c).stage = .absent ∧
      t = s.setClient c { Client.fresh teamID with stage := .registering } := by
  unfold State.serve at hs
  split at hs
  · rename_i habsent
    cases hs
    exact ⟨habsent, rfl⟩
  · cases hs

theorem Server.Inv.request_step {r : RequestId} {now : ℤ} {request : Request} {c : ClientId}
    (h : s.Inv runtime getenv) (hs : s.request runtime getenv r now request c = some t) :
    t.Inv runtime getenv := by
  obtain ⟨hnone, pc, hub, rfl, hpc, hvalid, hhub⟩ := request_eq_some hs
  have hfor : ∀ d, (s.enter r ⟨request, now, pc⟩ hub).sentFor d = s.sentFor d := by
    intro d
    rw [sentFor_enter]
    split
    · rename_i hd
      rw [hpc, hd, Server.sentFor, hnone]
      rfl
    · rfl
  have hfresh : ∀ e d claims, s.handler r = some e → e.pc ≠ .joined d claims := by
    intro e d claims he
    rw [hnone] at he
    cases he
  rcases hhub with ⟨rfl, -⟩ | ⟨claims, rfl, hserve⟩
  · exact ⟨h.hub, h.account, h.redis, fun d => (h.request d).trans (hfor d).symm,
      fun d e => valid_enter _ h.valid hvalid, fun d hd => (h.joined d hd).enter rfl hfresh⟩
  · -- the handler's client is new, of the team of its ticket
    have hstep : Chat.step runtime.codec s.hub (.serve c claims.teamID) = some hub := hserve
    have hinv : Chat.Inv hub := h.hub.step hstep
    obtain ⟨habsent, rfl⟩ := serve_eq_some hserve
    refine ⟨hinv, h.account, h.redis, fun d => (h.request d).trans (hfor d).symm,
      fun d e => valid_enter _ h.valid hvalid, fun d hd => ?_⟩
    by_cases hdc : d = c
    · subst hdc
      refine ⟨r, ⟨request, now, .joined d claims⟩, claims, enter_self _ _ _ _, rfl, ?_⟩
      simp only [Server.enter, State.setClient, Function.update_self]
      rfl
    · have hsame : (s.hub.setClient c
          { Client.fresh claims.teamID with stage := .registering }).client d = s.hub.client d :=
        Function.update_of_ne hdc _ _
      refine (h.joined d fun hd' => hd ?_).enter (congrArg Client.teamID hsame) hfresh
      exact (congrArg Client.stage hsame).trans hd'

/-! ### The send of a handler -/

theorem publish_eq_some {r : RequestId} (htable : Table s.hub) (hs : s.publish r = some t) :
    ∃ request now msg ch, s.handler r = some ⟨request, now, .publishing msg⟩ ∧
      s.hub.broadcast.trySend msg = .sent ch ∧
      t = { s.enter r ⟨request, now, .published (some msg)⟩ { s.hub with broadcast := ch } with
        sent := s.sent ++ [(.request r, msg)] } := by
  unfold Server.publish at hs
  split at hs
  · rename_i request now msg hr
    split at hs
    · rename_i ch hsend
      cases hs
      exact ⟨request, now, msg, ch, hr, hsend, rfl⟩
    · cases hs
    · rename_i hsend
      have hclosed := trySend_eq_panic hsend
      rw [htable.broadcast_open] at hclosed
      cases hclosed
  · cases hs

/-- The hub is as it was but for the message in its channel. -/
theorem Inv.setBroadcast {s : State} (h : Inv s) {ch : Chan RoomMessage broadcastCapacity}
    (hch : ch.closed = false) : Inv { s with broadcast := ch } where
  table := h.table.setSubscriber s.subscriber s.received hch
  logged := h.logged.frame rfl fun _ => ⟨rfl, rfl, rfl⟩
  mailbox := h.mailbox

theorem Server.Inv.publish_step {r : RequestId} (h : s.Inv runtime getenv)
    (hs : s.publish r = some t) : t.Inv runtime getenv := by
  obtain ⟨request, now, msg, ch, hr, hsend, rfl⟩ := publish_eq_some h.hub.table hs
  have hspec := trySend_eq_sent hsend
  have hvalid : Exchange.Valid runtime getenv r ⟨request, now, .published (some msg)⟩ :=
    HandlerPc.Reached.send (h.valid r _ hr)
  have hpc : ∀ e d claims, s.handler r = some e → e.pc ≠ .joined d claims := by
    intro e d claims he hjoined
    rw [hr, Option.some.injEq] at he
    subst he
    cases hjoined
  refine ⟨h.hub.setBroadcast hspec.2.2.2, ?_, ?_, fun d => ?_, fun d e => ?_, fun d hd => ?_⟩
  · show (s.sent ++ [(Sender.request r, msg)]).map Prod.snd = broadcasts s.hub.log ++ ch.buffer
    rw [List.map_append, h.account, hspec.2.2.1, List.append_assoc]
    rfl
  · have hsame : ({ s.enter r ⟨request, now, .published (some msg)⟩
          { s.hub with broadcast := ch } with
        sent := s.sent ++ [(.request r, msg)] } : Server).sentBy .redis = s.sentBy .redis := by
      simp [Server.sentBy, List.filter_append]
    rw [hsame]
    exact h.redis
  · -- the message is the handler's only one
    have hfor := sentFor_enter s r d ⟨request, now, .published (some msg)⟩
      { s.hub with broadcast := ch }
    refine Eq.trans ?_ hfor.symm
    have hold := h.request d
    by_cases hd : d = r
    · subst hd
      rw [if_pos rfl]
      rw [Server.sentFor, hr] at hold
      simp only [Server.sentBy, List.filter_append, List.map_append] at hold ⊢
      rw [hold]
      simp [HandlerPc.sent]
    · rw [if_neg hd, ← hold]
      simp [Server.sentBy, List.filter_append, Ne.symm hd]
  · exact valid_enter s.hub h.valid hvalid
  · exact (h.joined d hd).enter rfl hpc

/-- **Every action of the service keeps the invariant.** -/
theorem Server.Inv.step {a : ServerAction} (h : s.Inv runtime getenv)
    (hs : s.step runtime getenv a = some t) : t.Inv runtime getenv := by
  cases a with
  | hub a => exact h.act hs
  | request r now request c => exact h.request_step hs
  | publish r => exact h.publish_step hs

theorem server_inv_run {as : List ServerAction} (h : Server.run runtime getenv as = some s) :
    s.Inv runtime getenv :=
  Runs.invariant_run (Server.step runtime getenv) (fun _ _ _ => Server.Inv.step)
    (Server.Inv.initial runtime getenv) h

/-! ### Runs -/

/-- The actions of the subscriber, the hub and the pumps in a run. -/
def hubActions (as : List ServerAction) : List Action :=
  as.filterMap fun a => match a with
    | .hub a => some a
    | _ => none

/-- The payloads that Redis delivered in a run. -/
def deliveredPayloads (as : List ServerAction) : List Bytes := redisPayloads (hubActions as)

theorem deliveredPayloads_snoc (as : List ServerAction) (a : ServerAction) :
    deliveredPayloads (as ++ [a]) = deliveredPayloads as ++ deliveredPayloads [a] := by
  rw [deliveredPayloads, hubActions, List.filterMap_append, redisPayloads, List.filterMap_append]
  rfl

theorem server_received_step {a : ServerAction} (h : s.Inv runtime getenv)
    (hs : s.step runtime getenv a = some t) :
    t.hub.received = s.hub.received ++ deliveredPayloads [a] := by
  cases a with
  | hub a => exact received_step runtime.codec h.hub (act_eq_some hs).2.1
  | request r now request c =>
      obtain ⟨-, pc, hub, rfl, -, -, ⟨rfl, -⟩ | ⟨claims, -, hserve⟩⟩ :=
        request_eq_some hs
      · exact (List.append_nil _).symm
      · obtain ⟨-, rfl⟩ := serve_eq_some hserve
        exact (List.append_nil _).symm
  | publish r =>
      obtain ⟨request, now, msg, ch, -, -, rfl⟩ := publish_eq_some h.hub.table hs
      exact (List.append_nil _).symm

theorem server_received_run {as : List ServerAction} (h : Server.run runtime getenv as = some s) :
    s.hub.received = deliveredPayloads as := by
  induction as using List.reverseRecOn generalizing s with
  | nil =>
      cases h
      rfl
  | append_singleton as a ih =>
      obtain ⟨u, hu, hs⟩ := (Runs.run_snoc_eq_some (Server.step runtime getenv)).mp h
      rw [server_received_step (server_inv_run hu) hs, ih hu, deliveredPayloads_snoc]

/-- A handler is there for a request that arrived. -/
theorem handler_step {a : ServerAction} (h : s.Inv runtime getenv)
    (hs : s.step runtime getenv a = some t) {r : RequestId} {ex : Exchange}
    (hr : t.handler r = some ex) :
    (∃ ex', s.handler r = some ex' ∧ ex'.request = ex.request ∧ ex'.now = ex.now ∧
      ∀ c claims, ex.pc = .joined c claims → ex'.pc = .joined c claims) ∨
    ∃ c, a = .request r ex.now ex.request c ∧
      ∀ d claims, ex.pc = .joined d claims → d = c := by
  cases a with
  | hub a =>
      refine Or.inl ⟨ex, ?_, rfl, rfl, fun _ _ h => h⟩
      rw [← (act_eq_some hs).2.2.1, hr]
  | request r' now request c =>
      obtain ⟨-, pc, hub, rfl, -, -, hcase⟩ := request_eq_some hs
      by_cases hd : r = r'
      · subst hd
        rw [enter_self, Option.some.injEq] at hr
        subst hr
        refine Or.inr ⟨c, rfl, fun d claims hpc => ?_⟩
        rcases hcase with ⟨-, hother⟩ | ⟨claims', hjoined, -⟩
        · exact absurd hpc (hother d claims)
        · rw [hjoined] at hpc
          cases hpc
          rfl
      · rw [enter_of_ne hd] at hr
        exact Or.inl ⟨ex, hr, rfl, rfl, fun _ _ h => h⟩
  | publish r' =>
      obtain ⟨request, now, msg, ch, hr', -, rfl⟩ := publish_eq_some h.hub.table hs
      by_cases hd : r = r'
      · subst hd
        have hself : some ⟨request, now, .published (some msg)⟩ = some ex :=
          (enter_self s r _ s.hub).symm.trans hr
        cases hself
        exact Or.inl ⟨_, hr', rfl, rfl, fun _ _ h => nomatch h⟩
      · exact Or.inl ⟨ex, (enter_of_ne hd s _ s.hub).symm.trans hr, rfl, rfl, fun _ _ h => h⟩

theorem handler_run {as : List ServerAction} (h : Server.run runtime getenv as = some s)
    {r : RequestId} {ex : Exchange} (hr : s.handler r = some ex) :
    ∃ c, ServerAction.request r ex.now ex.request c ∈ as ∧
      ∀ d claims, ex.pc = .joined d claims → d = c := by
  induction as using List.reverseRecOn generalizing s ex with
  | nil =>
      cases h
      cases hr
  | append_singleton as a ih =>
      obtain ⟨u, hu, hs⟩ := (Runs.run_snoc_eq_some (Server.step runtime getenv)).mp h
      rcases handler_step (server_inv_run hu) hs hr with
        ⟨ex', hr', hrequest, hnow, hjoined⟩ | ⟨c, rfl, hjoined⟩
      · obtain ⟨c, hmem, hc⟩ := ih hu hr'
        rw [hrequest, hnow] at hmem
        exact ⟨c, List.mem_append_left _ hmem, fun d claims hd => hc d claims (hjoined d claims hd)⟩
      · exact ⟨c, List.mem_append_right as (List.mem_singleton.mpr rfl), hjoined⟩

/-! ### What a client hears -/

variable (runtime getenv)

/-- A message that was allowed into the hub: the valid event of a payload that Redis delivered, or
the event of an internal request that arrived with the key. -/
def Allowed (as : List ServerAction) (p : Sender × RoomMessage) : Prop :=
  match p.1 with
  | .redis => ∃ raw, (deliveredPayloads as)[p.2.seq]? = some raw ∧
      ValidEvent runtime.codec raw p.2.teamID p.2.payload
  | .request r => ∃ now request c, ServerAction.request r now request c ∈ as ∧
      Published runtime getenv request r p.2

theorem allowed_of_sent {as : List ServerAction} (h : Server.run runtime getenv as = some s)
    {p : Sender × RoomMessage} (hp : p ∈ s.sent) : Allowed runtime getenv as p := by
  have hinv := server_inv_run h
  obtain ⟨sender, msg⟩ := p
  have hby : msg ∈ s.sentBy sender :=
    List.mem_map.mpr ⟨(sender, msg), List.mem_filter.mpr ⟨hp, decide_eq_true rfl⟩, rfl⟩
  cases sender with
  | redis =>
      have hmem : msg ∈ messagesFrom runtime.codec 0 s.hub.received := by
        rw [← hinv.redis]
        exact List.mem_append_left _ hby
      rw [server_received_run h] at hmem
      obtain ⟨-, raw, hraw, hf⟩ := mem_messagesFrom runtime.codec hmem
      exact ⟨raw, hraw, (forward_eq_some runtime.codec).mp hf⟩
  | request r =>
      rw [hinv.request r, Server.sentFor] at hby
      cases hr : s.handler r with
      | none =>
          rw [hr] at hby
          exact absurd hby List.not_mem_nil
      | some ex =>
          rw [hr] at hby
          have hmem : msg ∈ ex.pc.sent := hby
          obtain ⟨c, hrequest, -⟩ := handler_run h hr
          have hvalid := hinv.valid r ex hr
          obtain ⟨teamID, event, ha⟩ := hvalid.authorised (List.ne_nil_of_mem hmem)
          exact ⟨ex.now, ex.request, c, hrequest, (hvalid.accounted ha).published ha hmem⟩

/-- The text frames of a client are the payloads of some of the messages sent for its team, in the
order of the sends. -/
theorem texts_sent {as : List ServerAction} (h : Server.run runtime getenv as = some s)
    (c : ClientId) :
    ∃ heard : List (Sender × RoomMessage), heard.Sublist s.sent ∧
      texts (s.hub.client c).frames = heard.map (·.2.payload) ∧
      ∀ p ∈ heard, p.2.teamID = (s.hub.client c).teamID := by
  have hinv := server_inv_run h
  have hmailbox := hinv.hub.mailbox c
  have haccount : (s.hub.client c).reached ++ (s.hub.hub.due c).toList = s.hub.offered c :=
    hmailbox.account
  -- written ⊑ accepted ⊑ offered ⊑ sent
  have haccepted : (s.hub.client c).accepted.Sublist (s.hub.offered c) := by
    rw [← haccount]
    exact (accepted_sublist_reached _).trans (List.sublist_append_left _ _)
  have hoffered : (s.hub.offered c).Sublist (s.sent.map (·.2)) := by
    refine (window_sublist c (s.hub.client c).teamID s.hub.log).trans ?_
    rw [hinv.account]
    exact List.filter_sublist.trans (List.sublist_append_left _ _)
  have hwritten : texts (s.hub.client c).frames <+: (s.hub.client c).accepted.map (·.payload) :=
    hmailbox.flow.texts_prefix
  obtain ⟨n, hn⟩ : ∃ n, texts (s.hub.client c).frames =
      ((s.hub.client c).accepted.take n).map (·.payload) := by
    refine ⟨(texts (s.hub.client c).frames).length, ?_⟩
    rw [List.map_take]
    exact List.prefix_iff_eq_take.mp hwritten
  have htaken := (List.take_sublist n (s.hub.client c).accepted).trans haccepted
  obtain ⟨heard, hheard, hmap⟩ := List.sublist_map_iff.mp (htaken.trans hoffered)
  refine ⟨heard, hheard, ?_, fun p hp => ?_⟩
  · rw [hn, hmap, List.map_map]
    rfl
  · refine hmailbox.team p.2 (htaken.subset ?_)
    rw [hmap]
    exact List.mem_map_of_mem hp

/-- **Nobody hears what is not meant for them.**  In every run of the service and for every client
that exists: the client was registered by the handler of a `GET /ws` handshake of the run whose
ticket was valid when it arrived, for the team the request named, from an allowed origin; and its
text frames are the payloads, in the order in which the hub was sent them, of messages for that
team, each of them the valid event of a payload from Redis or the event of an internal request with
the key. -/
theorem frames_authorised {as : List ServerAction} (h : Server.run runtime getenv as = some s)
    (c : ClientId) (hc : (s.hub.client c).stage ≠ .absent) :
    (∃ r ex claims, ServerAction.request r ex.now ex.request c ∈ as ∧
      s.handler r = some ex ∧ ex.pc = .joined c claims ∧
      Admitted runtime getenv ex.now ex.request claims ∧
      (s.hub.client c).teamID = claims.teamID) ∧
    ∃ heard : List (Sender × RoomMessage), heard.Sublist s.sent ∧
      texts (s.hub.client c).frames = heard.map (·.2.payload) ∧
      ∀ p ∈ heard, p.2.teamID = (s.hub.client c).teamID ∧ Allowed runtime getenv as p := by
  have hinv := server_inv_run h
  constructor
  · obtain ⟨r, ex, claims, hr, hpc, hteam⟩ := hinv.joined c hc
    obtain ⟨d, hmem, hd⟩ := handler_run h hr
    have hcd : c = d := hd c claims hpc
    subst hcd
    exact ⟨r, ex, claims, hmem, hr, hpc, (hinv.valid r ex hr).admitted hpc, hteam⟩
  · obtain ⟨heard, hsub, htexts, hteam⟩ := texts_sent runtime getenv h c
    exact ⟨heard, hsub, htexts, fun p hp =>
      ⟨hteam p hp, allowed_of_sent runtime getenv h (hsub.subset hp)⟩⟩

/-! ### A sample run -/

/-- The header and the payload of a ticket for team 1, as text. -/
def sampleTicketTexts : Bytes × Bytes := (literal "header", literal "payload")

def sampleAuth : AuthRuntime where
  hmacSha256 _ _ := literal "mac"
  parseJSON data :=
    if data = sampleTicketTexts.1 then
      some (.object [("alg".toList, .string "HS256".toList), ("typ".toList, .string "JWT".toList)])
    else if data = sampleTicketTexts.2 then
      some (.object [("user_id".toList, .string "u".toList), ("org_id".toList, .string "o".toList),
        ("team_id".toList, .number (.int 1)), ("team_public_id".toList, .string "t".toList),
        ("exp".toList, .number (.int 1800000000))])
    else none

def sampleServerRuntime : ServerRuntime Unit where
  codec := sampleCodec
  decode body := if body = literal "body" then some ⟨1, utf8 "m".toList, ()⟩ else none
  auth := sampleAuth

/-- A WebSocket request with the ticket for team 1. -/
def sampleJoinRequest : Request where
  method := "GET"
  path := "/ws"
  origin := literal "http://localhost:3000"
  internalKey := []
  token := Go.rawURLEncode sampleTicketTexts.1 ++ literal "." ++
    Go.rawURLEncode sampleTicketTexts.2 ++ literal "." ++ Go.rawURLEncode (literal "mac")
  teamID := literal "t"
  body := []
  handshake := true

/-- An internal request with the default key. -/
def samplePublishRequest : Request where
  method := "POST"
  path := "/internal/publish"
  origin := []
  internalKey := literal "dev-internal-key-change-me"
  token := []
  teamID := []
  body := literal "body"
  handshake := false

/-- Client 0 joins, an internal request publishes for its team, and Redis delivers an event. -/
def sampleServerRun : List ServerAction :=
  [.request 0 1700000000 sampleJoinRequest 0, .hub (.register 0),
    .request 1 1700000001 samplePublishRequest 1, .hub (.redis sampleRaw), .publish 1,
    .hub .enqueue, .hub .startBroadcast, .hub (.range 0), .hub .endBroadcast, .hub (.receive 0),
    .hub (.write 0 true), .hub .startBroadcast, .hub (.range 0), .hub .endBroadcast]

theorem frames_authorised_sample :
    ∃ s, Server.run sampleServerRuntime (fun _ => []) sampleServerRun = some s ∧
      (s.hub.client 0).frames = [.text samplePayload] ∧
      (∃ r ex claims, s.handler r = some ex ∧ ex.pc = .joined 0 claims ∧
        Admitted sampleServerRuntime (fun _ => []) ex.now ex.request claims ∧
        (s.hub.client 0).teamID = claims.teamID) ∧
      ∃ heard : List (Sender × RoomMessage), heard.Sublist s.sent ∧
        texts (s.hub.client 0).frames = heard.map (·.2.payload) := by
  have hrun : (Server.run sampleServerRuntime (fun _ => []) sampleServerRun).map
      (fun s => ((s.hub.client 0).frames, (s.hub.client 0).stage))
        = some ([.text samplePayload], .registered) := by decide +kernel
  obtain ⟨s, hs, hpair⟩ := Option.map_eq_some_iff.mp hrun
  obtain ⟨hframes, hstage⟩ := Prod.mk.inj hpair
  obtain ⟨⟨r, ex, claims, -, hr, hpc, hadmitted, hteam⟩, heard, hsub, htexts, -⟩ :=
    frames_authorised sampleServerRuntime (fun _ => []) hs 0 (by rw [hstage]; simp)
  exact ⟨s, hs, hframes, ⟨r, ex, claims, hr, hpc, hadmitted, hteam⟩, heard, hsub, htexts⟩

end SocketServer.Chat

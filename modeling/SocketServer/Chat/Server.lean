import SocketServer.Chat.Settling
import SocketServer.Chat.Handlers

/-!
# The whole chat service

The hub with its two sources of events and its one source of clients: the Redis subscriber, and the
HTTP handlers, of which any number run at a time.  A handler of `/internal/publish` blocks in
`Hub.Publish` beside the subscriber; a handler of `/ws` registers a client.

`moves_step` says what each action of the hub does to the messages on their way: it sends those of
the subscriber, which are the valid events among its payloads.

`Server.sent` is a ghost: the messages in the order in which their sends went through.
-/

namespace SocketServer.Chat

open SocketServer.GoChannel SocketServer.Text

abbrev RequestId := ℕ

/-- Where a handler stands.  `joined` is past the upgrade, in `ServeWS` with its client;
`publishing` is blocked in the send of `Hub.Publish`; `published` has answered 204, with no message
when `json.Marshal` failed. -/
inductive HandlerPc where
  | answered (response : Response)
  | upgradeFailed
  | joined (c : ClientId) (claims : Claims)
  | publishing (msg : RoomMessage)
  | published (msg : Option RoomMessage)

/-- A request, the time of its arrival and its handler. -/
structure Exchange where
  request : Request
  now : ℤ
  pc : HandlerPc

/-- Who calls `Hub.Publish`. -/
inductive Sender where
  | redis
  | request (r : RequestId)
  deriving DecidableEq

structure Server where
  hub : State
  handler : RequestId → Option Exchange
  sent : List (Sender × RoomMessage)

def Server.initial : Server where
  hub := State.initial
  handler := fun _ => none
  sent := []

/-- The messages that an action of the subscriber or the hub puts on the broadcast channel. -/
def State.sending (s : State) : Action → List (Sender × RoomMessage)
  | .enqueue => s.subscriber.pending.map fun msg => (.redis, msg)
  | _ => []

/-- A handler is at `pc`, with the hub as it left it. -/
def Server.enter (s : Server) (r : RequestId) (exchange : Exchange) (hub : State) : Server :=
  { s with hub := hub, handler := Function.update s.handler r (some exchange) }

inductive ServerAction where
  /-- An action of the subscriber, the hub or a pump. -/
  | hub (a : Action)
  /-- A request arrives and is handled up to its answer or its first blocking send; `c` is the
  client it allocates if it gets that far. -/
  | request (r : RequestId) (now : ℤ) (request : Request) (c : ClientId)
  /-- The send of a handler's `Hub.Publish` goes through. -/
  | publish (r : RequestId)

section Steps

variable {δ : Type*} (runtime : ServerRuntime δ) (getenv : String → Bytes)

/-- Clients are allocated by handlers only. -/
def Server.act (s : Server) (a : Action) : Option Server :=
  match a with
  | .serve _ _ => none
  | a => (Chat.step runtime.codec s.hub a).map fun hub =>
      { s with hub := hub, sent := s.sent ++ s.hub.sending a }

def Server.request (s : Server) (r : RequestId) (now : ℤ) (request : Request) (c : ClientId) :
    Option Server :=
  match s.handler r with
  | some _ => none
  | none =>
      match serveHTTP runtime getenv now request with
      | .respond status body =>
          some (s.enter r ⟨request, now, .answered
            ⟨status, corsHeaders getenv request.origin, body⟩⟩ s.hub)
      | .upgradeFailed => some (s.enter r ⟨request, now, .upgradeFailed⟩ s.hub)
      | .join claims =>
          (s.hub.serve c claims.teamID).map (s.enter r ⟨request, now, .joined c claims⟩)
      | .publish teamID event =>
          match publish runtime.codec event with
          | none => some (s.enter r ⟨request, now, .published none⟩ s.hub)
          | some payload =>
              some (s.enter r ⟨request, now, .publishing ⟨r, teamID, payload⟩⟩ s.hub)

def Server.publish (s : Server) (r : RequestId) : Option Server :=
  match s.handler r with
  | some ⟨request, now, .publishing msg⟩ =>
      match s.hub.broadcast.trySend msg with
      | .sent ch =>
          some { s.enter r ⟨request, now, .published (some msg)⟩ { s.hub with broadcast := ch } with
            sent := s.sent ++ [(.request r, msg)] }
      | .full => none
      | .panic => some { s with hub := { s.hub with hub := .panicked } }
  | _ => none

def Server.step (s : Server) : ServerAction → Option Server
  | .hub a => s.act runtime a
  | .request r now request c => s.request runtime getenv r now request c
  | .publish r => s.publish r

/-- The state after a run of the service. -/
abbrev Server.run (as : List ServerAction) : Option Server :=
  Runs.run (Server.step runtime getenv) Server.initial as

/-! ### What an action does to the publications -/

variable {codec : EventCodec δ} {s t : State}

/-- An action of the hub moves messages along; the subscriber's payloads become messages. -/
structure Moves (codec : EventCodec δ) (s : State) (a : Action) (t : State) : Prop where
  account : broadcasts t.log ++ t.broadcast.buffer =
    broadcasts s.log ++ s.broadcast.buffer ++ (s.sending a).map (·.2)
  subscriber : ∃ raws, t.received = s.received ++ raws ∧
    (s.sending a).map (·.2) ++ t.subscriber.pending =
      s.subscriber.pending ++ messagesFrom codec s.received.length raws

/-- An action that sends nothing and leaves the subscriber alone. -/
theorem Moves.of_same {a : Action} (hsending : s.sending a = [])
    (haccount : broadcasts t.log ++ t.broadcast.buffer = broadcasts s.log ++ s.broadcast.buffer)
    (hreceived : t.received = s.received) (hsubscriber : t.subscriber = s.subscriber) :
    Moves codec s a t where
  account := by rw [hsending, List.map_nil, List.append_nil, haccount]
  subscriber := by
    refine ⟨[], by rw [hreceived, List.append_nil], ?_⟩
    rw [hsending, hsubscriber, messagesFrom, List.map_nil, List.nil_append, List.append_nil]

theorem moves_redis {raw : Bytes} (hs : s.redis codec raw = some t) :
    Moves codec s (.redis raw) t := by
  unfold State.redis at hs
  split at hs
  · rename_i hpc
    have hnil : s.subscriber.pending = [] := by rw [hpc]; rfl
    split at hs
    · rename_i hf
      cases hs
      refine ⟨(List.append_nil _).symm, [raw], rfl, ?_⟩
      show s.subscriber.pending = s.subscriber.pending ++ messagesFrom codec _ [raw]
      rw [messagesFrom, hf]
      exact (List.append_nil _).symm
    · rename_i teamID payload hf
      cases hs
      refine ⟨(List.append_nil _).symm, [raw], rfl, ?_⟩
      show [_] = s.subscriber.pending ++ messagesFrom codec _ [raw]
      rw [messagesFrom, hf, hnil]
      rfl
  · cases hs

theorem moves_enqueue (h : Table s) (hs : s.enqueue = some t) : Moves codec s .enqueue t := by
  obtain ⟨msg, ch, hpc, hsend, rfl⟩ := enqueue_eq_some h hs
  have hsending : (s.sending .enqueue).map (·.2) = [msg] := by
    rw [State.sending, hpc]
    rfl
  refine ⟨?_, [], (List.append_nil _).symm, ?_⟩
  · rw [hsending, (trySend_eq_sent hsend).2.2.1, List.append_assoc]
  · rw [hsending, hpc]
    rfl

theorem moves_unregister (h : Table s) {c : ClientId} {sender : Unregister}
    (hs : s.unregister c sender = some t) : Moves codec s (.unregister c sender) t := by
  obtain ⟨-, cl, htake, rfl⟩ := unregister_eq_some hs
  obtain ⟨hreq, hteam, hstage, hsend, -⟩ := takeUnregister_eq_some htake
  have hreg := h.registered_of_request hreq
  have htaken : Table (s.setClient c cl) :=
    h.setClient s.log hreg (hstage.trans hreg) hteam (congrArg Chan.closed hsend)
  obtain ⟨-, hbroadcast, hsub, hreceived⟩ := htaken.remove_rest (c := c)
  refine Moves.of_same rfl ?_ hreceived hsub
  show broadcasts (s.log ++ [_]) ++ ((s.setClient c cl).remove c).broadcast.buffer = _
  rw [broadcasts_snoc_unregistered, hbroadcast]
  rfl

theorem moves_step (h : Table s) {a : Action} (hs : Chat.step codec s a = some t) :
    Moves codec s a t := by
  cases a with
  | redis raw => exact moves_redis hs
  | enqueue => exact moves_enqueue h hs
  | stop =>
      simp only [Chat.step, State.stop] at hs
      split at hs
      · rename_i hpc
        cases hs
        refine ⟨(List.append_nil _).symm, [], (List.append_nil _).symm, ?_⟩
        rw [hpc]
        rfl
      · cases hs
  | serve c teamID =>
      simp only [Chat.step, State.serve] at hs
      split at hs
      · cases hs
        exact Moves.of_same rfl rfl rfl rfl
      · cases hs
  | register c =>
      obtain ⟨-, -, rfl⟩ := register_eq_some hs
      refine Moves.of_same rfl ?_ rfl rfl
      rw [broadcasts_snoc_registered]
  | unregister c sender => exact moves_unregister h hs
  | startBroadcast =>
      obtain ⟨-, msg, ch, hrecv, rfl⟩ := startBroadcast_eq_some hs
      refine Moves.of_same rfl ?_ rfl rfl
      rw [broadcasts_snoc_broadcast, (recv_eq_value hrecv).1, List.append_assoc]
      rfl
  | range c =>
      obtain ⟨msg, remaining, cl, -, -, -, rfl⟩ := range_eq_some h hs
      exact Moves.of_same rfl rfl rfl rfl
  | endBroadcast =>
      obtain ⟨msg, -, rfl⟩ := endBroadcast_eq_some hs
      exact Moves.of_same rfl rfl rfl rfl
  | readError c =>
      obtain ⟨cl, -, rfl⟩ := Option.map_eq_some_iff.mp hs
      exact Moves.of_same rfl rfl rfl rfl
  | closeConn c =>
      obtain ⟨cl, -, rfl⟩ := Option.map_eq_some_iff.mp hs
      exact Moves.of_same rfl rfl rfl rfl
  | receive c =>
      obtain ⟨cl, -, rfl⟩ := Option.map_eq_some_iff.mp hs
      exact Moves.of_same rfl rfl rfl rfl
  | write c ok =>
      obtain ⟨cl, -, rfl⟩ := Option.map_eq_some_iff.mp hs
      exact Moves.of_same rfl rfl rfl rfl
  | ping c ok =>
      obtain ⟨cl, -, rfl⟩ := Option.map_eq_some_iff.mp hs
      exact Moves.of_same rfl rfl rfl rfl

/-- A mailbox step keeps the team of an allocated client. -/
theorem Mailbox.Step.team {m m' : Mailbox} (hs : m.Step m') (hm : m.client.stage ≠ .absent) :
    m'.client.teamID = m.client.teamID := by
  cases hs with
  | serve habsent => exact absurd habsent hm
  | register hstage => rfl
  | unregister hdue htake hclosed hbuffer => exact (takeUnregister_eq_some htake).2.1
  | offer hdue hreg hopen hteam => rfl
  | visit hdue hvisit => exact hvisit.same.1
  | pump hreg hpump => exact hpump.same.1

/-- An allocated client keeps its team. -/
theorem team_step (h : Inv s) {a : Action} {c : ClientId} (hs : Chat.step codec s a = some t)
    (hc : (s.client c).stage ≠ .absent) : (t.client c).teamID = (s.client c).teamID := by
  rcases step_mailbox h.table h.logged hs c with heq | hstep
  · exact congrArg (fun m => m.client.teamID) heq
  · exact hstep.team hc

end Steps

end SocketServer.Chat

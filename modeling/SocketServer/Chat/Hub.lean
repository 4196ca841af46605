import SocketServer.Library.GoChannel
import SocketServer.Library.Runs
import SocketServer.Library.Text
import Mathlib.Data.Finset.Basic
import Mathlib.Logic.Function.Basic

/-!
# The chat service: Redis subscriber, hub and client pumps

The Go process of `cmd/server` as one transition system.  Its goroutines are

* `Subscriber.Run` (`internal/bus/redis.go`), which decodes a Redis payload, drops what is not a
  valid event and calls `Hub.Publish`, a blocking send on `broadcast` (capacity 64);
* `Hub.Run` (`internal/hub/hub.go`), one `select` over `register`, `unregister` and `broadcast`.
  A broadcast ranges over the room's clients one by one, in any order, while the other goroutines
  go on;
* for each client `ServeWS`, `readPump` and `writePump` (`internal/hub/client.go`), and the
  goroutines `h.unregister <- c` that a full buffer makes the hub spawn.

`step` executes one atomic action of one goroutine.  The unbuffered channels `register` and
`unregister` are rendezvous: the hub's action takes a waiting sender.  A send on a closed channel
and a second close lead to `HubPc.panicked`.

`RoomMessage.seq`, `State.received`, `State.log` and `Client.attempts` are ghosts: they record
which Redis payload a message stems from, the payloads received, the cases the hub has taken and
how each attempted send came out.  No guard reads them.
-/

namespace SocketServer.Chat

open SocketServer.GoChannel SocketServer.Text

/-- A `*Client`; the pointer is the identity. -/
abbrev ClientId := ℕ

/-- `bus.ChatEvent`. -/
structure ChatEvent (δ : Type*) where
  teamID : Int
  type : Bytes
  data : δ

/-- `hub.Event`. -/
structure Event (δ : Type*) where
  type : Bytes
  data : δ

/-- The use the service makes of `encoding/json`; `none` is a returned error. -/
structure EventCodec (δ : Type*) where
  unmarshal : Bytes → Option (ChatEvent δ)
  marshal : Event δ → Option Bytes

/-- `hub.roomMessage`; `seq` is the index of the Redis payload it was made from. -/
structure RoomMessage where
  seq : ℕ
  teamID : Int
  payload : Bytes
  deriving DecidableEq, Repr

/-- `make(chan []byte, 32)` in `ServeWS`. -/
abbrev sendCapacity : ℕ := 32

/-- `make(chan roomMessage, 64)` in `New`. -/
abbrev broadcastCapacity : ℕ := 64

/-! ### The goroutines -/

/-- Where `Subscriber.Run` stands; `publishing` is blocked in the send of `Hub.Publish`. -/
inductive SubscriberPc where
  | receiving
  | publishing (msg : RoomMessage)
  | returned

/-- Where `Hub.Run` stands; `ranging` is inside the `for client := range` of a broadcast, with the
clients not visited yet. -/
inductive HubPc where
  | selecting
  | ranging (msg : RoomMessage) (remaining : Finset ClientId)
  | panicked
  deriving DecidableEq

/-- What `writePump` has put on the wire with `conn.WriteMessage`.  The replies to control frames
that the websocket library writes inside `ReadMessage`, a close frame among them, are not
counted. -/
inductive Frame where
  | text (payload : Bytes)
  | ping
  | close
  deriving DecidableEq, Repr

/-- Where `ServeWS` stands for a client: not allocated, blocked in `h.register <- client`, or
past it with both pumps started. -/
inductive Stage where
  | absent
  | registering
  | registered
  deriving DecidableEq, Repr

/-- Where `readPump` stands; `unregistering` is blocked in its deferred `c.hub.unregister <- c`, and
`closing` is behind it, before `c.conn.Close()`. -/
inductive ReadPc where
  | reading
  | unregistering
  | closing
  | returned
  deriving DecidableEq, Repr

/-- Where `writePump` stands; `writing` holds the `message, ok` just received (`none` for
`!ok`). -/
inductive WritePc where
  | selecting
  | writing (message : Option RoomMessage)
  | returned
  deriving DecidableEq, Repr

/-- A client and the goroutines that serve it.  `evictions` counts the goroutines
`h.unregister <- c` spawned by broadcasts and not taken yet; `attempts` is the ghost list of the
messages a broadcast tried to send, with whether the buffer had room. -/
structure Client where
  teamID : Int
  send : Chan RoomMessage sendCapacity
  stage : Stage
  readPump : ReadPc
  writePump : WritePc
  connClosed : Bool
  evictions : ℕ
  frames : List Frame
  attempts : List (RoomMessage × Bool)

/-- A client as `ServeWS` allocates it. -/
def Client.fresh (teamID : Int) : Client where
  teamID := teamID
  send := Chan.make RoomMessage sendCapacity
  stage := .absent
  readPump := .reading
  writePump := .selecting
  connClosed := false
  evictions := 0
  frames := []
  attempts := []

/-- The payloads accepted into the client's send channel, in order. -/
def Client.accepted (cl : Client) : List RoomMessage := (cl.attempts.filter (·.2)).map (·.1)

/-- The payloads a broadcast dropped because the client's buffer was full. -/
def Client.dropped (cl : Client) : List RoomMessage := (cl.attempts.filter (!·.2)).map (·.1)

/-- The payloads a broadcast tried to send, accepted or not. -/
def Client.reached (cl : Client) : List RoomMessage := cl.attempts.map (·.1)

/-- A case of the hub's `select`, as recorded by the ghost log. -/
inductive HubEvent where
  | registered (c : ClientId)
  | unregistered (c : ClientId)
  | broadcast (msg : RoomMessage)

structure State where
  subscriber : SubscriberPc
  received : List Bytes
  broadcast : Chan RoomMessage broadcastCapacity
  hub : HubPc
  rooms : Int → Option (Finset ClientId)
  client : ClientId → Client
  log : List HubEvent

/-- The process after `New` and `go h.Run()`, with the subscriber started and no client yet. -/
def State.initial : State where
  subscriber := .receiving
  received := []
  broadcast := Chan.make RoomMessage broadcastCapacity
  hub := .selecting
  rooms := fun _ => none
  client := fun _ => Client.fresh 0
  log := []

/-- `h.rooms[teamID]` as a range sees it: a missing room is empty. -/
def State.members (s : State) (teamID : Int) : Finset ClientId := (s.rooms teamID).getD ∅

def State.setClient (s : State) (c : ClientId) (cl : Client) : State :=
  { s with client := Function.update s.client c cl }

/-! ### `Subscriber.Run` and `Hub.Publish` -/

variable {δ : Type*}

/-- `Hub.Publish` up to its send: the payload, or nothing when `json.Marshal` fails. -/
def publish (codec : EventCodec δ) (event : Event δ) : Option Bytes := codec.marshal event

/-- The body of the subscriber's loop for one Redis payload: the room and the payload it
publishes, if any. -/
def forward (codec : EventCodec δ) (raw : Bytes) : Option (Int × Bytes) :=
  match codec.unmarshal raw with
  | none => none
  | some event =>
      if event.teamID < 1 ∨ event.type = [] then none
      else (publish codec { type := event.type, data := event.data }).map
        fun payload => (event.teamID, payload)

/-- `msg, ok := <-ch` with a message. -/
def State.redis (codec : EventCodec δ) (s : State) (raw : Bytes) : Option State :=
  match s.subscriber with
  | .receiving =>
      match forward codec raw with
      | none => some { s with received := s.received ++ [raw] }
      | some (teamID, payload) =>
          some { s with
            received := s.received ++ [raw]
            subscriber := .publishing ⟨s.received.length, teamID, payload⟩ }
  | _ => none

/-- The send `h.broadcast <- roomMessage{...}`; not enabled while the channel is full. -/
def State.enqueue (s : State) : Option State :=
  match s.subscriber with
  | .publishing msg =>
      match s.broadcast.trySend msg with
      | .sent ch => some { s with broadcast := ch, subscriber := .receiving }
      | .full => none
      | .panic => some { s with hub := .panicked }
  | _ => none

/-- `ctx.Done()`, or the Redis channel closed. -/
def State.stop (s : State) : Option State :=
  match s.subscriber with
  | .receiving => some { s with subscriber := .returned }
  | _ => none

/-! ### `ServeWS` and the cases of `Hub.Run` -/

/-- `ServeWS` after a successful upgrade, up to the send on `register`. -/
def State.serve (s : State) (c : ClientId) (teamID : Int) : Option State :=
  if (s.client c).stage = .absent then
    some (s.setClient c { Client.fresh teamID with stage := .registering })
  else none

/-- `case client := <-h.register`. -/
def State.register (s : State) (c : ClientId) : Option State :=
  match s.hub with
  | .selecting =>
      if (s.client c).stage = .registering then
        some { s with
          rooms := Function.update s.rooms (s.client c).teamID
            (some (insert c (s.members (s.client c).teamID)))
          client := Function.update s.client c { s.client c with stage := .registered }
          log := s.log ++ [.registered c] }
      else none
  | _ => none

/-- The goroutine whose send `h.unregister <- c` the hub takes. -/
inductive Unregister where
  | eviction
  | readPump
  deriving DecidableEq, Repr

/-- The sender of an unregister request goes on; `none` when it has none waiting. -/
def Client.takeUnregister (cl : Client) : Unregister → Option Client
  | .eviction => if 0 < cl.evictions then some { cl with evictions := cl.evictions - 1 } else none
  | .readPump =>
      if cl.readPump = .unregistering then some { cl with readPump := .closing } else none

/-- The body of `case client := <-h.unregister`. -/
def State.remove (s : State) (c : ClientId) : State :=
  match s.rooms (s.client c).teamID with
  | none => s
  | some clients =>
      if c ∈ clients then
        match (s.client c).send.close with
        | none => { s with hub := .panicked }
        | some ch =>
            { s with
              rooms := Function.update s.rooms (s.client c).teamID
                (if clients.erase c = ∅ then none else some (clients.erase c))
              client := Function.update s.client c { s.client c with send := ch } }
      else s

/-- `case client := <-h.unregister`. -/
def State.unregister (s : State) (c : ClientId) (sender : Unregister) : Option State :=
  match s.hub with
  | .selecting =>
      match (s.client c).takeUnregister sender with
      | none => none
      | some cl => some { (s.setClient c cl).remove c with log := s.log ++ [.unregistered c] }
  | _ => none

/-- `case msg := <-h.broadcast`, up to the range loop. -/
def State.startBroadcast (s : State) : Option State :=
  match s.hub with
  | .selecting =>
      match s.broadcast.recv with
      | .value msg ch =>
          some { s with
            broadcast := ch
            hub := .ranging msg (s.members msg.teamID)
            log := s.log ++ [.broadcast msg] }
      | _ => none
  | _ => none

/-- One iteration of the range loop: `client.send <- msg.payload`, or the goroutine that asks for
the client's removal. -/
def State.range (s : State) (c : ClientId) : Option State :=
  match s.hub with
  | .ranging msg remaining =>
      if c ∈ remaining then
        match (s.client c).send.trySend msg with
        | .sent ch =>
            some { s with
              hub := .ranging msg (remaining.erase c)
              client := Function.update s.client c
                { s.client c with
                  send := ch
                  attempts := (s.client c).attempts ++ [(msg, true)] } }
        | .full =>
            some { s with
              hub := .ranging msg (remaining.erase c)
              client := Function.update s.client c
                { s.client c with
                  evictions := (s.client c).evictions + 1
                  attempts := (s.client c).attempts ++ [(msg, false)] } }
        | .panic => some { s with hub := .panicked }
      else none
  | _ => none

/-- The range loop ends, back to the `select`. -/
def State.endBroadcast (s : State) : Option State :=
  match s.hub with
  | .ranging _ remaining => if remaining = ∅ then some { s with hub := .selecting } else none
  | _ => none

/-! ### The pumps -/

/-- `c.conn.ReadMessage()` fails: `readPump` leaves its loop.  When the peer closed, the library has
answered before it returns the error; the reply is no `Frame`. -/
def Client.readError (cl : Client) : Option Client :=
  if cl.stage = .registered ∧ cl.readPump = .reading then
    some { cl with readPump := .unregistering }
  else none

/-- `c.conn.Close()` at the end of the deferred function of `readPump`. -/
def Client.closeConn (cl : Client) : Option Client :=
  if cl.readPump = .closing then some { cl with readPump := .returned, connClosed := true }
  else none

/-- `case message, ok := <-c.send` of `writePump`. -/
def Client.receive (cl : Client) : Option Client :=
  if cl.stage = .registered ∧ cl.writePump = .selecting then
    match cl.send.recv with
    | .value msg ch => some { cl with send := ch, writePump := .writing (some msg) }
    | .closed => some { cl with writePump := .writing none }
    | .blocked => none
  else none

/-- The write that follows a receive.  `ok` is whether `WriteMessage` succeeds, which it cannot
on a closed connection; the close frame's error is ignored.  Where `writePump` returns, its deferred
`c.conn.Close()` is part of the step: it writes nothing in between. -/
def Client.write (cl : Client) (ok : Bool) : Option Client :=
  if ok && cl.connClosed then none
  else match cl.writePump with
    | .writing (some msg) =>
        if ok then some { cl with writePump := .selecting, frames := cl.frames ++ [.text msg.payload] }
        else some { cl with writePump := .returned, connClosed := true }
    | .writing none =>
        some { cl with
          writePump := .returned
          connClosed := true
          frames := if ok then cl.frames ++ [.close] else cl.frames }
    | _ => none

/-- `case <-ticker.C` of `writePump`. -/
def Client.ping (cl : Client) (ok : Bool) : Option Client :=
  if ok && cl.connClosed then none
  else if cl.stage = .registered ∧ cl.writePump = .selecting then
    if ok then some { cl with frames := cl.frames ++ [.ping] }
    else some { cl with writePump := .returned, connClosed := true }
  else none

/-! ### The transition system -/

/-- An atomic action of one goroutine, with what the scheduler and the environment choose. -/
inductive Action where
  | redis (raw : Bytes)
  | enqueue
  | stop
  | serve (c : ClientId) (teamID : Int)
  | register (c : ClientId)
  | unregister (c : ClientId) (sender : Unregister)
  | startBroadcast
  | range (c : ClientId)
  | endBroadcast
  | readError (c : ClientId)
  | closeConn (c : ClientId)
  | receive (c : ClientId)
  | write (c : ClientId) (ok : Bool)
  | ping (c : ClientId) (ok : Bool)
  deriving DecidableEq, Repr

def step (codec : EventCodec δ) (s : State) : Action → Option State
  | .redis raw => s.redis codec raw
  | .enqueue => s.enqueue
  | .stop => s.stop
  | .serve c teamID => s.serve c teamID
  | .register c => s.register c
  | .unregister c sender => s.unregister c sender
  | .startBroadcast => s.startBroadcast
  | .range c => s.range c
  | .endBroadcast => s.endBroadcast
  | .readError c => (s.client c).readError.map (s.setClient c)
  | .closeConn c => (s.client c).closeConn.map (s.setClient c)
  | .receive c => (s.client c).receive.map (s.setClient c)
  | .write c ok => ((s.client c).write ok).map (s.setClient c)
  | .ping c ok => ((s.client c).ping ok).map (s.setClient c)

/-- The state after a run of the service, if its actions are enabled one after the other. -/
abbrev run (codec : EventCodec δ) (as : List Action) : Option State :=
  Runs.run (step codec) State.initial as

end SocketServer.Chat

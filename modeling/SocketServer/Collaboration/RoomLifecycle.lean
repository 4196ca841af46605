import SocketServer.Collaboration.Server
import SocketServer.Library.Runs
import Mathlib.Logic.Function.Basic

/-!
# The lifecycle of rooms over several replicas

`RedisRoomLifecycle` (`collaboration/src/room-lifecycle.ts`) and the hooks of
`collaboration/src/server.ts` that use it.  Deleting a room sets a key in Redis, the tombstone, that
expires after five minutes, and publishes the room's name; every replica that is subscribed handles
the message with `terminateRoom`, which closes the sessions that are then in the room.

A session becomes open in three steps: `onAuthenticate`, whose first check is that the room has no
tombstone; `onLoadDocument`; and the moment when Hocuspocus adds it to the room.  A replica starts
in three steps as well: it connects two clients to Redis and then subscribes.  The steps of all
replicas and sessions interleave in any order.

A session that was refused or closed is gone; the message that `terminateRoom` broadcasts before it
closes them changes nothing here.
-/

namespace SocketServer.Collaboration

open SocketServer.Text SocketServer.Js SocketServer.Checks

/-! ### `RedisRoomLifecycle` -/

/-- In milliseconds. -/
def deletionTTL : ℕ := 5 * 60000

theorem deletionTTL_pos : 0 < deletionTTL := by decide

def deletionKeyPrefix : JsString := js "corta:collaboration:deleted:"

def deletionKey (roomName : JsString) : JsString := deletionKeyPrefix ++ roomName

theorem deletionKey_injective : Function.Injective deletionKey :=
  fun _ _ h => List.append_cancel_left h

/-- What Redis keeps: its clock, and the time at which each key expires. -/
structure Redis where
  now : ℕ
  expiry : JsString → Option ℕ

/-- `EXISTS key`. -/
def Redis.hasKey (redis : Redis) (key : JsString) : Bool :=
  match redis.expiry key with
  | none => false
  | some time => redis.now < time

theorem Redis.hasKey_iff {redis : Redis} {key : JsString} :
    redis.hasKey key = true ↔ ∃ time, redis.expiry key = some time ∧ redis.now < time := by
  unfold Redis.hasKey
  cases redis.expiry key with
  | none => simp
  | some time => simp

/-- `SET key "1" PX ttl`. -/
def Redis.set (redis : Redis) (key : JsString) (ttl : ℕ) : Redis :=
  { redis with expiry := Function.update redis.expiry key (some (redis.now + ttl)) }

/-- A key that was set is there until its time is over. -/
theorem Redis.hasKey_set_later {redis : Redis} {key : JsString} {ttl : ℕ} (milliseconds : ℕ)
    (h : milliseconds < ttl) :
    Redis.hasKey { redis.set key ttl with now := redis.now + milliseconds } key = true :=
  Redis.hasKey_iff.mpr
    ⟨redis.now + ttl, Function.update_self _ _ _, Nat.add_lt_add_left h redis.now⟩

theorem Redis.hasKey_set_self {redis : Redis} {key : JsString} {ttl : ℕ} (h : 0 < ttl) :
    (redis.set key ttl).hasKey key = true :=
  Redis.hasKey_set_later 0 h

theorem Redis.hasKey_set_of_ne {redis : Redis} {key other : JsString} (h : key ≠ other)
    (ttl : ℕ) : (redis.set other ttl).hasKey key = redis.hasKey key := by
  have hexpiry : (redis.set other ttl).expiry key = redis.expiry key := Function.update_of_ne h _ _
  unfold Redis.hasKey
  rw [hexpiry]
  rfl

/-- The lifecycle of one replica: how far its start has come, and the messages that were delivered
to its subscriber and are not handled yet. -/
structure RedisRoomLifecycle where
  clientConnected : Bool
  subscriberConnected : Bool
  subscribed : Bool
  messages : List JsString

/-- `new RedisRoomLifecycle(...)`. -/
def RedisRoomLifecycle.new : RedisRoomLifecycle := ⟨false, false, false, []⟩

/-- `isDeleted`; commands of a client that is not connected are rejected. -/
def RedisRoomLifecycle.isDeleted (lifecycle : RedisRoomLifecycle) (redis : Redis)
    (roomName : JsString) : Option Bool :=
  if lifecycle.clientConnected then some (redis.hasKey (deletionKey roomName)) else none

/-- The delivery of a published message. -/
def RedisRoomLifecycle.deliver (lifecycle : RedisRoomLifecycle) (roomName : JsString) :
    RedisRoomLifecycle :=
  if lifecycle.subscribed then { lifecycle with messages := lifecycle.messages ++ [roomName] }
  else lifecycle

/-! ### Replicas and sessions -/

inductive SessionPhase where
  /-- `onAuthenticate` has returned. -/
  | authenticated
  /-- `onLoadDocument` has returned. -/
  | loaded
  /-- The session is in the room. -/
  | opened
  deriving DecidableEq

structure EditingSession where
  replica : ℕ
  room : JsString
  phase : SessionPhase
  deriving DecidableEq

structure Cluster where
  redis : Redis
  replicas : ℕ → RedisRoomLifecycle
  sessions : ℕ → Option EditingSession

/-- No replica has started, nobody has connected, and nothing was deleted. -/
def Cluster.initial (now : ℕ) : Cluster where
  redis := { now, expiry := fun _ => none }
  replicas _ := .new
  sessions _ := none

inductive ClusterAction where
  | connectClient (replica : ℕ)
  | connectSubscriber (replica : ℕ)
  | subscribe (replica : ℕ)
  | authenticate (replica session : ℕ) (request : AuthenticationRequest)
  | load (session : ℕ) (succeeds : Bool)
  | join (session : ℕ)
  | leave (session : ℕ)
  | delete (replica : ℕ) (roomName : JsString)
  | receive (replica : ℕ)
  | wait (milliseconds : ℕ)

def Cluster.setReplica (s : Cluster) (replica : ℕ) (lifecycle : RedisRoomLifecycle) : Cluster :=
  { s with replicas := Function.update s.replicas replica lifecycle }

def Cluster.setSession (s : Cluster) (session : ℕ) (value : Option EditingSession) : Cluster :=
  { s with sessions := Function.update s.sessions session value }

@[simp] theorem setReplica_self (s : Cluster) (replica : ℕ) (lifecycle : RedisRoomLifecycle) :
    (s.setReplica replica lifecycle).replicas replica = lifecycle :=
  Function.update_self _ _ _

theorem setReplica_of_ne {replica other : ℕ} (h : other ≠ replica) (s : Cluster)
    (lifecycle : RedisRoomLifecycle) :
    (s.setReplica replica lifecycle).replicas other = s.replicas other :=
  Function.update_of_ne h _ _

@[simp] theorem setSession_self (s : Cluster) (session : ℕ) (value : Option EditingSession) :
    (s.setSession session value).sessions session = value :=
  Function.update_self _ _ _

theorem setSession_of_ne {session other : ℕ} (h : other ≠ session) (s : Cluster)
    (value : Option EditingSession) :
    (s.setSession session value).sessions other = s.sessions other :=
  Function.update_of_ne h _ _

/-- The last step of `start`, once both clients are connected. -/
def Cluster.subscribe (s : Cluster) (replica : ℕ) : Option Cluster :=
  if (s.replicas replica).clientConnected ∧ (s.replicas replica).subscriberConnected then
    some (s.setReplica replica { s.replicas replica with subscribed := true })
  else none

/-- `onAuthenticate` for a new session. -/
def Cluster.authenticate (runtime : Runtime) (config : AuthenticationConfig) (s : Cluster)
    (replica session : ℕ) (request : AuthenticationRequest) : Option Cluster :=
  if s.sessions session ≠ none then none
  else
    match onAuthenticate runtime config
        ((s.replicas replica).isDeleted s.redis request.documentName) s.redis.now request with
    | .error _ => some s
    | .ok _ => some (s.setSession session (some ⟨replica, request.documentName, .authenticated⟩))

/-- `onLoadDocument` returns or fails. -/
def Cluster.load (s : Cluster) (session : ℕ) (succeeds : Bool) : Option Cluster :=
  match s.sessions session with
  | some ⟨replica, room, .authenticated⟩ =>
      some (s.setSession session (if succeeds then some ⟨replica, room, .loaded⟩ else none))
  | _ => none

/-- Hocuspocus adds the session to the room. -/
def Cluster.join (s : Cluster) (session : ℕ) : Option Cluster :=
  match s.sessions session with
  | some ⟨replica, room, .loaded⟩ => some (s.setSession session (some ⟨replica, room, .opened⟩))
  | _ => none

/-- `delete` on a replica; it throws when the client is not connected. -/
def Cluster.delete (s : Cluster) (replica : ℕ) (roomName : JsString) : Cluster :=
  if (s.replicas replica).clientConnected then
    { s with
      redis := s.redis.set (deletionKey roomName) deletionTTL
      replicas := fun other => (s.replicas other).deliver roomName }
  else s

/-- `terminateRoom`: `closeConnections` closes the sessions that are in the room. -/
def terminateRoom (sessions : ℕ → Option EditingSession) (replica : ℕ) (roomName : JsString) :
    ℕ → Option EditingSession := fun i =>
  (sessions i).filter fun session =>
    !decide (session.replica = replica ∧ session.room = roomName ∧ session.phase = .opened)

/-- The subscriber handles the next message. -/
def Cluster.receive (s : Cluster) (replica : ℕ) : Option Cluster :=
  match (s.replicas replica).messages with
  | [] => none
  | roomName :: rest =>
      some { s.setReplica replica { s.replicas replica with messages := rest } with
        sessions := terminateRoom s.sessions replica roomName }

def clusterStep (runtime : Runtime) (config : AuthenticationConfig) (s : Cluster) :
    ClusterAction → Option Cluster
  | .connectClient replica =>
      some (s.setReplica replica { s.replicas replica with clientConnected := true })
  | .connectSubscriber replica =>
      some (s.setReplica replica { s.replicas replica with subscriberConnected := true })
  | .subscribe replica => s.subscribe replica
  | .authenticate replica session request => s.authenticate runtime config replica session request
  | .load session succeeds => s.load session succeeds
  | .join session => s.join session
  | .leave session => some (s.setSession session none)
  | .delete replica roomName => some (s.delete replica roomName)
  | .receive replica => s.receive replica
  | .wait milliseconds => some { s with redis := { s.redis with now := s.redis.now + milliseconds } }

/-- The tombstone of the room is alive. -/
def Cluster.Deleted (s : Cluster) (roomName : JsString) : Prop :=
  s.redis.hasKey (deletionKey roomName) = true

/-- Every subscribed replica has handled the deletion of the room. -/
def Cluster.Processed (s : Cluster) (roomName : JsString) : Prop :=
  ∀ replica, (s.replicas replica).subscribed = true → roomName ∉ (s.replicas replica).messages

/-- No session is open in the room, on any replica. -/
def Cluster.Closed (s : Cluster) (roomName : JsString) : Prop :=
  ∀ i session, s.sessions i = some session → session.room = roomName → session.phase ≠ .opened

end SocketServer.Collaboration

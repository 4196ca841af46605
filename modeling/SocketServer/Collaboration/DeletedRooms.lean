import SocketServer.Collaboration.RoomLifecycle
import SocketServer.Collaboration.RoomIdentity

/-!
# Sessions in deleted rooms

While the tombstone of a room is alive no session passes the check of `onAuthenticate`, so all that
matters is which sessions there are at the moment of the delete.  A session that is then in the
room, on a subscribed replica, is closed when the replica handles the message.  The other two kinds
are missed: a session that has passed its check and joins later, and a session on a replica that is
not subscribed yet.

`deleted_room_stays_closed`: when no delete meets a session of these two kinds, no session is open
in a deleted room once its deletion was handled, and none opens while the tombstone lives.
-/

namespace SocketServer.Collaboration

open SocketServer.Text SocketServer.Js SocketServer.Checks

/-- The sessions of the room are all open, on subscribed replicas. -/
def Cluster.AllReachable (s : Cluster) (roomName : JsString) : Prop :=
  ∀ i session, s.sessions i = some session → session.room = roomName →
    session.phase = .opened ∧ (s.replicas session.replica).subscribed = true

/-- A delete that takes effect finds no session of the room between its check and its joining, and
none on a replica that is not subscribed. -/
def CleanDelete (s : Cluster) (a : ClusterAction) : Prop :=
  ∀ replica roomName, a = .delete replica roomName →
    (s.replicas replica).clientConnected = true → s.AllReachable roomName

/-- Every session of the room will be closed by a message under way. -/
def Cluster.Closing (s : Cluster) (roomName : JsString) : Prop :=
  ∀ i session, s.sessions i = some session → session.room = roomName →
    session.phase = .opened ∧ (s.replicas session.replica).subscribed = true ∧
      roomName ∈ (s.replicas session.replica).messages

/-- The sessions of a deleted room are being closed. -/
def Cluster.Consistent (s : Cluster) : Prop := ∀ roomName, s.Deleted roomName → s.Closing roomName

/-! ### What one step can do -/

/-- The ways in which a step changes the cluster, the sessions told apart only by what matters for
deleted rooms. -/
inductive ClusterChange (s : Cluster) (a : ClusterAction) : Cluster → Prop
  | none : ClusterChange s a s
  /-- A replica starts: its messages stay, and so does its subscription. -/
  | replica {replica : ℕ} {lifecycle : RedisRoomLifecycle}
      (hmessages : lifecycle.messages = (s.replicas replica).messages)
      (hsubscribed : (s.replicas replica).subscribed = true → lifecycle.subscribed = true) :
      ClusterChange s a (s.setReplica replica lifecycle)
  /-- A session is new and its room has no tombstone. -/
  | enter {i : ℕ} {session : EditingSession} (hroom : ¬ s.Deleted session.room) :
      ClusterChange s a (s.setSession i (some session))
  /-- A session that was not open moves on in its room. -/
  | advance {i : ℕ} {before session : EditingSession} (hbefore : s.sessions i = some before)
      (hroom : before.room = session.room) (hphase : before.phase ≠ .opened) :
      ClusterChange s a (s.setSession i (some session))
  | leave {i : ℕ} : ClusterChange s a (s.setSession i none)
  | delete {replica : ℕ} {roomName : JsString} (ha : a = .delete replica roomName)
      (hconnected : (s.replicas replica).clientConnected = true) :
      ClusterChange s a (s.delete replica roomName)
  | receive {replica : ℕ} {roomName : JsString} {rest : List JsString}
      (hmessages : (s.replicas replica).messages = roomName :: rest) :
      ClusterChange s a { s.setReplica replica { s.replicas replica with messages := rest } with
        sessions := terminateRoom s.sessions replica roomName }
  | wait {milliseconds : ℕ} :
      ClusterChange s a { s with redis := { s.redis with now := s.redis.now + milliseconds } }

section Steps

variable {runtime : Runtime} {config : AuthenticationConfig} {s t : Cluster} {a : ClusterAction}

/-- Sessions are admitted to rooms without a tombstone only. -/
theorem onAuthenticate_not_deleted {lifecycle : RedisRoomLifecycle} {redis : Redis} {now : ℤ}
    {request : AuthenticationRequest} {claims : DocumentTicketClaims}
    (h : onAuthenticate runtime config (lifecycle.isDeleted redis request.documentName) now request
      = .ok claims) :
    redis.hasKey (deletionKey request.documentName) = false := by
  unfold onAuthenticate at h
  split at h
  · rename_i claims' hclaims
    simp only [authenticate, bind_eq_ok, require_eq_ok, rejectIf_eq_ok] at hclaims
    obtain ⟨deleted, hanswer, _, hfalse, -⟩ := hclaims
    unfold RedisRoomLifecycle.isDeleted at hanswer
    split at hanswer
    · rw [Option.some.injEq] at hanswer
      rw [hanswer]
      exact Bool.eq_false_iff.mpr hfalse
    · cases hanswer
  · cases h

/-- **Every step is one of these changes.** -/
theorem clusterStep_change (h : clusterStep runtime config s a = some t) : ClusterChange s a t := by
  cases a with
  | connectClient replica =>
      cases h
      exact .replica rfl id
  | connectSubscriber replica =>
      cases h
      exact .replica rfl id
  | subscribe replica =>
      simp only [clusterStep, Cluster.subscribe] at h
      split at h <;> cases h
      exact .replica rfl fun _ => rfl
  | authenticate replica i request =>
      simp only [clusterStep, Cluster.authenticate] at h
      split at h
      · cases h
      · split at h
        · cases h
          exact .none
        · rename_i claims hclaims
          cases h
          refine .enter fun hdeleted => ?_
          have hfree := onAuthenticate_not_deleted hclaims
          exact Bool.false_ne_true (hfree.symm.trans hdeleted)
  | load i succeeds =>
      simp only [clusterStep, Cluster.load] at h
      split at h
      · rename_i replica room hbefore
        cases h
        cases succeeds with
        | false => exact .leave
        | true => exact .advance hbefore rfl SessionPhase.noConfusion
      · cases h
  | join i =>
      simp only [clusterStep, Cluster.join] at h
      split at h
      · rename_i replica room hbefore
        cases h
        exact .advance hbefore rfl SessionPhase.noConfusion
      · cases h
  | leave i =>
      cases h
      exact .leave
  | delete replica roomName =>
      cases h
      by_cases hconnected : (s.replicas replica).clientConnected = true
      · exact .delete rfl hconnected
      · rw [Cluster.delete, if_neg hconnected]
        exact .none
  | receive replica =>
      simp only [clusterStep, Cluster.receive] at h
      split at h
      · cases h
      · rename_i roomName rest hmessages
        cases h
        exact .receive hmessages
  | wait milliseconds =>
      cases h
      exact .wait

/-- **Tombstones**: only a delete sets one. -/
theorem step_deleted {roomName : JsString} (h : clusterStep runtime config s a = some t)
    (ht : t.Deleted roomName) :
    s.Deleted roomName ∨ ∃ replica, a = .delete replica roomName ∧
      (s.replicas replica).clientConnected = true := by
  cases clusterStep_change h with
  | none => exact Or.inl ht
  | replica => exact Or.inl ht
  | enter => exact Or.inl ht
  | advance => exact Or.inl ht
  | leave => exact Or.inl ht
  | @delete replica deleted ha hconnected =>
      by_cases hroom : roomName = deleted
      · subst hroom
        exact Or.inr ⟨replica, ha, hconnected⟩
      · have hkey : deletionKey roomName ≠ deletionKey deleted :=
          fun heq => hroom (deletionKey_injective heq)
        rw [Cluster.delete, if_pos hconnected] at ht
        exact Or.inl ((Redis.hasKey_set_of_ne hkey deletionTTL).symm.trans ht)
  | receive => exact Or.inl ht
  | wait =>
      obtain ⟨time, htime, halive⟩ := Redis.hasKey_iff.mp ht
      have hbefore : s.redis.now < time := Nat.lt_of_le_of_lt (Nat.le_add_right _ _) halive
      exact Or.inl (Redis.hasKey_iff.mpr ⟨time, htime, hbefore⟩)

/-- **Sessions**: a session is as it was, or it has moved on from a phase before it was open, or it
is new and its room has no tombstone. -/
theorem step_session {i : ℕ} {session : EditingSession}
    (h : clusterStep runtime config s a = some t) (ht : t.sessions i = some session) :
    s.sessions i = some session ∨
      (∃ before, s.sessions i = some before ∧ before.room = session.room ∧
        before.phase ≠ .opened) ∨
      ¬ s.Deleted session.room := by
  have hset : ∀ {j : ℕ} {value : Option EditingSession},
      (s.setSession j value).sessions i = some session →
        (i = j ∧ value = some session) ∨ s.sessions i = some session := by
    intro j value hi
    by_cases hij : i = j
    · subst hij
      rw [setSession_self] at hi
      exact Or.inl ⟨rfl, hi⟩
    · rw [setSession_of_ne hij] at hi
      exact Or.inr hi
  cases clusterStep_change h with
  | none => exact Or.inl ht
  | replica => exact Or.inl ht
  | enter hroom =>
      obtain ⟨-, hvalue⟩ | hsame := hset ht
      · cases hvalue
        exact Or.inr (Or.inr hroom)
      · exact Or.inl hsame
  | advance hbefore hroom hphase =>
      obtain ⟨rfl, hvalue⟩ | hsame := hset ht
      · cases hvalue
        exact Or.inr (Or.inl ⟨_, hbefore, hroom, hphase⟩)
      · exact Or.inl hsame
  | leave =>
      obtain ⟨-, hvalue⟩ | hsame := hset ht
      · cases hvalue
      · exact Or.inl hsame
  | delete ha hconnected =>
      rw [Cluster.delete, if_pos hconnected] at ht
      exact Or.inl ht
  | receive => exact Or.inl (Option.filter_eq_some_iff.mp ht).1
  | wait => exact Or.inl ht

/-- **Messages**: a replica stays subscribed, and a message stays until the replica handles it;
then no session of its room is open there. -/
theorem step_message {replica : ℕ} {roomName : JsString}
    (h : clusterStep runtime config s a = some t)
    (hsubscribed : (s.replicas replica).subscribed = true)
    (hmessage : roomName ∈ (s.replicas replica).messages) :
    (t.replicas replica).subscribed = true ∧ (roomName ∈ (t.replicas replica).messages ∨
      ∀ i session, t.sessions i = some session → session.replica = replica →
        session.room = roomName → session.phase ≠ .opened) := by
  cases clusterStep_change h with
  | none => exact ⟨hsubscribed, Or.inl hmessage⟩
  | @replica other lifecycle hmessages hstays =>
      by_cases hsame : replica = other
      · subst hsame
        rw [setReplica_self, hmessages]
        exact ⟨hstays hsubscribed, Or.inl hmessage⟩
      · rw [setReplica_of_ne hsame]
        exact ⟨hsubscribed, Or.inl hmessage⟩
  | enter => exact ⟨hsubscribed, Or.inl hmessage⟩
  | advance => exact ⟨hsubscribed, Or.inl hmessage⟩
  | leave => exact ⟨hsubscribed, Or.inl hmessage⟩
  | delete ha hconnected =>
      rw [Cluster.delete, if_pos hconnected]
      simp only [RedisRoomLifecycle.deliver, hsubscribed, if_true]
      exact ⟨trivial, Or.inl (List.mem_append_left _ hmessage)⟩
  | @receive other handled rest hmessages =>
      by_cases hsame : replica = other
      · subst hsame
        rw [hmessages] at hmessage
        simp only [setReplica_self]
        refine ⟨hsubscribed, ?_⟩
        obtain rfl | hrest := List.mem_cons.mp hmessage
        · -- the message handled is the room's: its open sessions here are closed
          refine Or.inr fun i session hi hreplica hroom hopened => ?_
          have hkept := (Option.filter_eq_some_iff.mp hi).2
          simp [hreplica, hroom, hopened] at hkept
        · exact Or.inl hrest
      · simp only [setReplica_of_ne hsame]
        exact ⟨hsubscribed, Or.inl hmessage⟩
  | wait => exact ⟨hsubscribed, Or.inl hmessage⟩

/-- **A delete** reaches every subscribed replica and leaves the sessions alone. -/
theorem delete_delivers {replica other : ℕ} {roomName : JsString}
    (hconnected : (s.replicas replica).clientConnected = true)
    (hsubscribed : (s.replicas other).subscribed = true) :
    ((s.delete replica roomName).replicas other).subscribed = true ∧
      roomName ∈ ((s.delete replica roomName).replicas other).messages := by
  unfold Cluster.delete
  rw [if_pos hconnected]
  simp only [RedisRoomLifecycle.deliver, hsubscribed, if_true]
  exact ⟨trivial, List.mem_append_right _ List.mem_cons_self⟩

theorem delete_sessions {replica : ℕ} {roomName : JsString} :
    (s.delete replica roomName).sessions = s.sessions := by
  unfold Cluster.delete
  split <;> rfl

/-- **One step.** -/
theorem consistent_step (hs : s.Consistent) (hclean : CleanDelete s a)
    (h : clusterStep runtime config s a = some t) : t.Consistent := by
  intro roomName hdeleted i session hi hroom
  obtain hbefore | ⟨replica, rfl, hconnected⟩ := step_deleted h hdeleted
  · have hclosing := hs roomName hbefore
    obtain hsame | ⟨before, hsome, hmoved, hphase⟩ | hfresh := step_session h hi
    · obtain ⟨hopened, hsubscribed, hmessage⟩ := hclosing i session hsame hroom
      obtain ⟨hstays, hpending | hclosed⟩ := step_message h hsubscribed hmessage
      · exact ⟨hopened, hstays, hpending⟩
      · exact absurd hopened (hclosed i session hi rfl hroom)
    · exact absurd (hclosing i before hsome (hmoved.trans hroom)).1 hphase
    · exact absurd (hroom ▸ hbefore) hfresh
  · cases h
    rw [delete_sessions] at hi
    obtain ⟨hopened, hsubscribed⟩ := hclean replica roomName rfl hconnected i session hi hroom
    exact ⟨hopened, delete_delivers hconnected hsubscribed⟩

/-- A deleted room without sessions gets none. -/
theorem empty_step {roomName : JsString}
    (hempty : ∀ i session, s.sessions i = some session → session.room ≠ roomName)
    (hdeleted : s.Deleted roomName) (h : clusterStep runtime config s a = some t) :
    ∀ i session, t.sessions i = some session → session.room ≠ roomName := by
  intro i session hi hroom
  obtain hsame | ⟨before, hsome, hmoved, -⟩ | hfresh := step_session h hi
  · exact hempty i session hsame hroom
  · exact hempty i before hsome (hmoved.trans hroom)
  · exact hfresh (hroom ▸ hdeleted)

end Steps

theorem consistent_initial (now : ℕ) : (Cluster.initial now).Consistent := by
  intro roomName _ i session hi
  cases hi

/-- In a consistent state, a deleted room whose message was handled everywhere has no sessions. -/
theorem empty_of_processed {s : Cluster} {roomName : JsString} (hs : s.Consistent)
    (hdeleted : s.Deleted roomName) (hprocessed : s.Processed roomName) :
    ∀ i session, s.sessions i = some session → session.room ≠ roomName := by
  intro i session hi hroom
  obtain ⟨-, hsubscribed, hmessage⟩ := hs roomName hdeleted i session hi hroom
  exact hprocessed session.replica hsubscribed hmessage

/-- While the tombstone lives, a room without sessions stays closed. -/
theorem closed_while_deleted {runtime : Runtime} {config : AuthenticationConfig} {s : Cluster}
    {roomName : JsString} {as : List ClusterAction}
    (hempty : ∀ i session, s.sessions i = some session → session.room ≠ roomName)
    (hdeleted : Runs.Throughout (clusterStep runtime config) (·.Deleted roomName) s as) :
    Runs.Throughout (clusterStep runtime config) (·.Closed roomName) s as := by
  have hclosed : ∀ u : Cluster, (∀ i session, u.sessions i = some session →
      session.room ≠ roomName) → u.Closed roomName :=
    fun u hu i session hi hroom => absurd hroom (hu i session hi)
  induction as generalizing s with
  | nil => exact hclosed s hempty
  | cons a as ih =>
      refine ⟨hclosed s hempty, fun t ht => ?_⟩
      exact ih (empty_step hempty hdeleted.head ht) (hdeleted.2 t ht)

/-- **Deleted rooms.**  In every run whose deletes are clean: once the tombstone of a room is alive
and every subscribed replica has handled the deletion, no session is open in the room on any
replica, nor becomes open while the tombstone lives. -/
theorem deleted_room_stays_closed (runtime : Runtime) (config : AuthenticationConfig) {now : ℕ}
    {as bs : List ClusterAction} {s : Cluster} {roomName : JsString}
    (hclean : Runs.Meets (clusterStep runtime config) CleanDelete (Cluster.initial now) as)
    (hrun : Runs.run (clusterStep runtime config) (Cluster.initial now) as = some s)
    (hprocessed : s.Processed roomName)
    (hdeleted : Runs.Throughout (clusterStep runtime config) (·.Deleted roomName) s bs) :
    Runs.Throughout (clusterStep runtime config) (·.Closed roomName) s bs := by
  have hconsistent : s.Consistent :=
    Runs.invariant_meets (clusterStep runtime config)
      (fun _ _ _ hs hok h => consistent_step hs hok h) (consistent_initial now) hclean hrun
  exact closed_while_deleted (empty_of_processed hconsistent hdeleted.head hprocessed) hdeleted

/-! ### A session that joins late -/

/-- The name of the sample room. -/
def sampleRoomName : JsString := documentRoomName sampleRoom

def sampleStep : Cluster → ClusterAction → Option Cluster :=
  clusterStep sampleRuntime ⟨none, none⟩

def startReplica : List ClusterAction := [.connectClient 0, .connectSubscriber 0, .subscribe 0]

/-- Replica 0 has started. -/
def startedCluster : Cluster :=
  (((Cluster.initial 1700000000000).setReplica 0 ⟨true, false, false, []⟩).setReplica 0
    ⟨true, true, false, []⟩).setReplica 0 ⟨true, true, true, []⟩

theorem startReplica_run :
    Runs.run sampleStep (Cluster.initial 1700000000000) startReplica = some startedCluster := rfl

/-- The sample session passes its check. -/
theorem authenticate_sample :
    sampleStep startedCluster (.authenticate 0 1 sampleRequest) =
      some (startedCluster.setSession 1 (some ⟨0, sampleRoomName, .authenticated⟩)) := by
  obtain ⟨claims, hclaims⟩ := sampleRequest_accepted
  have hanswer : (startedCluster.replicas 0).isDeleted startedCluster.redis
      sampleRequest.documentName = some false := rfl
  have hnow : ((startedCluster.redis.now : ℕ) : ℤ) = 1700000000000 := rfl
  have hnew : startedCluster.sessions 1 = none := rfl
  simp only [sampleStep, clusterStep, Cluster.authenticate, hanswer, hnow, hclaims, hnew]
  rfl

/-- The check passes, the room is deleted, the deletion is handled, and the session joins. -/
def lateJoin : List ClusterAction :=
  startReplica ++ .authenticate 0 1 sampleRequest ::
    [.delete 0 sampleRoomName, .receive 0, .load 1 true, .join 1]

/-- The session joins first. -/
def earlyJoin : List ClusterAction :=
  startReplica ++ .authenticate 0 1 sampleRequest ::
    [.load 1 true, .join 1, .delete 0 sampleRoomName, .receive 0]

theorem run_sample (rest : List ClusterAction) :
    Runs.run sampleStep (Cluster.initial 1700000000000)
        (startReplica ++ .authenticate 0 1 sampleRequest :: rest) =
      Runs.run sampleStep
        (startedCluster.setSession 1 (some ⟨0, sampleRoomName, .authenticated⟩)) rest := by
  rw [Runs.run_append, startReplica_run, Option.bind_some, Runs.run_cons, authenticate_sample,
    Option.bind_some]

theorem startedCluster_other {replica : ℕ} (h : replica ≠ 0) :
    startedCluster.replicas replica = .new := by
  rw [startedCluster, setReplica_of_ne h, setReplica_of_ne h, setReplica_of_ne h]
  rfl

/-- The state of the replicas after the deletion was handled. -/
theorem processed_sample {t : Cluster} (h : t.replicas = Function.update (fun other =>
    (startedCluster.replicas other).deliver sampleRoomName) 0 ⟨true, true, true, []⟩) :
    t.Processed sampleRoomName := by
  intro replica hsubscribed hmessage
  rw [h] at hsubscribed hmessage
  by_cases hreplica : replica = 0
  · subst hreplica
    rw [Function.update_self] at hmessage
    cases hmessage
  · rw [Function.update_of_ne hreplica, startedCluster_other hreplica] at hsubscribed
    cases hsubscribed

/-- The session of the early join has joined when the room is deleted. -/
def joinedCluster : Cluster :=
  ((startedCluster.setSession 1 (some ⟨0, sampleRoomName, .authenticated⟩)).setSession 1
    (some ⟨0, sampleRoomName, .loaded⟩)).setSession 1 (some ⟨0, sampleRoomName, .opened⟩)

theorem earlyJoin_run : Runs.run sampleStep (Cluster.initial 1700000000000)
    (startReplica ++ .authenticate 0 1 sampleRequest :: [.load 1 true, .join 1]) =
      some joinedCluster :=
  (run_sample _).trans rfl

theorem earlyJoin_clean :
    Runs.Meets sampleStep CleanDelete (Cluster.initial 1700000000000) earlyJoin := by
  have hother : ∀ {as : List ClusterAction}, (∀ a ∈ as, ∀ r name, a ≠ .delete r name) →
      ∀ s, Runs.Meets sampleStep CleanDelete s as :=
    fun has s => Runs.meets_of_each _ (fun a ha s r name h => absurd h (has a ha r name)) s
  have hsplit : earlyJoin = (startReplica ++ .authenticate 0 1 sampleRequest ::
      [.load 1 true, .join 1]) ++ [.delete 0 sampleRoomName, .receive 0] := rfl
  rw [hsplit]
  refine Runs.meets_append _ (hother (by simp [startReplica]) _) fun s hs => ⟨?_, fun t _ =>
    hother (by simp) t⟩
  rw [earlyJoin_run] at hs
  cases hs
  intro replica name heq _ i session hi hroom
  by_cases hone : i = 1
  · subst hone
    cases hi
    exact ⟨rfl, rfl⟩
  · rw [joinedCluster, setSession_of_ne hone, setSession_of_ne hone, setSession_of_ne hone] at hi
    cases hi

theorem deleted_room_stays_closed_sample :
    ∃ s, Runs.run sampleStep (Cluster.initial 1700000000000) earlyJoin = some s ∧
      Runs.Throughout sampleStep (·.Closed sampleRoomName) s [.wait 1000] := by
  refine ⟨_, (run_sample _).trans rfl, ?_⟩
  refine deleted_room_stays_closed sampleRuntime ⟨none, none⟩ earlyJoin_clean
    ((run_sample _).trans rfl) (processed_sample rfl) ⟨Redis.hasKey_set_self (by decide), ?_⟩
  intro t ht
  cases ht
  have hlater : Redis.hasKey { startedCluster.redis.set (deletionKey sampleRoomName) deletionTTL with
      now := startedCluster.redis.now + 1000 } (deletionKey sampleRoomName) = true :=
    Redis.hasKey_set_later 1000 (by decide)
  exact hlater

/-- **A session in a deleted room.** -/
theorem late_join_stays_open :
    ∃ t, Runs.run sampleStep (Cluster.initial 1700000000000) lateJoin = some t ∧
      t.Deleted sampleRoomName ∧ t.Processed sampleRoomName ∧ ¬ t.Closed sampleRoomName := by
  refine ⟨_, (run_sample _).trans rfl, Redis.hasKey_set_self (by decide), processed_sample rfl, ?_⟩
  intro hclosed
  exact hclosed 1 ⟨0, sampleRoomName, .opened⟩ rfl rfl rfl

end SocketServer.Collaboration

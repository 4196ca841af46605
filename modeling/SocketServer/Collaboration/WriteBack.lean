import SocketServer.Collaboration.DeletedRooms
import SocketServer.Collaboration.Documents

/-!
# Storing a document that is being deleted

`onStoreDocument` (`collaboration/src/server.ts`) asks the room lifecycle whether the room is deleted
and, if it is not, encodes the document and sends a PUT to core-api.  Redis evaluates `EXISTS` first,
the reply arrives later, and the PUT is issued after that; a delete on any replica can come between.

The states extend those of `Cluster` by the documents in the replicas' memory and the runs of the
hook; a PUT is recorded with whether the room's tombstone was alive when it was issued.

* `clean_step`: a room with a run between its check and its PUT gets a tombstone only by a delete;
* `no_write_back`: without deletes that meet such a run, no PUT is issued for a deleted room;
* `write_back_of_delete`: a delete that does meet one leads to such a PUT.
-/

namespace SocketServer.Collaboration

open SocketServer.Text SocketServer.Js SocketServer.Checks

variable {D : Type}

/-- What the hooks of one server are made of. -/
structure StoreServices (D : Type) where
  runtime : Runtime
  authentication : AuthenticationConfig
  yjs : Yjs D
  tiptap : Tiptap D
  storage : Option CoreAPIStorage
  maxDocumentBytes : ℕ

/-- A document in the memory of a replica. -/
structure LiveDocument (D : Type) where
  replica : ℕ
  name : JsString
  content : D

inductive StorePhase where
  /-- Redis has evaluated `EXISTS`; `none` is a rejected command. -/
  | answered (deleted : Option Bool)
  /-- The reply has arrived and the room was not deleted. -/
  | proceeding
  deriving DecidableEq

/-- A run of `onStoreDocument`, with the claims of `lastContext`. -/
structure StoreRun where
  document : ℕ
  claims : DocumentTicketClaims
  phase : StorePhase

def StoreRun.room (run : StoreRun) : JsString := documentRoomName run.claims.room

/-- The run will issue its PUT, as far as the check goes. -/
def StoreRun.passed (run : StoreRun) : Bool :=
  run.phase = .answered (some false) || run.phase = .proceeding

/-- A PUT, with whether the tombstone of its room was alive when it was issued. -/
structure IssuedPut where
  room : JsString
  request : Request
  tombstone : Bool

structure StoreState (D : Type) where
  cluster : Cluster
  documents : ℕ → Option (LiveDocument D)
  stores : ℕ → Option StoreRun
  puts : List IssuedPut

def StoreState.initial (now : ℕ) : StoreState D := ⟨.initial now, fun _ => none, fun _ => none, []⟩

inductive StoreAction (D : Type) where
  | cluster (a : ClusterAction)
  | load (i : ℕ) (document : LiveDocument D)
  | update (i : ℕ) (update : Bytes)
  | check (k i : ℕ) (claims : DocumentTicketClaims)
  | reply (k : ℕ)
  | put (k : ℕ)

def StoreState.setStore (s : StoreState D) (k : ℕ) (run : Option StoreRun) : StoreState D :=
  { s with stores := Function.update s.stores k run }

@[simp] theorem setStore_self (s : StoreState D) (k : ℕ) (run : Option StoreRun) :
    (s.setStore k run).stores k = run :=
  Function.update_self _ _ _

theorem setStore_of_ne {j k : ℕ} (h : j ≠ k) (s : StoreState D) (run : Option StoreRun) :
    (s.setStore k run).stores j = s.stores j :=
  Function.update_of_ne h _ _

/-- The delete of a room on a replica. -/
def StoreState.delete (s : StoreState D) (replica : ℕ) (roomName : JsString) : StoreState D :=
  { s with cluster := s.cluster.delete replica roomName }

/-- An update of a document. -/
def StoreState.update (services : StoreServices D) (s : StoreState D) (i : ℕ) (update : Bytes) :
    Option (StoreState D) :=
  match s.documents i with
  | none => none
  | some document =>
      some { s with
        documents := Function.update s.documents i
          (some { document with content := services.yjs.applyUpdate document.content update }) }

/-- `onStoreDocument` up to the evaluation of `EXISTS`.  The sessions of a document were admitted to
its room, so the claims of `lastContext` name it. -/
def StoreState.check (s : StoreState D) (k i : ℕ) (claims : DocumentTicketClaims) :
    Option (StoreState D) :=
  match s.stores k, s.documents i with
  | none, some document =>
      if documentRoomName claims.room = document.name then
        some (s.setStore k (some ⟨i, claims, .answered
          ((s.cluster.replicas document.replica).isDeleted s.cluster.redis document.name)⟩))
      else none
  | _, _ => none

/-- The reply of `isDeleted` arrives: the hook goes on, returns, or fails. -/
def StoreState.reply (s : StoreState D) (k : ℕ) : Option (StoreState D) :=
  match s.stores k with
  | some ⟨i, claims, .answered (some false)⟩ => some (s.setStore k (some ⟨i, claims, .proceeding⟩))
  | some ⟨_, _, .answered _⟩ => some (s.setStore k none)
  | _ => none

/-- `storeDocumentState` up to its `fetch`; without a store, or when a check fails, nothing is
sent. -/
def StoreState.put (services : StoreServices D) (s : StoreState D) (k : ℕ) : Option (StoreState D) :=
  match s.stores k with
  | some ⟨i, claims, .proceeding⟩ =>
      match services.storage, s.documents i with
      | some storage, some document =>
          match storeDocumentRequest services.runtime services.yjs services.tiptap storage claims
              document.content services.maxDocumentBytes with
          | .ok request =>
              some { s.setStore k none with
                puts := s.puts ++ [⟨documentRoomName claims.room, request,
                  s.cluster.redis.hasKey (deletionKey (documentRoomName claims.room))⟩] }
          | .error _ => some (s.setStore k none)
      | _, _ => some (s.setStore k none)
  | _ => none

def storeStep (services : StoreServices D) (s : StoreState D) :
    StoreAction D → Option (StoreState D)
  | .cluster a =>
      (clusterStep services.runtime services.authentication s.cluster a).map fun cluster =>
        { s with cluster }
  | .load i document => some { s with documents := Function.update s.documents i (some document) }
  | .update i update => s.update services i update
  | .check k i claims => s.check k i claims
  | .reply k => s.reply k
  | .put k => s.put services k

/-! ### Runs without overtaking deletes -/

/-- A delete that takes effect finds no run of its room between the check and the PUT. -/
def QuietDelete (s : StoreState D) (a : StoreAction D) : Prop :=
  ∀ replica roomName, a = .cluster (.delete replica roomName) →
    (s.cluster.replicas replica).clientConnected = true →
      ∀ k run, s.stores k = some run → run.room = roomName → run.passed = false

/-- A room with a run past its check has no tombstone, and no PUT was issued under one. -/
structure StoreState.Clean (s : StoreState D) : Prop where
  passed : ∀ k run, s.stores k = some run → run.passed = true → ¬ s.cluster.Deleted run.room
  puts : ∀ p ∈ s.puts, p.tombstone = false

theorem clean_initial (now : ℕ) : (StoreState.initial now : StoreState D).Clean where
  passed _ _ h := nomatch h
  puts _ h := absurd h List.not_mem_nil

section Steps

variable {services : StoreServices D} {s t : StoreState D}

/-- Replacing one run: the others are as they were. -/
theorem passed_setStore {k : ℕ} {new : Option StoreRun}
    (h : ∀ k run, s.stores k = some run → run.passed = true → ¬ s.cluster.Deleted run.room)
    (hnew : ∀ run, new = some run → run.passed = true → ¬ s.cluster.Deleted run.room) :
    ∀ j run, (s.setStore k new).stores j = some run → run.passed = true →
      ¬ s.cluster.Deleted run.room := by
  intro j run hj
  by_cases hjk : j = k
  · subst hjk
    rw [setStore_self] at hj
    exact hnew run hj
  · rw [setStore_of_ne hjk] at hj
    exact h j run hj

/-- A step of the cluster: the tombstone of a run's room is not set by a quiet delete. -/
theorem clean_cluster (hs : s.Clean) {a : ClusterAction} (hquiet : QuietDelete s (.cluster a))
    {cluster : Cluster}
    (h : clusterStep services.runtime services.authentication s.cluster a = some cluster) :
    StoreState.Clean { s with cluster } where
  passed k run hk hpassed hdeleted := by
    obtain hbefore | ⟨replica, rfl, hconnected⟩ := step_deleted h hdeleted
    · exact hs.passed k run hk hpassed hbefore
    · exact Bool.false_ne_true
        ((hquiet replica run.room rfl hconnected k run hk rfl).symm.trans hpassed)
  puts := hs.puts

/-- The check: a run that passes it passes it because there is no tombstone. -/
theorem clean_check (hs : s.Clean) {k i : ℕ} {claims : DocumentTicketClaims}
    (h : s.check k i claims = some t) : t.Clean := by
  unfold StoreState.check at h
  split at h
  · rename_i document hstore hdocument
    split at h
    · rename_i hname
      cases h
      refine ⟨passed_setStore hs.passed ?_, hs.puts⟩
      rintro run hrun hpassed hdeleted
      cases hrun
      have hanswer : (s.cluster.replicas document.replica).isDeleted s.cluster.redis document.name
          = some false := by simpa [StoreRun.passed] using hpassed
      unfold RedisRoomLifecycle.isDeleted at hanswer
      split at hanswer
      · rw [Option.some.injEq] at hanswer
        have hkey : s.cluster.redis.hasKey (deletionKey document.name) = true := by
          rw [← hname]
          exact hdeleted
        exact Bool.false_ne_true (hanswer.symm.trans hkey)
      · cases hanswer
    · cases h
  · cases h

theorem clean_reply (hs : s.Clean) {k : ℕ} (h : s.reply k = some t) : t.Clean := by
  unfold StoreState.reply at h
  split at h
  · rename_i i claims hstore
    cases h
    refine ⟨passed_setStore hs.passed ?_, hs.puts⟩
    rintro run hrun -
    cases hrun
    have hroom := hs.passed k _ hstore rfl
    exact hroom
  · cases h
    exact ⟨passed_setStore hs.passed nofun, hs.puts⟩
  · cases h

/-- What the step of the PUT does: the run is over, and a request was sent or was not. -/
theorem put_eq_some {k : ℕ} (h : s.put services k = some t) :
    ∃ i claims, s.stores k = some ⟨i, claims, .proceeding⟩ ∧
      (t = s.setStore k none ∨ ∃ request, t = { s.setStore k none with
        puts := s.puts ++ [⟨documentRoomName claims.room, request,
          s.cluster.redis.hasKey (deletionKey (documentRoomName claims.room))⟩] }) := by
  unfold StoreState.put at h
  split at h
  · rename_i i claims hstore
    refine ⟨i, claims, hstore, ?_⟩
    split at h
    · split at h
      · rename_i request _
        exact Or.inr ⟨request, (Option.some.inj h).symm⟩
      · exact Or.inl (Option.some.inj h).symm
    · exact Or.inl (Option.some.inj h).symm
  · cases h

/-- The PUT: the run has passed its check, so there is no tombstone. -/
theorem clean_put (hs : s.Clean) {k : ℕ} (h : s.put services k = some t) : t.Clean := by
  have hended : (s.setStore k none).Clean := ⟨passed_setStore hs.passed nofun, hs.puts⟩
  obtain ⟨i, claims, hstore, rfl | ⟨request, rfl⟩⟩ := put_eq_some h
  · exact hended
  · have hlive := hs.passed k ⟨i, claims, .proceeding⟩ hstore rfl
    refine ⟨hended.passed, fun p hp => ?_⟩
    obtain hold | hnew := List.mem_append.mp hp
    · exact hs.puts p hold
    · rw [List.mem_singleton.mp hnew]
      exact Bool.eq_false_iff.mpr hlive

/-- **One step.** -/
theorem clean_step {a : StoreAction D} (hs : s.Clean) (hquiet : QuietDelete s a)
    (h : storeStep services s a = some t) : t.Clean := by
  cases a with
  | cluster a =>
      obtain ⟨cluster, hcluster, rfl⟩ := Option.map_eq_some_iff.mp h
      exact clean_cluster hs hquiet hcluster
  | load i document =>
      cases h
      exact ⟨hs.passed, hs.puts⟩
  | update i update =>
      simp only [storeStep, StoreState.update] at h
      split at h
      · cases h
      · cases h
        exact ⟨hs.passed, hs.puts⟩
  | check k i claims => exact clean_check hs h
  | reply k => exact clean_reply hs h
  | put k => exact clean_put hs h

/-- Whatever comes of it, a PUT ends the run. -/
theorem put_stores {k : ℕ} (h : storeStep services s (.put k) = some t) :
    t.stores = (s.setStore k none).stores := by
  obtain ⟨i, claims, -, rfl | ⟨request, rfl⟩⟩ := put_eq_some h
  · rfl
  · rfl

/-- The PUT of a run that goes on, when the document passes the checks of the store. -/
theorem put_of_request {k i : ℕ} {claims : DocumentTicketClaims} {document : LiveDocument D}
    {storage : CoreAPIStorage} {request : Request}
    (hstore : s.stores k = some ⟨i, claims, .proceeding⟩)
    (hdocument : s.documents i = some document) (hstorage : services.storage = some storage)
    (hrequest : storeDocumentRequest services.runtime services.yjs services.tiptap storage
      claims document.content services.maxDocumentBytes = .ok request) :
    storeStep services s (.put k) = some { s.setStore k none with
      puts := s.puts ++ [⟨documentRoomName claims.room, request,
        s.cluster.redis.hasKey (deletionKey (documentRoomName claims.room))⟩] } := by
  simp only [storeStep, StoreState.put, hstore, hstorage, hdocument, hrequest]

/-- **A delete between the check and the PUT.**  When a run has passed its check and its document is
within the limits, a delete of its room, the reply and the PUT can follow, and the PUT is issued
under the tombstone. -/
theorem write_back_of_delete {k replica : ℕ} {run : StoreRun} {document : LiveDocument D}
    {storage : CoreAPIStorage} {request : Request}
    (hstore : s.stores k = some run) (hphase : run.phase = .answered (some false))
    (hdocument : s.documents run.document = some document)
    (hstorage : services.storage = some storage)
    (hrequest : storeDocumentRequest services.runtime services.yjs services.tiptap storage
      run.claims document.content services.maxDocumentBytes = .ok request)
    (hconnected : (s.cluster.replicas replica).clientConnected = true) :
    ∃ t, Runs.run (storeStep services) s
        [.cluster (.delete replica run.room), .reply k, .put k] = some t ∧
      t.puts = s.puts ++ [⟨run.room, request, true⟩] := by
  obtain ⟨i, claims, phase⟩ := run
  cases hphase
  have hreply : storeStep services (s.delete replica (documentRoomName claims.room)) (.reply k) =
      some ((s.delete replica (documentRoomName claims.room)).setStore k
        (some ⟨i, claims, .proceeding⟩)) := by
    simp only [storeStep, StoreState.reply, StoreState.delete, hstore]
  have hput := put_of_request (setStore_self (s.delete replica (documentRoomName claims.room)) k
    (some ⟨i, claims, .proceeding⟩)) hdocument hstorage hrequest
  have hkey : (s.delete replica (documentRoomName claims.room)).cluster.redis.hasKey
      (deletionKey (documentRoomName claims.room)) = true := by
    rw [StoreState.delete, Cluster.delete, if_pos hconnected]
    exact Redis.hasKey_set_self deletionTTL_pos
  refine ⟨_, (Runs.run_cons_eq_some _).mpr ⟨_, rfl, (Runs.run_cons_eq_some _).mpr
    ⟨_, hreply, (Runs.run_cons_eq_some _).mpr ⟨_, hput, rfl⟩⟩⟩, ?_⟩
  exact congrArg (fun tombstone => s.puts ++ [⟨documentRoomName claims.room, request, tombstone⟩])
    hkey

end Steps

/-- **No write-back without an overtaking delete.**  In every run in which no delete meets a run of
`onStoreDocument` of its room between the check and the PUT, every PUT was issued at a moment when
its room had no live tombstone. -/
theorem no_write_back (services : StoreServices D) {now : ℕ} {as : List (StoreAction D)}
    (hquiet : Runs.Meets (storeStep services) QuietDelete (StoreState.initial now) as) :
    Runs.Throughout (storeStep services) (fun s => ∀ p ∈ s.puts, p.tombstone = false)
      (StoreState.initial now) as :=
  Runs.throughout_of_meets (storeStep services) (fun _ hs => hs.puts)
    (fun _ _ _ hs hok h => clean_step hs hok h) (clean_initial now) hquiet

/-! ### An empty document -/

/-- Yjs on a document without items. -/
def blankYjs : Yjs Unit where
  encodeStateAsUpdate _ := [0, 0]
  applyUpdate document _ := document

/-- Tiptap on a document without items. -/
def blankTiptap : Tiptap Unit where
  toYdoc _ _ _ := ()
  fromYdoc _ _ := some emptyDocument
  generateJSON _ := emptyDocument
  generateText _ := []
  generateHTML _ := []

def sampleStorage : CoreAPIStorage where
  baseURL := js "http://127.0.0.1:8080"
  maxDocumentBytes := 1000
  maxResponseBytes := 2000
  requestTimeout := 2000
  serviceSecret := defaultCollaborationServiceSecret

def sampleServices : StoreServices Unit where
  runtime := sampleRuntime
  authentication := ⟨none, none⟩
  yjs := blankYjs
  tiptap := blankTiptap
  storage := some sampleStorage
  maxDocumentBytes := 1000

theorem sample_request : ∃ request, storeDocumentRequest sampleRuntime blankYjs blankTiptap
    sampleStorage sampleClaims () 1000 = .ok request := by
  have hrun : (storeDocumentRequest sampleRuntime blankYjs blankTiptap sampleStorage sampleClaims
      () 1000).isOk = true := by decide +kernel
  exact isOk_iff.mp hrun

/-- A replica has connected, the sample room's document is in its memory, and a run of the hook has
made its check. -/
def checkedState : StoreState Unit where
  cluster := (Cluster.initial 1700000000000).setReplica 0 ⟨true, false, false, []⟩
  documents := Function.update (fun _ => none) 0 (some ⟨0, sampleRoomName, ()⟩)
  stores := Function.update (fun _ => none) 0 (some ⟨0, sampleClaims, .answered (some false)⟩)
  puts := []

def startCheck : List (StoreAction Unit) :=
  [.cluster (.connectClient 0), .load 0 ⟨0, sampleRoomName, ()⟩, .check 0 0 sampleClaims]

theorem startCheck_run :
    Runs.run (storeStep sampleServices) (.initial 1700000000000) startCheck = some checkedState := by
  rfl

/-- **A PUT under a tombstone**: the check, the delete, the reply, the PUT. -/
theorem write_back_happens :
    ∃ t, Runs.run (storeStep sampleServices) (.initial 1700000000000)
        (startCheck ++ [.cluster (.delete 0 sampleRoomName), .reply 0, .put 0]) = some t ∧
      ∃ p ∈ t.puts, p.room = sampleRoomName ∧ p.tombstone = true := by
  obtain ⟨request, hrequest⟩ := sample_request
  have hstore : checkedState.stores 0 = some ⟨0, sampleClaims, .answered (some false)⟩ := rfl
  have hdocument : checkedState.documents 0 = some ⟨0, sampleRoomName, ()⟩ := rfl
  have hstorage : sampleServices.storage = some sampleStorage := rfl
  have hconnected : (checkedState.cluster.replicas 0).clientConnected = true := rfl
  obtain ⟨t, ht, hputs⟩ :=
    write_back_of_delete hstore rfl hdocument hstorage hrequest hconnected
  refine ⟨t, ?_, ⟨sampleRoomName, request, true⟩, ?_, rfl, rfl⟩
  · rw [Runs.run_append, startCheck_run]
    exact ht
  · rw [hputs]
    exact List.mem_append_right _ (List.mem_singleton_self _)

/-- The same steps with the delete at the end. -/
def lateDelete : List (StoreAction Unit) :=
  startCheck ++ [.reply 0, .put 0, .cluster (.delete 0 sampleRoomName)]

theorem lateDelete_quiet :
    Runs.Meets (storeStep sampleServices) QuietDelete (.initial 1700000000000) lateDelete := by
  have hearly : ∀ a ∈ startCheck ++ [.reply 0, .put 0], ∀ s, QuietDelete s a := by
    intro a ha s replica name heq
    subst heq
    simp [startCheck] at ha
  have hlate : lateDelete =
      (startCheck ++ [.reply 0, .put 0]) ++ [.cluster (.delete 0 sampleRoomName)] := rfl
  rw [hlate]
  refine Runs.meets_append _ (Runs.meets_of_each _ hearly _) fun s hs => ⟨?_, fun _ _ => trivial⟩
  intro replica name _ _ j run hj _
  rw [Runs.run_append, startCheck_run, Option.bind_some] at hs
  obtain ⟨t, ht, hput⟩ := (Runs.run_cons_eq_some _).mp hs
  cases ht
  obtain ⟨u, hu, hend⟩ := (Runs.run_cons_eq_some _).mp hput
  cases hend
  have hnone : s.stores j = none := by
    rw [put_stores hu]
    by_cases hzero : j = 0
    · subst hzero
      rw [setStore_self]
    · have hother : checkedState.stores j = none := by
        rw [checkedState]
        show Function.update (fun _ => none : ℕ → Option StoreRun) 0 _ j = none
        rw [Function.update_of_ne hzero]
      rw [setStore_of_ne hzero]
      exact (Function.update_of_ne hzero _ _).trans hother
  rw [hnone] at hj
  cases hj

theorem no_write_back_sample :
    ∃ t, Runs.run (storeStep sampleServices) (.initial 1700000000000) lateDelete = some t ∧
      t.cluster.Deleted sampleRoomName ∧
      Runs.Throughout (storeStep sampleServices) (fun s => ∀ p ∈ s.puts, p.tombstone = false)
        (.initial 1700000000000) lateDelete := by
  obtain ⟨request, hrequest⟩ := sample_request
  have hput := put_of_request (setStore_self checkedState 0 (some ⟨0, sampleClaims, .proceeding⟩))
    (show checkedState.documents 0 = some ⟨0, sampleRoomName, ()⟩ from rfl)
    (show sampleServices.storage = some sampleStorage from rfl) hrequest
  have hrest : ∃ t, Runs.run (storeStep sampleServices) checkedState
      [.reply 0, .put 0, .cluster (.delete 0 sampleRoomName)] = some t ∧
        t.cluster.Deleted sampleRoomName :=
    ⟨_, (Runs.run_cons_eq_some _).mpr ⟨_, rfl, (Runs.run_cons_eq_some _).mpr ⟨_, hput, rfl⟩⟩,
      Redis.hasKey_set_self deletionTTL_pos⟩
  obtain ⟨t, ht, hdeleted⟩ := hrest
  refine ⟨t, ?_, hdeleted, no_write_back sampleServices lateDelete_quiet⟩
  rw [lateDelete, Runs.run_append, startCheck_run]
  exact ht

end SocketServer.Collaboration

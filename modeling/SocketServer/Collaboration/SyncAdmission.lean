import SocketServer.Collaboration.ResourceLimits
import SocketServer.Library.Runs

/-!
# Admitting sync messages to a live room

A mutating sync message is processed in two steps: the `beforeSync` hook checks it against the
document (`enforceSyncLimit`), and later Hocuspocus applies its payload.  The steps of one session
keep their order, those of different sessions interleave in any order.

A check sees the document without the payloads that were admitted before and are not applied yet.
`within_limit_of_still_fits` says when the document stays within its limit throughout a run: when
every payload still fits at the moment it is applied.  It rests on the assumption that the updates
applied in the run add at most their own length to the encoding.
-/

namespace SocketServer.Collaboration

open SocketServer.Text SocketServer.Checks

variable {D : Type*}

/-- A room: its document, and the payloads that passed their check and wait to be applied. -/
structure RoomState (D : Type*) where
  document : D
  admitted : List (ℕ × Bytes)

inductive SyncAction where
  | check (session : ℕ) (type : ℕ) (payload : Bytes)
  | apply (session : ℕ)
  deriving DecidableEq, Repr

/-- `beforeSync` for a message of a session that has none under way.  A message that is refused is
dropped. -/
def RoomState.check (yjs : Yjs D) (maxBytes : ℕ) (s : RoomState D) (session type : ℕ)
    (payload : Bytes) : Option (RoomState D) :=
  if session ∈ s.admitted.map (·.1) then none
  else match enforceSyncLimit yjs s.document payload type maxBytes with
    | .error _ => some s
    | .ok () =>
        if isMutating type then some { s with admitted := s.admitted ++ [(session, payload)] }
        else some s

/-- The application of the payload that a session has under way. -/
def RoomState.apply (yjs : Yjs D) (s : RoomState D) (session : ℕ) : Option (RoomState D) :=
  (s.admitted.find? (·.1 = session)).map fun message =>
    { document := yjs.applyUpdate s.document message.2
      admitted := s.admitted.filter (·.1 ≠ session) }

def syncStep (yjs : Yjs D) (maxBytes : ℕ) (s : RoomState D) : SyncAction → Option (RoomState D)
  | .check session type payload => s.check yjs maxBytes session type payload
  | .apply session => s.apply yjs session

/-- A room whose document was just loaded. -/
def RoomState.loaded (document : D) : RoomState D := { document, admitted := [] }

/-- The encoded document is within the limit, so storing it passes `enforceDocumentLimit`. -/
def RoomState.WithinLimit (yjs : Yjs D) (maxBytes : ℕ) (s : RoomState D) : Prop :=
  yjs.encodedLength s.document ≤ maxBytes ∧
    enforceDocumentLimit yjs (.inl s.document) maxBytes = .ok ()

/-- The payload about to be applied still fits beside the document. -/
def StillFits (yjs : Yjs D) (maxBytes : ℕ) (s : RoomState D) (a : SyncAction) : Prop :=
  ∀ session message, a = .apply session → s.admitted.find? (·.1 = session) = some message →
    yjs.encodedLength s.document + message.2.length ≤ maxBytes

/-- The update about to be applied adds at most its own length to the encoding. -/
def AddsAtMost (yjs : Yjs D) (s : RoomState D) (a : SyncAction) : Prop :=
  ∀ session message, a = .apply session → s.admitted.find? (·.1 = session) = some message →
    yjs.encodedLength (yjs.applyUpdate s.document message.2)
      ≤ yjs.encodedLength s.document + message.2.length

theorem withinLimit_iff {yjs : Yjs D} {maxBytes : ℕ} {s : RoomState D} :
    s.WithinLimit yjs maxBytes ↔ yjs.encodedLength s.document ≤ maxBytes := by
  rw [RoomState.WithinLimit, enforceDocumentLimit_doc, and_self]

section Steps

variable {yjs : Yjs D} {maxBytes : ℕ} {s t : RoomState D}

/-- A check leaves the document alone. -/
theorem check_document {session type : ℕ} {payload : Bytes}
    (h : s.check yjs maxBytes session type payload = some t) : t.document = s.document := by
  unfold RoomState.check at h
  split at h
  · cases h
  · split at h
    · cases h
      rfl
    · split at h <;> cases h <;> rfl

theorem apply_eq_some {session : ℕ} (h : s.apply yjs session = some t) :
    ∃ message, s.admitted.find? (·.1 = session) = some message ∧
      t.document = yjs.applyUpdate s.document message.2 := by
  obtain ⟨message, hfind, rfl⟩ := Option.map_eq_some_iff.mp h
  exact ⟨message, hfind, rfl⟩

/-- **One step.**  A payload that still fits leaves the document within its limit. -/
theorem withinLimit_step {a : SyncAction} (hs : s.WithinLimit yjs maxBytes)
    (hgrows : AddsAtMost yjs s a) (hfits : StillFits yjs maxBytes s a)
    (h : syncStep yjs maxBytes s a = some t) : t.WithinLimit yjs maxBytes := by
  rw [withinLimit_iff] at hs ⊢
  cases a with
  | check session type payload =>
      rw [check_document h]
      exact hs
  | apply session =>
      obtain ⟨message, hfind, hdocument⟩ := apply_eq_some h
      rw [hdocument]
      exact Nat.le_trans (hgrows session message rfl hfind) (hfits session message rfl hfind)

end Steps

/-- **When a live room stays within its limit.**  In a run whose payloads all still fit when they
are applied, every state reached is within the limit. -/
theorem within_limit_of_still_fits {yjs : Yjs D} {maxBytes : ℕ} {document : D}
    {as : List SyncAction} (hload : enforceDocumentLimit yjs (.inl document) maxBytes = .ok ())
    (hgrows : Runs.Meets (syncStep yjs maxBytes) (AddsAtMost yjs) (RoomState.loaded document) as)
    (hfits : Runs.Meets (syncStep yjs maxBytes) (StillFits yjs maxBytes)
      (RoomState.loaded document) as) :
    Runs.Throughout (syncStep yjs maxBytes) (RoomState.WithinLimit yjs maxBytes)
      (RoomState.loaded document) as := by
  have hinitial : (RoomState.loaded document).WithinLimit yjs maxBytes :=
    withinLimit_iff.mpr (enforceDocumentLimit_doc.mp hload)
  exact Runs.throughout_of_meets (syncStep yjs maxBytes) (fun _ h => h)
    (fun s a t hs hok h => withinLimit_step hs hok.1 hok.2 h) hinitial
    (Runs.meets_and (syncStep yjs maxBytes) hgrows hfits)

/-! ### Two sessions near the limit -/

/-- Documents as the struct blocks that clients added, the latest first. -/
def blockYjs : Yjs (List Bytes) where
  encodeStateAsUpdate blocks := UInt8.ofNat blocks.length :: blocks.flatten ++ [0]
  applyUpdate blocks update := (update.drop 1).dropLast :: blocks

/-- The update by which a client inserts one character into the empty text `t`. -/
def insertion (client character : UInt8) : Bytes :=
  [1, 1, client, 0, 4, 1, 1, 116, 1, character, 0]

/-- Two sessions insert a character each; the second is checked before the first is applied. -/
def overlapRun : List SyncAction :=
  [.check 1 2 (insertion 1 97), .check 2 2 (insertion 2 98), .apply 1, .apply 2]

theorem meets_overlapRun {ok : RoomState (List Bytes) → SyncAction → Prop}
    (hcheck : ∀ s session type payload, ok s (.check session type payload))
    (hfirst : ok ⟨[], [(1, insertion 1 97), (2, insertion 2 98)]⟩ (.apply 1))
    (hsecond : ok ⟨blockYjs.applyUpdate [] (insertion 1 97), [(2, insertion 2 98)]⟩ (.apply 2)) :
    Runs.Meets (syncStep blockYjs 22) ok (RoomState.loaded []) overlapRun := by
  refine Runs.meets_cons _ (hcheck _ _ _ _) rfl (Runs.meets_cons _ (hcheck _ _ _ _) rfl ?_)
  exact Runs.meets_cons _ hfirst rfl (Runs.meets_cons _ hsecond rfl trivial)

/-- With room for both characters each update still fits when it is applied. -/
theorem within_limit_of_still_fits_sample :
    Runs.Throughout (syncStep blockYjs 22) (RoomState.WithinLimit blockYjs 22)
      (RoomState.loaded []) overlapRun := by
  have hload : enforceDocumentLimit blockYjs (.inl []) 22 = .ok () := by decide
  have hgrows : Runs.Meets (syncStep blockYjs 22) (AddsAtMost blockYjs) (RoomState.loaded [])
      overlapRun := by
    apply meets_overlapRun
    · intro s session type payload _ _ h
      cases h
    all_goals
      intro session message ha hfind
      cases ha
      cases hfind
      decide
  have hfits : Runs.Meets (syncStep blockYjs 22) (StillFits blockYjs 22) (RoomState.loaded [])
      overlapRun := by
    apply meets_overlapRun
    · intro s session type payload _ _ h
      cases h
    all_goals
      intro session message ha hfind
      cases ha
      cases hfind
      decide
  exact within_limit_of_still_fits hload hgrows hfits

/-- **Two admitted messages overflow the limit together.** -/
theorem overlap_exceeds_limit :
    enforceDocumentLimit blockYjs (.inl []) 14 = .ok () ∧
      ∃ t, Runs.run (syncStep blockYjs 14) (RoomState.loaded []) overlapRun = some t ∧
        14 < blockYjs.encodedLength t.document ∧
        enforceDocumentLimit blockYjs (.inl t.document) 14 =
          .error (resourceLimitError "Document resource limit exceeded") :=
  ⟨by decide, _, rfl, by decide, by decide⟩

end SocketServer.Collaboration

import Mathlib.Data.List.Induction
import SocketServer.Collaboration.EditingService

/-!
# Who is shown in a room

Clients send their awareness states themselves, and the server puts the identity of the ticket into
every state that passes through it, whatever the client claimed.

* `setUser_eq_ok`: a state that passes shows the given user, or nobody;
* `authentic_move`: one step of the server;
* `presence_authentic`: in every run, a user shown in a room is the user of a ticket that was
  admitted to that room.
-/

namespace SocketServer.Collaboration

open SocketServer.Text SocketServer.Js SocketServer.Checks

/-! ### The colours -/

/-- **The colour is one of the six**: the index is never out of range. -/
theorem presenceColor_mem (userId : JsString) :
    ∃ color, presenceColor userId = some color ∧ color ∈ presenceColors := by
  have hlt : presenceHash userId % presenceColors.length < presenceColors.length :=
    Nat.mod_lt _ (by decide)
  exact ⟨_, List.getElem?_eq_getElem hlt, List.getElem_mem hlt⟩

/-- The user that is put into a state: four properties, all of them from the ticket and the
connection. -/
theorem authenticatedPresence_eq (claims : DocumentTicketClaims) (sessionId : JsString) :
    ∃ color ∈ presenceColors, presenceColor claims.userId = some color ∧
      authenticatedPresence claims sessionId =
        .object [(js "color", .string color), (js "id", .string claims.userId),
          (js "name", .string claims.displayName), (js "sessionId", .string sessionId)] := by
  obtain ⟨color, hcolor, hmem⟩ := presenceColor_mem claims.userId
  refine ⟨color, hmem, hcolor, ?_⟩
  rw [authenticatedPresence, hcolor]
  rfl

/-! ### What a state shows -/

/-- What another client reads as `state.user`. -/
def userOf : Json → Option Json
  | .object members => property members "user"
  | _ => none

/-- The property that a replacement leaves. -/
theorem property_replaced {members : List (JsString × Json)} {user : Json}
    (h : members.any (fun m => m.1 = js "user") = true) :
    property (members.map fun m => if m.1 = js "user" then (m.1, user) else m) "user" =
      some user := by
  obtain ⟨m, hm, hkey⟩ := List.any_eq_true.mp h
  have hsome : ((members.map fun m => if m.1 = js "user" then (m.1, user) else m).reverse.find?
      fun m => m.1 = js "user").isSome = true := by
    rw [List.find?_isSome]
    refine ⟨(m.1, user), List.mem_reverse.mpr (List.mem_map.mpr ⟨m, hm, ?_⟩), hkey⟩
    rw [if_pos (of_decide_eq_true hkey)]
  obtain ⟨found, hfound⟩ := Option.isSome_iff_exists.mp hsome
  have hkey' : found.1 = js "user" := by simpa using List.find?_some hfound
  obtain ⟨old, -, hold⟩ := List.mem_map.mp (List.mem_reverse.mp (List.mem_of_find?_eq_some hfound))
  have huser : found.2 = user := by
    by_cases hmatch : old.1 = js "user"
    · rw [if_pos hmatch] at hold
      rw [← hold]
    · rw [if_neg hmatch] at hold
      exact absurd (hold ▸ hkey') hmatch
  rw [property, hfound, Option.map_some, huser]

/-- **A state that passes shows the given user, or nobody.** -/
theorem setUser_eq_ok {user state state' : Json} (h : setUser user state = .ok state') :
    userOf state' = some user ∨ userOf state' = none := by
  unfold setUser at h
  split at h
  · rename_i members
    split at h
    · rename_i hany
      cases h
      exact Or.inl (property_replaced hany)
    · cases h
      refine Or.inl ?_
      simp [userOf, property]
  · cases h
    exact Or.inr rfl
  · cases h

theorem beforeHandleAwareness_eq_ok {claims : DocumentTicketClaims} {socketId : JsString}
    {states states' : List (ℕ × Json)}
    (h : beforeHandleAwareness (some claims) socketId states = .ok states') :
    ∀ p ∈ states', userOf p.2 = some (authenticatedPresence claims socketId) ∨
      userOf p.2 = none := by
  simp only [beforeHandleAwareness] at h
  induction states generalizing states' with
  | nil =>
      cases h
      exact fun p hp => absurd hp List.not_mem_nil
  | cons state states ih =>
      rw [List.mapM_cons] at h
      obtain ⟨first, hfirst, hrest⟩ := bind_eq_ok.mp h
      obtain ⟨rest, hmap, hreturn⟩ := bind_eq_ok.mp hrest
      cases hreturn
      intro p hp
      obtain rfl | hlater := List.mem_cons.mp hp
      · obtain ⟨value, hvalue, rfl⟩ := map_eq_ok.mp hfirst
        exact setUser_eq_ok hvalue
      · exact ih hmap p hlater

/-- A state that is shown after a message was shown before, or came with it. -/
theorem showStates_eq_some {awareness : ℕ → Option Json} {newer : ℕ → Bool}
    {states : List (ℕ × Json)} {client : ℕ} {state : Json}
    (h : showStates awareness newer states client = some state) :
    awareness client = some state ∨ (client, state) ∈ states := by
  induction states generalizing awareness with
  | nil => exact Or.inl h
  | cons first rest ih =>
      obtain ⟨c, new⟩ := first
      obtain hbefore | hlater := ih h
      · split at hbefore
        · by_cases hc : client = c
          · subst hc
            rw [Function.update_self, Option.some.injEq] at hbefore
            exact Or.inr (hbefore ▸ List.mem_cons_self)
          · rw [Function.update_of_ne hc] at hbefore
            exact Or.inl hbefore
        · exact Or.inl hbefore
      · exact Or.inr (List.mem_cons_of_mem _ hlater)

/-! ### The invariant -/

variable {D : Type} {services : EditingServices D} {s t : EditingState D}

/-- A user is the one of a session that was admitted to the room. -/
def EditingState.Identifies (s : EditingState D) (name : JsString) (user : Json) : Prop :=
  ∃ session ∈ s.admitted, session.documentName = name ∧
    user = authenticatedPresence session.context session.socketId

/-- The sessions were admitted, and the rooms show their users only. -/
structure EditingState.Authentic (s : EditingState D) : Prop where
  sessions : ∀ i session, s.sessions i = some session → session ∈ s.admitted
  presence : ∀ name room, s.rooms name = some room →
    ∀ client state user, room.awareness client = some state → userOf state = some user →
      s.Identifies name user

/-- Replacing a room by one that shows authentic users only. -/
theorem EditingState.Authentic.setRoom (h : s.Authentic) {name : JsString} {new : Option (OpenRoom D)}
    (hnew : ∀ room, new = some room → ∀ client state user, room.awareness client = some state →
      userOf state = some user → s.Identifies name user) : (s.setRoom name new).Authentic where
  sessions := h.sessions
  presence other room hroom := by
    by_cases hother : other = name
    · subst hother
      rw [EditingState.setRoom_self] at hroom
      exact hnew room hroom
    · rw [EditingState.setRoom_of_ne hother] at hroom
      exact h.presence other room hroom

theorem EditingState.Authentic.closeSession (h : s.Authentic) (i : ℕ) : (s.setSession i none).Authentic where
  sessions j session hj := by
    by_cases hji : j = i
    · subst hji
      rw [EditingState.setSession_self] at hj
      cases hj
    · rw [EditingState.setSession_of_ne hji] at hj
      exact h.sessions j session hj
  presence := h.presence

/-- A session is admitted: it is added to the ones there are. -/
theorem EditingState.Authentic.join (h : s.Authentic) (i : ℕ) (session : AdmittedSession) :
    EditingState.Authentic
      { s.setSession i (some session) with admitted := s.admitted ++ [session] } where
  sessions j other hj := by
    by_cases hji : j = i
    · subst hji
      obtain rfl := Option.some.inj ((EditingState.setSession_self s j (some session)).symm.trans hj)
      exact List.mem_append_right _ List.mem_cons_self
    · have hold := (EditingState.setSession_of_ne hji s (some session)).symm.trans hj
      exact List.mem_append_left _ (h.sessions j other hold)
  presence name room hroom client state user hstate huser := by
    obtain ⟨other, hmem, hspec⟩ := h.presence name room hroom client state user hstate huser
    exact ⟨other, List.mem_append_left _ hmem, hspec⟩

/-- **One step.** -/
theorem authentic_move {a : EditingAction} (h : s.Authentic) (hmove : EditingMove services s a t) :
    t.Authentic := by
  cases hmove with
  | joined hsession => exact h.join _ _
  | loaded hi hroom hanswers hload =>
      refine h.setRoom ?_
      rintro room ⟨⟩ client state user hstate
      cases hstate
  | checked hi => exact ⟨h.sessions, h.presence⟩
  | @applied k sync room hk hroom htype =>
      have htaken : (s.setChecked k none).Authentic := ⟨h.sessions, h.presence⟩
      refine htaken.setRoom ?_
      rintro room' ⟨⟩
      exact h.presence _ room hroom
  | taken => exact ⟨h.sessions, h.presence⟩
  | @shown i states states' newer session room hi hroom hstates =>
      refine h.setRoom ?_
      rintro room' ⟨⟩ client state user hstate huser
      obtain hbefore | hcame := showStates_eq_some hstate
      · exact h.presence _ room hroom client state user hbefore huser
      · -- the hook has put the session's own user into the state
        obtain hown | hnone := beforeHandleAwareness_eq_ok hstates (client, state) hcame
        · refine ⟨session, h.sessions i session hi, rfl, ?_⟩
          exact Option.some.inj (huser.symm.trans hown)
        · exact absurd (hnone.symm.trans huser) nofun
  | @forgotten name client room hroom =>
      refine h.setRoom ?_
      rintro room' ⟨⟩ other state user hstate
      by_cases hclient : other = client
      · subst hclient
        exact absurd ((Function.update_self _ _ _).symm.trans hstate) nofun
      · exact h.presence _ room hroom other state user
          ((Function.update_of_ne hclient _ _).symm.trans hstate)
  | issued hn hroom hstorage hrequest => exact ⟨h.sessions, h.presence⟩
  | recorded hk hfields => exact ⟨h.sessions, h.presence⟩
  | replied hk hreply => exact ⟨h.sessions, h.presence⟩
  | closed i => exact h.closeSession i
  | terminated =>
      refine ⟨fun i session hi => ?_, h.presence⟩
      exact h.sessions i session (Option.filter_eq_some_iff.mp hi).1
  | unloaded => exact h.setRoom nofun
  | unchanged => exact h

theorem authentic_initial (stored : JsString → Option StateFields) :
    (EditingState.initial stored : EditingState D).Authentic :=
  ⟨fun _ _ hi => (by cases hi), fun _ _ hroom => (by cases hroom)⟩

theorem authentic_run {stored : JsString → Option StateFields} {as : List EditingAction}
    (h : Runs.run (editingStep services) (.initial stored) as = some s) : s.Authentic :=
  Runs.invariant_run (editingStep services)
    (fun _ _ _ hs hstep => authentic_move hs (editingMove hstep))
    (authentic_initial stored) h

/-! ### Where sessions come from -/

/-- A run has a request for a session that `onAuthenticate` admitted. -/
def Joined (services : EditingServices D) (as : List EditingAction) (session : AdmittedSession) :
    Prop :=
  ∃ i isDeleted now request,
    EditingAction.join i session.socketId isDeleted now request ∈ as ∧
    session.documentName = request.documentName ∧
    onAuthenticate services.runtime services.authentication isDeleted now request =
      .ok session.context

/-- Sessions are admitted by their own steps only. -/
theorem admitted_move {a : EditingAction} (hmove : EditingMove services s a t)
    {session : AdmittedSession} (h : session ∈ t.admitted) :
    session ∈ s.admitted ∨ Joined services [a] session := by
  cases hmove with
  | joined hsession =>
      obtain hbefore | hnew := List.mem_append.mp h
      · exact Or.inl hbefore
      · obtain rfl := List.mem_singleton.mp hnew
        obtain ⟨hcontext, hname, rfl⟩ := newSession_eq_some hsession
        exact Or.inr ⟨_, _, _, _, List.mem_singleton_self _, hname, hcontext⟩
  | _ => exact Or.inl h

theorem admitted_run {stored : JsString → Option StateFields} {as : List EditingAction}
    (h : Runs.run (editingStep services) (.initial stored) as = some s)
    {session : AdmittedSession} (hmem : session ∈ s.admitted) : Joined services as session := by
  induction as using List.reverseRecOn generalizing s with
  | nil =>
      cases h
      exact absurd hmem List.not_mem_nil
  | append_singleton as a ih =>
      obtain ⟨u, hu, hstep⟩ := (Runs.run_snoc_eq_some (editingStep services)).mp h
      obtain hbefore | ⟨i, isDeleted, now, request, hjoin, hspec⟩ :=
        admitted_move (editingMove hstep) hmem
      · obtain ⟨i, isDeleted, now, request, hjoin, hspec⟩ := ih hu hbefore
        exact ⟨i, isDeleted, now, request, List.mem_append_left _ hjoin, hspec⟩
      · exact ⟨i, isDeleted, now, request, List.mem_append_right _ hjoin, hspec⟩

/-- **Nobody is shown under another name.**  In every run of the server, whatever awareness states
the clients send: a user that the clients of a room are shown has the colour, the id, the name and
the session of a ticket that `onAuthenticate` admitted to that room, and nothing else. -/
theorem presence_authentic {stored : JsString → Option StateFields} {as : List EditingAction}
    (h : Runs.run (editingStep services) (.initial stored) as = some s) {name : JsString}
    {room : OpenRoom D} (hroom : s.rooms name = some room) {client : ℕ} {state user : Json}
    (hstate : room.awareness client = some state) (huser : userOf state = some user) :
    ∃ session, Joined services as session ∧ session.documentName = name ∧
      ∃ color ∈ presenceColors, presenceColor session.context.userId = some color ∧
        user = .object [(js "color", .string color), (js "id", .string session.context.userId),
          (js "name", .string session.context.displayName),
          (js "sessionId", .string session.socketId)] := by
  obtain ⟨session, hmem, hname, rfl⟩ :=
    (authentic_run h).presence name room hroom client state user hstate huser
  exact ⟨session, admitted_run h hmem, hname, authenticatedPresence_eq _ _⟩

/-! ### A sample run -/

/-- A server without a store, for documents that are lists of updates. -/
def sampleEditingServices : EditingServices (List Bytes) where
  runtime := sampleRuntime
  authentication := ⟨none, none⟩
  yjs := ⟨List.flatten, fun document update => document ++ [update]⟩
  tiptap := ⟨fun _ _ _ => [], fun _ _ => none, fun _ => emptyDocument, fun _ => [], fun _ => []⟩
  storage := none
  maxDocumentBytes := 100
  new := []

/-- A session joins and claims to be somebody else. -/
def forgedState : Json :=
  .object [(js "user", .object [(js "name", .string (js "Grace"))]), (js "cursor", .null)]

def sampleForgery : List EditingAction :=
  [.join 0 (js "socket-1") (some false) 1700000000000 sampleRequest, .load 0 1 2 (.error "no store"),
    .awareness 0 [(7, forgedState)] fun _ => true]

/-- The name that a client is shown for client 7. -/
def shownName (s : EditingState (List Bytes)) : Option JsString := do
  let room ← s.rooms (documentRoomName sampleRoom)
  let user ← (room.awareness 7).bind userOf
  match user with
  | .object members =>
      match property members "name" with
      | some (.string name) => some name
      | _ => none
  | _ => none

theorem presence_authentic_sample :
    ∃ s room state user, Runs.run (editingStep sampleEditingServices) (.initial fun _ => none)
        sampleForgery = some s ∧
      s.rooms (documentRoomName sampleRoom) = some room ∧ room.awareness 7 = some state ∧
      userOf state = some user ∧ shownName s = some (js "Ada") ∧
      ∃ session, Joined sampleEditingServices sampleForgery session ∧
        session.documentName = documentRoomName sampleRoom := by
  have hrun : (Runs.run (editingStep sampleEditingServices) (.initial fun _ => none)
      sampleForgery).map shownName = some (some (js "Ada")) := by decide +kernel
  obtain ⟨s, hs, hname⟩ := Option.map_eq_some_iff.mp hrun
  have hshown := hname
  simp only [shownName, Option.bind_eq_bind, Option.bind_eq_some_iff] at hshown
  obtain ⟨room, hroom, user, ⟨state, hstate, huser⟩, -⟩ := hshown
  obtain ⟨session, hjoined, hdocument, -⟩ := presence_authentic hs hroom hstate huser
  exact ⟨s, room, state, user, hs, hroom, hstate, huser, hname, session, hjoined, hdocument⟩

end SocketServer.Collaboration

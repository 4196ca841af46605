import SocketServer.Chat.HubTable

/-!
# One client's view of the hub

The abstract model of what the hub is for: a **mailbox**, the client together with the messages
broadcast to its team while it was in the room (`offered`) and the one of them that the range loop
has yet to try (`due`).  A mailbox only ever takes the steps of `Mailbox.Step`; none of them
mentions rooms, tables or other clients.

`step_mailbox` is the simulation: seen from any one client, an action of the chat service is a
mailbox step or leaves the mailbox as it is.  What is proved about mailboxes (`Mailbox.Inv`) then
holds for every client of every run, whatever the other clients do.

`offered` is read off the ghost log of the hub by `window`: the broadcasts for a team between the
registration and the removal of a client, in the order in which the hub took them.
-/

namespace SocketServer.Chat

open SocketServer.GoChannel SocketServer.Text

/-! ### The broadcasts a client was present for -/

/-- Whether a client is in its room, and the broadcasts to its team it was present for. -/
@[ext] structure Window where
  inRoom : Bool
  seen : List RoomMessage

def Window.step (c : ClientId) (teamID : Int) (w : Window) : HubEvent → Window
  | .registered d => if d = c then { w with inRoom := true } else w
  | .unregistered d => if d = c then { w with inRoom := false } else w
  | .broadcast msg =>
      if w.inRoom ∧ msg.teamID = teamID then { w with seen := w.seen ++ [msg] } else w

/-- The window of a client of team `teamID` after the cases of `log`. -/
def window (c : ClientId) (teamID : Int) (log : List HubEvent) : Window :=
  log.foldl (Window.step c teamID) ⟨false, []⟩

/-- The messages broadcast to the client's team while the client was in its room. -/
def State.offered (s : State) (c : ClientId) : List RoomMessage :=
  (window c (s.client c).teamID s.log).seen

theorem window_snoc (c : ClientId) (teamID : Int) (log : List HubEvent) (e : HubEvent) :
    window c teamID (log ++ [e]) = (window c teamID log).step c teamID e := by
  simp only [window, List.foldl_append, List.foldl_cons, List.foldl_nil]

/-- The broadcasts recorded by the log. -/
def broadcasts (log : List HubEvent) : List RoomMessage :=
  log.filterMap fun e => match e with
    | .broadcast msg => some msg
    | _ => none

theorem broadcasts_snoc_broadcast (log : List HubEvent) (msg : RoomMessage) :
    broadcasts (log ++ [.broadcast msg]) = broadcasts log ++ [msg] := by
  rw [broadcasts, List.filterMap_append]
  rfl

/-- A window shows broadcasts of its team only, in the order of the log and none twice. -/
theorem window_sublist (c : ClientId) (teamID : Int) (log : List HubEvent) :
    (window c teamID log).seen.Sublist ((broadcasts log).filter (·.teamID = teamID)) := by
  induction log using List.reverseRecOn with
  | nil => exact List.Sublist.refl []
  | append_singleton log e ih =>
      rw [window_snoc]
      cases e with
      | registered d =>
          simp only [Window.step, broadcasts, List.filterMap_append, List.filterMap_cons,
            List.filterMap_nil, List.append_nil]
          split <;> exact ih
      | unregistered d =>
          simp only [Window.step, broadcasts, List.filterMap_append, List.filterMap_cons,
            List.filterMap_nil, List.append_nil]
          split <;> exact ih
      | broadcast msg =>
          rw [broadcasts_snoc_broadcast, List.filter_append]
          simp only [Window.step]
          split
          · rename_i hin
            refine ih.append ?_
            simp [hin.2]
          · exact ih.trans (List.sublist_append_left _ _)

/-! ### Mailboxes -/

/-- A client, the messages offered to it, and the one of them not tried yet. -/
structure Mailbox where
  client : Client
  offered : List RoomMessage
  due : Option RoomMessage

/-- The message that a running broadcast has yet to try on a client. -/
def HubPc.due (c : ClientId) : HubPc → Option RoomMessage
  | .ranging msg remaining => if c ∈ remaining then some msg else none
  | _ => none

def State.mailbox (s : State) (c : ClientId) : Mailbox where
  client := s.client c
  offered := s.offered c
  due := s.hub.due c

/-- The steps of a mailbox. -/
inductive Mailbox.Step (m : Mailbox) : Mailbox → Prop
  /-- `ServeWS` allocates the client. -/
  | serve {teamID : Int} (habsent : m.client.stage = .absent) :
      Step m ⟨{ Client.fresh teamID with stage := .registering }, [], none⟩
  /-- The hub takes the registration. -/
  | register (hstage : m.client.stage = .registering) :
      Step m { m with client := { m.client with stage := .registered } }
  /-- The hub takes an unregister request: the channel is closed if it was not. -/
  | unregister {cl : Client} {sender : Unregister} {ch : Chan RoomMessage sendCapacity}
      (hdue : m.due = none) (htake : m.client.takeUnregister sender = some cl)
      (hclosed : ch.closed = true) (hbuffer : ch.buffer = cl.send.buffer) :
      Step m { m with client := { cl with send := ch } }
  /-- The hub takes a broadcast for the team of a member. -/
  | offer {msg : RoomMessage} (hdue : m.due = none) (hreg : m.client.stage = .registered)
      (hopen : m.client.send.closed = false) (hteam : msg.teamID = m.client.teamID) :
      Step m { m with offered := m.offered ++ [msg], due := some msg }
  /-- The range loop reaches the client. -/
  | visit {msg : RoomMessage} {cl : Client} (hdue : m.due = some msg)
      (hvisit : Visit msg m.client cl) : Step m { m with client := cl, due := none }
  /-- A pump of the client acts. -/
  | pump {cl : Client} (hreg : m.client.stage = .registered) (hpump : Pump m.client cl) :
      Step m { m with client := cl }

/-! ### The log agrees with the table -/

/-- The log records the registrations, the window of a client is open exactly while the client is
in the table, and a client that is not registered has never been in it. -/
structure Logged (s : State) : Prop where
  recorded : ∀ c, .registered c ∈ s.log ↔ (s.client c).stage = .registered
  inRoom_iff : ∀ c, (window c (s.client c).teamID s.log).inRoom = true ↔
    (s.client c).stage = .registered ∧ (s.client c).send.closed = false
  unlogged : ∀ c, (s.client c).stage ≠ .registered → ∀ teamID, window c teamID s.log = ⟨false, []⟩

theorem Logged.initial : Logged State.initial where
  recorded := by simp [State.initial, Client.fresh]
  inRoom_iff := by simp [State.initial, window, Client.fresh]
  unlogged := fun _ _ _ => rfl

/-- Steps that change neither the log nor what the log agrees with. -/
theorem Logged.frame {s t : State} (h : Logged s) (hlog : t.log = s.log)
    (hsame : ∀ c, (t.client c).teamID = (s.client c).teamID ∧
      (t.client c).stage = (s.client c).stage ∧
      (t.client c).send.closed = (s.client c).send.closed) : Logged t where
  recorded := by
    intro c
    rw [hlog, (hsame c).2.1]
    exact h.recorded c
  inRoom_iff := by
    intro c
    obtain ⟨hteam, hstage, hclosed⟩ := hsame c
    rw [hlog, hteam, hstage, hclosed]
    exact h.inRoom_iff c
  unlogged := by
    intro c hc teamID
    rw [hlog]
    exact h.unlogged c (by rwa [← (hsame c).2.1]) teamID

section Actions

variable {δ : Type*} {codec : EventCodec δ} {s t : State} {c : ClientId}

/-- The frame condition for an update of one client that keeps what the log agrees with. -/
theorem update_same {cl : Client} (hteam : cl.teamID = (s.client c).teamID)
    (hstage : cl.stage = (s.client c).stage)
    (hclosed : cl.send.closed = (s.client c).send.closed) (d : ClientId) :
    (Function.update s.client c cl d).teamID = (s.client d).teamID ∧
      (Function.update s.client c cl d).stage = (s.client d).stage ∧
      (Function.update s.client c cl d).send.closed = (s.client d).send.closed := by
  by_cases hd : d = c
  · subst hd
    simp only [Function.update_self]
    exact ⟨hteam, hstage, hclosed⟩
  · simp only [Function.update_of_ne hd, and_self]

theorem Logged.serve (h : Logged s) {teamID : Int} (hs : s.serve c teamID = some t) :
    Logged t := by
  unfold State.serve at hs
  split at hs
  · rename_i habsent
    cases hs
    have hwin := h.unlogged c (by rw [habsent]; simp)
    refine ⟨?_, ?_, ?_⟩
    · intro d
      by_cases hd : d = c
      · subst hd
        simpa [State.setClient, habsent] using h.recorded d
      · simp only [State.setClient, Function.update_of_ne hd]
        exact h.recorded d
    · intro d
      by_cases hd : d = c
      · subst hd
        simp [State.setClient, hwin]
      · simp only [State.setClient, Function.update_of_ne hd]
        exact h.inRoom_iff d
    · intro d hd k
      by_cases hdc : d = c
      · subst hdc
        exact hwin k
      · simp only [State.setClient, Function.update_of_ne hdc] at hd
        exact h.unlogged d hd k
  · cases hs

theorem Logged.register (h : Logged s) (htable : Table s) (hs : s.register c = some t) :
    Logged t := by
  obtain ⟨-, hstage, rfl⟩ := register_eq_some hs
  have hfresh := htable.idle c (by rw [hstage]; simp)
  have hopen : (s.client c).send.closed = false := by rw [hfresh]; rfl
  refine ⟨?_, ?_, ?_⟩
  · intro d
    by_cases hd : d = c
    · subst hd
      simp
    · simpa [Function.update_of_ne hd, hd] using h.recorded d
  · intro d
    simp only [window_snoc, Window.step]
    by_cases hd : d = c
    · subst hd
      simp [hopen]
    · simp only [Function.update_of_ne hd, if_neg (Ne.symm hd)]
      exact h.inRoom_iff d
  · intro d hd k
    by_cases hdc : d = c
    · subst hdc
      simp at hd
    · simp only [Function.update_of_ne hdc] at hd
      rw [window_snoc, h.unlogged d hd k, Window.step, if_neg (Ne.symm hdc)]

/-- The clients after an unregister request was taken. -/
theorem unregister_client (h : Table s) {sender : Unregister}
    (hs : s.unregister c sender = some t) :
    s.hub = .selecting ∧ t.hub = .selecting ∧ t.log = s.log ++ [.unregistered c] ∧
      (s.client c).stage = .registered ∧
      ∃ (cl : Client) (ch : Chan RoomMessage sendCapacity),
        (s.client c).takeUnregister sender = some cl ∧ ch.closed = true ∧
        ch.buffer = cl.send.buffer ∧
        t.client = Function.update s.client c { cl with send := ch } := by
  obtain ⟨hhub, cl, htake, rfl⟩ := unregister_eq_some hs
  obtain ⟨hreq, hteam, hstage, hsend, -⟩ := takeUnregister_eq_some htake
  have hreg := h.registered_of_request hreq
  have htaken : Table (s.setClient c cl) :=
    h.setClient s.log hreg (hstage.trans hreg) hteam (congrArg Chan.closed hsend)
  have hself : (s.setClient c cl).client c = cl := by
    simp only [State.setClient, Function.update_self]
  obtain ⟨ch, hclosed, hbuffer, hclient⟩ :=
    htaken.remove_client (c := c) (by rw [hself]; exact hstage.trans hreg)
  obtain ⟨hhub', -⟩ := htaken.remove_rest (c := c)
  refine ⟨hhub, hhub'.trans hhub, rfl, hreg, cl, ch, htake, hclosed, ?_, ?_⟩
  · rw [hbuffer, hself]
  · simp only [hclient, hself]
    exact Function.update_idem _ _ _

theorem Logged.unregister (h : Logged s) (htable : Table s) {sender : Unregister}
    (hs : s.unregister c sender = some t) : Logged t := by
  obtain ⟨-, -, hlog, hreg, cl, ch, htake, hclosed, -, hclient⟩ := unregister_client htable hs
  obtain ⟨-, hteam, hstage, -⟩ := takeUnregister_eq_some htake
  refine ⟨?_, ?_, ?_⟩
  · intro d
    rw [hlog, hclient]
    by_cases hd : d = c
    · subst hd
      simpa [hstage] using h.recorded d
    · simpa [Function.update_of_ne hd] using h.recorded d
  · intro d
    rw [hlog, hclient, window_snoc]
    by_cases hd : d = c
    · subst hd
      simp [Window.step, hclosed]
    · simp only [Function.update_of_ne hd, Window.step, if_neg (Ne.symm hd)]
      exact h.inRoom_iff d
  · intro d hd k
    rw [hclient] at hd
    rw [hlog, window_snoc]
    by_cases hdc : d = c
    · subst hdc
      simp only [Function.update_self, hstage, hreg, ne_eq, not_true_eq_false] at hd
    · simp only [Function.update_of_ne hdc] at hd
      rw [h.unlogged d hd k, Window.step, if_neg (Ne.symm hdc)]

theorem Logged.startBroadcast (h : Logged s) (hs : s.startBroadcast = some t) : Logged t := by
  obtain ⟨-, msg, ch, -, rfl⟩ := startBroadcast_eq_some hs
  refine ⟨?_, ?_, ?_⟩
  · intro d
    simpa using h.recorded d
  · intro d
    simp only [window_snoc, Window.step]
    split <;> exact h.inRoom_iff d
  · intro d hd k
    rw [window_snoc, h.unlogged d hd k]
    simp [Window.step]

theorem Logged.range (h : Logged s) (htable : Table s) (hs : s.range c = some t) : Logged t := by
  obtain ⟨msg, remaining, cl, -, -, hvisit, rfl⟩ := range_eq_some htable hs
  obtain ⟨hteam, hstage, hclosed⟩ := hvisit.same
  exact h.frame rfl (update_same hteam hstage hclosed)

theorem Logged.pump (h : Logged s) {cl : Client} (hp : Pump (s.client c) cl) :
    Logged (s.setClient c cl) := by
  obtain ⟨hteam, hstage, hclosed⟩ := hp.same
  exact h.frame rfl (update_same hteam hstage hclosed)

variable (codec) in
/-- The actions of the subscriber touch neither the log nor the clients nor the hub. -/
theorem subscriber_frame (htable : Table s)
    (hs : (∃ raw, s.redis codec raw = some t) ∨ s.enqueue = some t ∨ s.stop = some t) :
    t.client = s.client ∧ t.log = s.log ∧ t.hub = s.hub := by
  rcases hs with ⟨raw, hs⟩ | hs | hs
  · unfold State.redis at hs
    split at hs
    · split at hs <;> cases hs <;> exact ⟨rfl, rfl, rfl⟩
    · cases hs
  · unfold State.enqueue at hs
    split at hs
    · split at hs
      · cases hs
        exact ⟨rfl, rfl, rfl⟩
      · cases hs
      · rename_i hsend
        have hclosed := trySend_eq_panic hsend
        rw [htable.broadcast_open] at hclosed
        cases hclosed
    · cases hs
  · unfold State.stop at hs
    split at hs
    · cases hs
      exact ⟨rfl, rfl, rfl⟩
    · cases hs

variable (codec) in
theorem Logged.subscriber (h : Logged s) (htable : Table s)
    (hs : (∃ raw, s.redis codec raw = some t) ∨ s.enqueue = some t ∨ s.stop = some t) :
    Logged t := by
  obtain ⟨hclient, hlog, -⟩ := subscriber_frame codec htable hs
  exact h.frame hlog fun c => by rw [hclient]; exact ⟨rfl, rfl, rfl⟩

theorem Logged.step {a : Action} (h : Logged s) (htable : Table s)
    (hs : step codec s a = some t) : Logged t := by
  cases a with
  | redis raw => exact h.subscriber codec htable (Or.inl ⟨raw, hs⟩)
  | enqueue => exact h.subscriber codec htable (Or.inr (Or.inl hs))
  | stop => exact h.subscriber codec htable (Or.inr (Or.inr hs))
  | serve c teamID => exact h.serve hs
  | register c => exact h.register htable hs
  | unregister c sender => exact h.unregister htable hs
  | startBroadcast => exact h.startBroadcast hs
  | range c => exact h.range htable hs
  | endBroadcast =>
      obtain ⟨msg, -, rfl⟩ := endBroadcast_eq_some hs
      exact h.frame rfl fun _ => ⟨rfl, rfl, rfl⟩
  | readError c =>
      obtain ⟨cl, hcl, rfl⟩ := Option.map_eq_some_iff.mp hs
      exact h.pump (.readError hcl)
  | closeConn c =>
      obtain ⟨cl, hcl, rfl⟩ := Option.map_eq_some_iff.mp hs
      exact h.pump (.closeConn hcl)
  | receive c =>
      obtain ⟨cl, hcl, rfl⟩ := Option.map_eq_some_iff.mp hs
      exact h.pump (.receive hcl)
  | write c ok =>
      obtain ⟨cl, hcl, rfl⟩ := Option.map_eq_some_iff.mp hs
      exact h.pump (.write hcl)
  | ping c ok =>
      obtain ⟨cl, hcl, rfl⟩ := Option.map_eq_some_iff.mp hs
      exact h.pump (.ping hcl)

/-! ### The simulation -/

/-- A client that a running broadcast has yet to try is a member of the message's room. -/
theorem Table.mem_of_due (h : Table s) {msg : RoomMessage} (hdue : s.hub.due c = some msg) :
    c ∈ s.members msg.teamID := by
  cases hhub : s.hub with
  | selecting =>
      rw [hhub] at hdue
      cases hdue
  | panicked => exact absurd hhub h.running
  | ranging m remaining =>
      rw [hhub, HubPc.due] at hdue
      split at hdue
      · rename_i hc
        cases hdue
        exact h.ranging_subset msg remaining hhub hc
      · cases hdue

theorem Table.due_eq_none (h : Table s) (hne : (s.client c).stage ≠ .registered) :
    s.hub.due c = none := by
  cases hdue : s.hub.due c with
  | none => rfl
  | some msg => exact absurd ((h.member_iff c _).mp (h.mem_of_due hdue)).1 hne

theorem mailbox_serve (htable : Table s) (hlogged : Logged s) {teamID : Int}
    (hs : s.serve c teamID = some t) (d : ClientId) :
    t.mailbox d = s.mailbox d ∨ Mailbox.Step (s.mailbox d) (t.mailbox d) := by
  unfold State.serve at hs
  split at hs
  · rename_i habsent
    cases hs
    by_cases hd : d = c
    · subst hd
      have hne : (s.client d).stage ≠ .registered := by rw [habsent]; simp
      have hstep : Mailbox.Step (s.mailbox d)
          ⟨{ Client.fresh teamID with stage := .registering }, [], none⟩ :=
        Mailbox.Step.serve habsent
      refine Or.inr (Eq.mp (congrArg (Mailbox.Step (s.mailbox d)) ?_) hstep)
      simp [State.mailbox, State.offered, State.setClient, hlogged.unlogged d hne,
        htable.due_eq_none hne]
    · left
      simp only [State.mailbox, State.offered, State.setClient, Function.update_of_ne hd]
  · cases hs

theorem mailbox_register (hs : s.register c = some t) (d : ClientId) :
    t.mailbox d = s.mailbox d ∨ Mailbox.Step (s.mailbox d) (t.mailbox d) := by
  obtain ⟨hhub, hstage, rfl⟩ := register_eq_some hs
  by_cases hd : d = c
  · subst hd
    have hstep := Mailbox.Step.register (m := s.mailbox d) hstage
    refine Or.inr (Eq.mp (congrArg (Mailbox.Step (s.mailbox d)) ?_) hstep)
    simp [State.mailbox, State.offered, window_snoc, Window.step]
  · left
    simp only [State.mailbox, State.offered, Function.update_of_ne hd, window_snoc, Window.step,
      if_neg (Ne.symm hd)]

theorem mailbox_unregister (htable : Table s) {sender : Unregister}
    (hs : s.unregister c sender = some t) (d : ClientId) :
    t.mailbox d = s.mailbox d ∨ Mailbox.Step (s.mailbox d) (t.mailbox d) := by
  obtain ⟨hhub, hhub', hlog, -, cl, ch, htake, hclosed, hbuffer, hclient⟩ :=
    unregister_client htable hs
  obtain ⟨-, hteam, -⟩ := takeUnregister_eq_some htake
  by_cases hd : d = c
  · subst hd
    have hdue : (s.mailbox d).due = none := by simp only [State.mailbox, hhub, HubPc.due]
    have hstep := Mailbox.Step.unregister (m := s.mailbox d) hdue htake hclosed hbuffer
    refine Or.inr (Eq.mp (congrArg (Mailbox.Step (s.mailbox d)) ?_) hstep)
    simp [State.mailbox, State.offered, hclient, hlog, hhub, hhub', window_snoc, Window.step, hteam]
  · left
    simp only [State.mailbox, State.offered, hclient, hlog, hhub, hhub', Function.update_of_ne hd,
      window_snoc, Window.step, if_neg (Ne.symm hd)]

/-- A broadcast is offered to the members of the room it is for, and to nobody else. -/
theorem mailbox_startBroadcast (htable : Table s) (hlogged : Logged s)
    (hs : s.startBroadcast = some t) (d : ClientId) :
    t.mailbox d = s.mailbox d ∨ Mailbox.Step (s.mailbox d) (t.mailbox d) := by
  obtain ⟨hhub, msg, ch, -, rfl⟩ := startBroadcast_eq_some hs
  have hdue : (s.mailbox d).due = none := by simp only [State.mailbox, hhub, HubPc.due]
  have hwindow := hlogged.inRoom_iff d
  by_cases hmem : d ∈ s.members msg.teamID
  · obtain ⟨hreg, hopen, hteam⟩ := (htable.member_iff d _).mp hmem
    have hstep := Mailbox.Step.offer (m := s.mailbox d) hdue hreg hopen hteam.symm
    refine Or.inr (Eq.mp (congrArg (Mailbox.Step (s.mailbox d)) ?_) hstep)
    have hin : (window d msg.teamID s.log).inRoom = true := by
      rw [← hteam]
      exact hwindow.mpr ⟨hreg, hopen⟩
    simp [State.mailbox, State.offered, window_snoc, Window.step, HubPc.due, hmem, hin, hteam]
  · left
    have hskip : ¬((window d (s.client d).teamID s.log).inRoom = true ∧
        msg.teamID = (s.client d).teamID) := by
      rintro ⟨hin, hteam⟩
      obtain ⟨hreg, hopen⟩ := hwindow.mp hin
      exact hmem ((htable.member_iff d _).mpr ⟨hreg, hopen, hteam.symm⟩)
    simp only [State.mailbox, State.offered, window_snoc, Window.step, HubPc.due, hmem, hhub,
      if_neg hskip, if_false]

theorem mailbox_range (htable : Table s) (hs : s.range c = some t) (d : ClientId) :
    t.mailbox d = s.mailbox d ∨ Mailbox.Step (s.mailbox d) (t.mailbox d) := by
  obtain ⟨msg, remaining, cl, hhub, hc, hvisit, rfl⟩ := range_eq_some htable hs
  obtain ⟨hteam, -, -⟩ := hvisit.same
  by_cases hd : d = c
  · subst hd
    have hdue : (s.mailbox d).due = some msg := by
      simp only [State.mailbox, hhub, HubPc.due, if_pos hc]
    have hstep := Mailbox.Step.visit (m := s.mailbox d) hdue hvisit
    refine Or.inr (Eq.mp (congrArg (Mailbox.Step (s.mailbox d)) ?_) hstep)
    simp [State.mailbox, State.offered, HubPc.due, hteam]
  · left
    simp only [State.mailbox, State.offered, HubPc.due, hhub, Function.update_of_ne hd,
      Finset.mem_erase, ne_eq, hd, not_false_eq_true, true_and]

theorem mailbox_endBroadcast (hs : s.endBroadcast = some t) (d : ClientId) :
    t.mailbox d = s.mailbox d := by
  obtain ⟨msg, hhub, rfl⟩ := endBroadcast_eq_some hs
  simp only [State.mailbox, State.offered, hhub, HubPc.due, Finset.notMem_empty, if_false]

theorem mailbox_pump (htable : Table s) {cl : Client} (hp : Pump (s.client c) cl) (d : ClientId) :
    (s.setClient c cl).mailbox d = s.mailbox d ∨
      Mailbox.Step (s.mailbox d) ((s.setClient c cl).mailbox d) := by
  by_cases hd : d = c
  · subst hd
    have hstep := Mailbox.Step.pump (m := s.mailbox d) (htable.registered_of_pump hp) hp
    refine Or.inr (Eq.mp (congrArg (Mailbox.Step (s.mailbox d)) ?_) hstep)
    simp [State.mailbox, State.offered, State.setClient, hp.same.1]
  · left
    simp only [State.mailbox, State.offered, State.setClient, Function.update_of_ne hd]

/-- **The simulation.**  Seen from one client, an action of the service is a step of its mailbox
or nothing at all. -/
theorem step_mailbox {a : Action} (htable : Table s) (hlogged : Logged s)
    (hs : step codec s a = some t) (d : ClientId) :
    t.mailbox d = s.mailbox d ∨ Mailbox.Step (s.mailbox d) (t.mailbox d) := by
  have hsubscriber : (∃ raw, s.redis codec raw = some t) ∨ s.enqueue = some t ∨
      s.stop = some t → t.mailbox d = s.mailbox d := by
    intro h
    obtain ⟨hclient, hlog, hhub⟩ := subscriber_frame codec htable h
    simp only [State.mailbox, State.offered, hclient, hlog, hhub]
  cases a with
  | redis raw => exact Or.inl (hsubscriber (Or.inl ⟨raw, hs⟩))
  | enqueue => exact Or.inl (hsubscriber (Or.inr (Or.inl hs)))
  | stop => exact Or.inl (hsubscriber (Or.inr (Or.inr hs)))
  | serve c teamID => exact mailbox_serve htable hlogged hs d
  | register c => exact mailbox_register hs d
  | unregister c sender => exact mailbox_unregister htable hs d
  | startBroadcast => exact mailbox_startBroadcast htable hlogged hs d
  | range c => exact mailbox_range htable hs d
  | endBroadcast => exact Or.inl (mailbox_endBroadcast hs d)
  | readError c =>
      obtain ⟨cl, hcl, rfl⟩ := Option.map_eq_some_iff.mp hs
      exact mailbox_pump htable (.readError hcl) d
  | closeConn c =>
      obtain ⟨cl, hcl, rfl⟩ := Option.map_eq_some_iff.mp hs
      exact mailbox_pump htable (.closeConn hcl) d
  | receive c =>
      obtain ⟨cl, hcl, rfl⟩ := Option.map_eq_some_iff.mp hs
      exact mailbox_pump htable (.receive hcl) d
  | write c ok =>
      obtain ⟨cl, hcl, rfl⟩ := Option.map_eq_some_iff.mp hs
      exact mailbox_pump htable (.write hcl) d
  | ping c ok =>
      obtain ⟨cl, hcl, rfl⟩ := Option.map_eq_some_iff.mp hs
      exact mailbox_pump htable (.ping hcl) d

end Actions

end SocketServer.Chat

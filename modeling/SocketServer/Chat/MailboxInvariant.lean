import SocketServer.Chat.Mailbox

/-!
# The invariant of a mailbox

`Mailbox.Inv` is what holds of every client, in terms of its mailbox alone.

* `account`: every message offered to the client was tried on it exactly once, in order, but for
  the one that the running broadcast has yet to try;
* `evicting` / `evicted`: a client with a message dropped and its channel open has an eviction
  under way, and only such drops start evictions;
* `flow`: what was accepted has been written, is being written or is still in the buffer, in this
  order, until the writer gives up; a close frame ends the stream and follows everything accepted.

`inv_run` carries it to every client of every run through the simulation `step_mailbox`.
-/

namespace SocketServer.Chat

open SocketServer.GoChannel SocketServer.Text

/-! ### Attempts -/

theorem accepted_snoc_true {cl cl' : Client} {msg : RoomMessage}
    (h : cl'.attempts = cl.attempts ++ [(msg, true)]) :
    cl'.accepted = cl.accepted ++ [msg] ∧ cl'.dropped = cl.dropped ∧
      cl'.reached = cl.reached ++ [msg] := by
  simp [Client.accepted, Client.dropped, Client.reached, h]

theorem accepted_snoc_false {cl cl' : Client} {msg : RoomMessage}
    (h : cl'.attempts = cl.attempts ++ [(msg, false)]) :
    cl'.accepted = cl.accepted ∧ cl'.dropped = cl.dropped ++ [msg] ∧
      cl'.reached = cl.reached ++ [msg] := by
  simp [Client.accepted, Client.dropped, Client.reached, h]

theorem attempts_congr {cl cl' : Client} (h : cl'.attempts = cl.attempts) :
    cl'.accepted = cl.accepted ∧ cl'.dropped = cl.dropped ∧ cl'.reached = cl.reached := by
  simp only [Client.accepted, Client.dropped, Client.reached, h, and_self]

theorem accepted_sublist_reached (cl : Client) : cl.accepted.Sublist cl.reached :=
  List.filter_sublist.map _

/-- Without a drop, everything tried was accepted. -/
theorem accepted_eq_reached {cl : Client} (h : cl.dropped = []) : cl.accepted = cl.reached := by
  have hall : ∀ p ∈ cl.attempts, p.2 = true := by
    intro p hp
    by_contra hne
    rw [Client.dropped, List.map_eq_nil_iff, List.filter_eq_nil_iff] at h
    exact h p hp (by simpa using hne)
  rw [Client.accepted, List.filter_eq_self.mpr hall, Client.reached]

/-- With a drop, fewer messages were accepted than tried. -/
theorem accepted_length_lt {cl : Client} (h : cl.dropped ≠ []) :
    cl.accepted.length < cl.reached.length := by
  obtain ⟨msg, hmsg⟩ := List.exists_mem_of_ne_nil _ h
  obtain ⟨p, hp, -⟩ := List.mem_map.mp hmsg
  obtain ⟨hmem, hfalse⟩ := List.mem_filter.mp hp
  rw [Client.accepted, Client.reached, List.length_map, List.length_map]
  exact List.length_filter_lt_length_iff_exists.mpr ⟨p, hmem, by simpa using hfalse⟩

/-! ### The stream written to the connection -/

/-- The text frames among what was written. -/
def texts (frames : List Frame) : List Bytes :=
  frames.filterMap fun f => match f with
    | .text payload => some payload
    | _ => none

/-- The bytes of messages. -/
def payloads (messages : List RoomMessage) : List Bytes := messages.map (·.payload)

theorem texts_snoc_text (frames : List Frame) (payload : Bytes) :
    texts (frames ++ [.text payload]) = texts frames ++ [payload] := by
  rw [texts, List.filterMap_append]
  rfl

theorem texts_snoc_ping (frames : List Frame) : texts (frames ++ [.ping]) = texts frames := by
  rw [texts, List.filterMap_append]
  exact List.append_nil _

theorem texts_snoc_close (frames : List Frame) : texts (frames ++ [.close]) = texts frames := by
  rw [texts, List.filterMap_append]
  exact List.append_nil _

theorem payloads_snoc (messages : List RoomMessage) (msg : RoomMessage) :
    payloads (messages ++ [msg]) = payloads messages ++ [msg.payload] := by
  rw [payloads, List.map_append]
  rfl

/-- Where the payloads accepted so far are, by the state of the writer. -/
def Client.Flow (cl : Client) : Prop :=
  match cl.writePump with
  | .selecting =>
      payloads cl.accepted = texts cl.frames ++ payloads cl.send.buffer ∧ .close ∉ cl.frames
  | .writing (some msg) =>
      payloads cl.accepted = texts cl.frames ++ msg.payload :: payloads cl.send.buffer ∧
        .close ∉ cl.frames
  | .writing none =>
      payloads cl.accepted = texts cl.frames ∧ cl.send.closed = true ∧ .close ∉ cl.frames
  | .returned =>
      texts cl.frames <+: payloads cl.accepted ∧
        ∀ pre post, cl.frames = pre ++ .close :: post →
          post = [] ∧ texts pre = payloads cl.accepted ∧ cl.send.closed = true

/-- Changes that the flow does not see. -/
theorem Client.Flow.congr {cl cl' : Client} (h : cl.Flow) (hpc : cl'.writePump = cl.writePump)
    (hframes : cl'.frames = cl.frames) (hattempts : cl'.attempts = cl.attempts)
    (hbuffer : cl'.send.buffer = cl.send.buffer)
    (hclosed : cl.send.closed = true → cl'.send.closed = true) : cl'.Flow := by
  unfold Client.Flow at h ⊢
  rw [hpc, hframes, hbuffer, (attempts_congr hattempts).1]
  cases hw : cl.writePump with
  | selecting =>
      rw [hw] at h
      exact h
  | writing message =>
      rw [hw] at h
      cases message with
      | none => exact ⟨h.1, hclosed h.2.1, h.2.2⟩
      | some msg => exact h
  | returned =>
      rw [hw] at h
      refine ⟨h.1, fun pre post hp => ?_⟩
      obtain ⟨hpost, htexts, hc⟩ := h.2 pre post hp
      exact ⟨hpost, htexts, hclosed hc⟩

/-- The channel takes one more message: it goes behind everything accepted before. -/
theorem Client.Flow.accept {cl : Client} (h : cl.Flow) {msg : RoomMessage}
    {ch : Chan RoomMessage sendCapacity} (hsend : cl.send.trySend msg = .sent ch) :
    Client.Flow { cl with send := ch, attempts := cl.attempts ++ [(msg, true)] } := by
  obtain ⟨hopen, -, hbuffer, -⟩ := trySend_eq_sent hsend
  have hacc : Client.accepted { cl with send := ch, attempts := cl.attempts ++ [(msg, true)] }
      = cl.accepted ++ [msg] := (accepted_snoc_true rfl).1
  unfold Client.Flow at h ⊢
  rw [hacc, payloads_snoc]
  dsimp only
  cases hw : cl.writePump with
  | selecting =>
      rw [hw] at h
      refine ⟨?_, h.2⟩
      rw [h.1, hbuffer, payloads_snoc, List.append_assoc]
  | writing message =>
      rw [hw] at h
      cases message with
      | none =>
          obtain ⟨-, hclosed, -⟩ := h
          rw [hopen] at hclosed
          cases hclosed
      | some m =>
          refine ⟨?_, h.2⟩
          rw [h.1, hbuffer, payloads_snoc, List.append_assoc, List.cons_append]
  | returned =>
      rw [hw] at h
      refine ⟨h.1.trans (List.prefix_append _ _), fun pre post hp => ?_⟩
      obtain ⟨-, -, hclosed⟩ := h.2 pre post hp
      rw [hopen] at hclosed
      cases hclosed

theorem Client.Flow.receive {cl cl' : Client} (h : cl.Flow) (hs : cl.receive = some cl') :
    cl'.Flow := by
  obtain ⟨-, hpc, hcase⟩ := receive_eq_some hs
  unfold Client.Flow at h
  rw [hpc] at h
  obtain ⟨hacc, hclose⟩ := h
  rcases hcase with ⟨msg, ch, hrecv, rfl⟩ | ⟨hrecv, rfl⟩
  · refine ⟨?_, hclose⟩
    change payloads cl.accepted = texts cl.frames ++ msg.payload :: payloads ch.buffer
    rw [hacc, (recv_eq_value hrecv).1]
    rfl
  · obtain ⟨hempty, hclosed⟩ := recv_eq_closed hrecv
    refine ⟨?_, hclosed, hclose⟩
    change payloads cl.accepted = texts cl.frames
    rw [hacc, hempty]
    exact List.append_nil _

theorem Client.Flow.write {cl cl' : Client} {ok : Bool} (h : cl.Flow)
    (hs : cl.write ok = some cl') : cl'.Flow := by
  unfold Client.Flow at h
  obtain ⟨msg, hpc, ⟨-, rfl⟩ | ⟨-, rfl⟩⟩ | ⟨hpc, rfl⟩ := write_eq_some hs
  · -- the text frame is written
    rw [hpc] at h
    obtain ⟨hacc, hclose⟩ := h
    refine ⟨?_, by simpa using hclose⟩
    change payloads cl.accepted = texts (cl.frames ++ [.text msg.payload]) ++ payloads cl.send.buffer
    rw [hacc, texts_snoc_text, List.append_assoc, List.singleton_append]
  · -- the write fails and the pump returns: what was written stays a prefix
    rw [hpc] at h
    obtain ⟨hacc, hclose⟩ := h
    refine ⟨?_, fun pre post hp => ?_⟩
    · change texts cl.frames <+: payloads cl.accepted
      rw [hacc]
      exact List.prefix_append _ _
    · refine absurd ?_ hclose
      change cl.frames = pre ++ .close :: post at hp
      rw [hp]
      exact List.mem_append_right pre List.mem_cons_self
  · -- the close frame, if it gets through, comes last
    rw [hpc] at h
    obtain ⟨hacc, hclosed, hclose⟩ := h
    cases ok with
    | false =>
        refine ⟨?_, fun pre post hp => ?_⟩
        · change texts cl.frames <+: payloads cl.accepted
          rw [hacc]
        · refine absurd ?_ hclose
          change cl.frames = pre ++ .close :: post at hp
          rw [hp]
          exact List.mem_append_right pre List.mem_cons_self
    | true =>
        refine ⟨?_, fun pre post hp => ?_⟩
        · change texts (cl.frames ++ [.close]) <+: payloads cl.accepted
          rw [hacc, texts_snoc_close]
        · change cl.frames ++ [.close] = pre ++ .close :: post at hp
          have hpost : post = [] := by
            rcases List.eq_nil_or_concat post with hnil | ⟨rest, f, hf⟩
            · exact hnil
            · -- otherwise the first close frame would be among the frames written before
              rw [hf, List.concat_eq_append, ← List.cons_append, ← List.append_assoc] at hp
              refine absurd ?_ hclose
              rw [List.append_inj_left' hp rfl]
              exact List.mem_append_right pre List.mem_cons_self
          subst hpost
          exact ⟨rfl, by rw [← List.append_inj_left' hp rfl]; exact hacc.symm, hclosed⟩

theorem Client.Flow.ping {cl cl' : Client} {ok : Bool} (h : cl.Flow)
    (hs : cl.ping ok = some cl') : cl'.Flow := by
  obtain ⟨-, hpc, hcase⟩ := ping_eq_some hs
  unfold Client.Flow at h
  rw [hpc] at h
  obtain ⟨hacc, hclose⟩ := h
  rcases hcase with rfl | rfl
  · unfold Client.Flow
    dsimp only
    rw [hpc]
    refine ⟨?_, by simpa using hclose⟩
    rw [texts_snoc_ping]
    exact hacc
  · refine ⟨?_, fun pre post hp => ?_⟩
    · change texts cl.frames <+: payloads cl.accepted
      rw [hacc]
      exact List.prefix_append _ _
    · refine absurd ?_ hclose
      change cl.frames = pre ++ .close :: post at hp
      rw [hp]
      exact List.mem_append_right pre List.mem_cons_self

/-- Every pump action keeps the flow. -/
theorem Client.Flow.pump {cl cl' : Client} (h : cl.Flow) (hp : Pump cl cl') : cl'.Flow := by
  cases hp with
  | readError hs =>
      obtain ⟨-, rfl⟩ := readError_eq_some hs
      exact h.congr rfl rfl rfl rfl id
  | closeConn hs =>
      obtain ⟨-, rfl⟩ := closeConn_eq_some hs
      exact h.congr rfl rfl rfl rfl id
  | receive hs => exact h.receive hs
  | write hs => exact h.write hs
  | ping hs => exact h.ping hs

/-- What reached the connection as text is a prefix of what was accepted. -/
theorem Client.Flow.texts_prefix {cl : Client} (h : cl.Flow) :
    texts cl.frames <+: payloads cl.accepted := by
  unfold Client.Flow at h
  split at h
  · exact h.1 ▸ List.prefix_append _ _
  · exact h.1 ▸ List.prefix_append _ _
  · exact h.1 ▸ List.prefix_rfl
  · exact h.1

/-- A close frame is the last frame, written after everything accepted. -/
theorem Client.Flow.close_last {cl : Client} (h : cl.Flow) {pre post : List Frame}
    (hf : cl.frames = pre ++ .close :: post) :
    post = [] ∧ texts pre = payloads cl.accepted := by
  have hmem : Frame.close ∈ cl.frames := by
    rw [hf]
    exact List.mem_append_right pre List.mem_cons_self
  unfold Client.Flow at h
  split at h
  · exact absurd hmem h.2
  · exact absurd hmem h.2
  · exact absurd hmem h.2.2
  · exact ⟨(h.2 pre post hf).1, (h.2 pre post hf).2.1⟩

/-! ### The invariant -/

structure Mailbox.Inv (m : Mailbox) : Prop where
  idle : m.client.stage ≠ .registered → m.client =
      { Client.fresh m.client.teamID with stage := m.client.stage } ∧
    m.offered = [] ∧ m.due = none
  account : m.client.reached ++ m.due.toList = m.offered
  team : ∀ msg ∈ m.offered, msg.teamID = m.client.teamID
  evicting : m.client.dropped ≠ [] → m.client.send.closed = false → 0 < m.client.evictions
  evicted : 0 < m.client.evictions → m.client.dropped ≠ []
  flow : m.client.Flow

theorem Client.fresh_flow (teamID : Int) (stage : Stage) :
    Client.Flow { Client.fresh teamID with stage := stage } :=
  ⟨rfl, List.not_mem_nil⟩

theorem Mailbox.Inv.fresh (teamID : Int) (stage : Stage) :
    Mailbox.Inv ⟨{ Client.fresh teamID with stage := stage }, [], none⟩ where
  idle := fun _ => ⟨rfl, rfl, rfl⟩
  account := rfl
  team := fun _ h => absurd h List.not_mem_nil
  evicting := fun h => absurd rfl h
  evicted := fun h => absurd h (Nat.lt_irrefl 0)
  flow := Client.fresh_flow teamID stage

theorem State.initial_mailbox (c : ClientId) :
    State.initial.mailbox c = ⟨{ Client.fresh 0 with stage := .absent }, [], none⟩ := rfl

/-- A pump leaves the attempts and the evictions alone. -/
theorem Pump.keeps {cl cl' : Client} (h : Pump cl cl') :
    cl'.attempts = cl.attempts ∧ cl'.evictions = cl.evictions := by
  cases h with
  | readError h =>
      obtain ⟨-, rfl⟩ := readError_eq_some h
      exact ⟨rfl, rfl⟩
  | closeConn h =>
      obtain ⟨-, rfl⟩ := closeConn_eq_some h
      exact ⟨rfl, rfl⟩
  | receive h =>
      obtain ⟨-, -, ⟨msg, ch, -, rfl⟩ | ⟨-, rfl⟩⟩ := receive_eq_some h
      · exact ⟨rfl, rfl⟩
      · exact ⟨rfl, rfl⟩
  | write h =>
      obtain ⟨msg, -, ⟨-, rfl⟩ | ⟨-, rfl⟩⟩ | ⟨-, rfl⟩ := write_eq_some h
      · exact ⟨rfl, rfl⟩
      · exact ⟨rfl, rfl⟩
      · exact ⟨rfl, rfl⟩
  | ping h =>
      obtain ⟨-, -, rfl | rfl⟩ := ping_eq_some h
      · exact ⟨rfl, rfl⟩
      · exact ⟨rfl, rfl⟩

theorem takeUnregister_evictions {cl cl' : Client} {sender : Unregister}
    (h : cl.takeUnregister sender = some cl') : cl'.evictions ≤ cl.evictions := by
  cases sender with
  | eviction =>
      simp only [Client.takeUnregister] at h
      split at h
      · cases h
        exact Nat.sub_le _ _
      · cases h
  | readPump =>
      simp only [Client.takeUnregister] at h
      split at h
      · cases h
        exact le_rfl
      · cases h

/-! ### Every step keeps it -/

/-- The hub takes an unregister request: the account stands, and the channel is closed. -/
theorem Mailbox.Inv.unregister {m : Mailbox} {cl : Client} {sender : Unregister}
    {ch : Chan RoomMessage sendCapacity} (h : m.Inv)
    (htake : m.client.takeUnregister sender = some cl) (hclosed : ch.closed = true)
    (hbuffer : ch.buffer = cl.send.buffer) :
    Mailbox.Inv { m with client := { cl with send := ch } } := by
  obtain ⟨hreq, hteam, hstage, hsend, hpc, hframes, hattempts⟩ := takeUnregister_eq_some htake
  obtain ⟨hacc, hdrop, hreach⟩ := attempts_congr hattempts
  refine ⟨?_, ?_, ?_, ?_, ?_, ?_⟩
  · -- an unregister request only comes from a registered client
    intro hne
    have hfresh := (h.idle (by rw [← hstage]; exact hne)).1
    rcases hreq with hpos | hread
    · rw [hfresh] at hpos
      exact absurd hpos (Nat.lt_irrefl 0)
    · rw [hfresh] at hread
      cases hread
  · show cl.reached ++ m.due.toList = m.offered
    rw [hreach]
    exact h.account
  · intro msg hmsg
    exact (h.team msg hmsg).trans hteam.symm
  · intro _ hopen
    exact absurd (hclosed.symm.trans hopen) Bool.noConfusion
  · intro hpos
    show cl.dropped ≠ []
    rw [hdrop]
    have hle : cl.evictions ≤ m.client.evictions := takeUnregister_evictions htake
    exact h.evicted (lt_of_lt_of_le hpos hle)
  · refine h.flow.congr hpc hframes hattempts ?_ fun _ => hclosed
    exact hbuffer.trans (congrArg Chan.buffer hsend)

/-- A message is offered to a member. -/
theorem Mailbox.Inv.offer {m : Mailbox} {msg : RoomMessage} (h : m.Inv) (hdue : m.due = none)
    (hreg : m.client.stage = .registered) (hteam : msg.teamID = m.client.teamID) :
    Mailbox.Inv { m with offered := m.offered ++ [msg], due := some msg } := by
  refine ⟨fun hne => absurd hreg hne, ?_, ?_, h.evicting, h.evicted, h.flow⟩
  · have haccount := h.account
    rw [hdue] at haccount
    show m.client.reached ++ [msg] = m.offered ++ [msg]
    rw [← haccount]
    exact congrArg (· ++ [msg]) (List.append_nil _).symm
  · intro m' hm'
    rcases List.mem_append.mp hm' with hold | hnew
    · exact h.team m' hold
    · rw [List.mem_singleton.mp hnew]
      exact hteam

/-- The range loop reaches the client: the message due is accepted, or dropped with a request for
the client's removal. -/
theorem Mailbox.Inv.visit {m : Mailbox} {msg : RoomMessage} {cl : Client} (h : m.Inv)
    (hdue : m.due = some msg) (hvisit : Visit msg m.client cl) :
    Mailbox.Inv { m with client := cl, due := none } := by
  have hreg : m.client.stage = .registered := by
    by_contra hne
    rw [(h.idle hne).2.2] at hdue
    cases hdue
  have haccount := h.account
  rw [hdue] at haccount
  cases hvisit with
  | @sent ch hsend =>
      have hattempts : Client.attempts { m.client with
          send := ch, attempts := m.client.attempts ++ [(msg, true)] } =
        m.client.attempts ++ [(msg, true)] := rfl
      obtain ⟨-, hdrop, hreach⟩ := accepted_snoc_true hattempts
      refine ⟨fun hne => absurd hreg hne, ?_, h.team, ?_, ?_, h.flow.accept hsend⟩
      · rw [hreach]
        exact (List.append_nil _).trans haccount
      · intro hne _
        rw [hdrop] at hne
        exact h.evicting hne (trySend_eq_sent hsend).1
      · intro hpos
        rw [hdrop]
        exact h.evicted hpos
  | full hsend =>
      have hattempts : Client.attempts { m.client with
          evictions := m.client.evictions + 1
          attempts := m.client.attempts ++ [(msg, false)] } =
        m.client.attempts ++ [(msg, false)] := rfl
      obtain ⟨hacc, hdrop, hreach⟩ := accepted_snoc_false hattempts
      refine ⟨fun hne => absurd hreg hne, ?_, h.team, ?_, ?_, ?_⟩
      · rw [hreach]
        exact (List.append_nil _).trans haccount
      · exact fun _ _ => Nat.succ_pos _
      · intro _
        rw [hdrop]
        exact List.append_ne_nil_of_right_ne_nil _ (List.cons_ne_nil msg [])
      · have hflow := h.flow
        unfold Client.Flow at hflow ⊢
        rw [hacc]
        exact hflow

theorem Mailbox.Inv.pump {m : Mailbox} {cl : Client} (h : m.Inv)
    (hreg : m.client.stage = .registered) (hpump : Pump m.client cl) :
    Mailbox.Inv { m with client := cl } := by
  obtain ⟨hteam, hstage, hclosed⟩ := hpump.same
  obtain ⟨hattempts, hev⟩ := hpump.keeps
  obtain ⟨-, hdrop, hreach⟩ := attempts_congr hattempts
  refine ⟨fun hne => absurd (hstage.trans hreg) hne, ?_, ?_, ?_, ?_, h.flow.pump hpump⟩
  · show cl.reached ++ m.due.toList = m.offered
    rw [hreach]
    exact h.account
  · intro msg hmsg
    exact (h.team msg hmsg).trans hteam.symm
  · intro hne hopen
    show 0 < cl.evictions
    rw [hev]
    exact h.evicting (hdrop ▸ hne) (hclosed ▸ hopen)
  · intro hpos
    show cl.dropped ≠ []
    rw [hdrop]
    exact h.evicted (hev ▸ hpos)

/-- **Every mailbox step keeps the invariant.** -/
theorem Mailbox.Inv.step {m m' : Mailbox} (h : m.Inv) (hs : m.Step m') : m'.Inv := by
  cases hs with
  | serve habsent => exact Mailbox.Inv.fresh _ _
  | register hstage =>
      refine ⟨fun hne => absurd rfl hne, h.account, h.team, h.evicting, h.evicted, ?_⟩
      exact h.flow.congr rfl rfl rfl rfl id
  | unregister hdue htake hclosed hbuffer => exact h.unregister htake hclosed hbuffer
  | offer hdue hreg hopen hteam => exact h.offer hdue hreg hteam
  | visit hdue hvisit => exact h.visit hdue hvisit
  | pump hreg hpump => exact h.pump hreg hpump

/-! ### Every client of every run -/

/-- The invariants of the hub and of every mailbox together. -/
structure Inv (s : State) : Prop where
  table : Table s
  logged : Logged s
  mailbox : ∀ c, (s.mailbox c).Inv

theorem Inv.initial : Inv State.initial where
  table := Table.initial
  logged := Logged.initial
  mailbox := fun c => by
    rw [State.initial_mailbox]
    exact Mailbox.Inv.fresh 0 .absent

variable {δ : Type*} {codec : EventCodec δ}

theorem Inv.step {s t : State} {a : Action} (h : Inv s) (hs : step codec s a = some t) :
    Inv t where
  table := h.table.step hs
  logged := h.logged.step h.table hs
  mailbox := fun c => by
    rcases step_mailbox h.table h.logged hs c with heq | hstep
    · rw [heq]
      exact h.mailbox c
    · exact (h.mailbox c).step hstep

/-- **Every client of every reachable state has the mailbox invariant.** -/
theorem inv_run {as : List Action} {s : State} (h : run codec as = some s) : Inv s :=
  Runs.invariant_run (Chat.step codec) (fun _ _ _ => Inv.step) Inv.initial h

end SocketServer.Chat

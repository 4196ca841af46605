import SocketServer.Collaboration.Observability
import SocketServer.Collaboration.Server
import SocketServer.Library.Runs
import Mathlib.Data.List.Induction

/-!
# The identity tables

`CollaborationObservability` keeps two tables by identity: how many sessions are open, and when the
last of them was closed, for the identities of the last five minutes and at most 10,000 of them.

`Sessions` says what the tables are for: the number of open sessions of every identity and the
moment of its last disconnection, with no bound on either.  A session is closed there only if it is
open, so a run of `Sessions` is a sequence of calls in which each `disconnected` matches an earlier
`authenticated`.

* `tracks_call`: one call keeps the tables in step with `Sessions`, whatever the clock says;
* `inOrder_call`: with a clock that does not go back, the recent disconnects stay in time order;
* `identity_tables_consistent`: what follows for every sequence of calls.
-/

namespace SocketServer.Collaboration

open SocketServer.Text SocketServer.Js

/-! ### Sessions -/

/-- The sessions of each identity: how many are open, and when the last open one was closed. -/
structure Sessions (ι : Type*) where
  opened : ι → ℕ
  closedAt : ι → Option ℤ

inductive SessionEvent (ι : Type*) where
  | opens (identity : ι)
  | closes (identity : ι) (time : ℤ)

variable {ι : Type*} [DecidableEq ι]

namespace Sessions

def initial : Sessions ι := ⟨fun _ => 0, fun _ => none⟩

def setOpened (s : Sessions ι) (identity : ι) (n : ℕ) : Sessions ι :=
  { s with opened := Function.update s.opened identity n }

def setClosedAt (s : Sessions ι) (identity : ι) (time : ℤ) : Sessions ι :=
  { s with closedAt := Function.update s.closedAt identity (some time) }

/-- Only an open session is closed. -/
def step (s : Sessions ι) : SessionEvent ι → Option (Sessions ι)
  | .opens identity => some (s.setOpened identity (s.opened identity + 1))
  | .closes identity time =>
      if s.opened identity = 0 then none
      else if s.opened identity = 1 then some ((s.setOpened identity 0).setClosedAt identity time)
      else some (s.setOpened identity (s.opened identity - 1))

variable (s : Sessions ι) (identity other : ι) (n : ℕ) (time : ℤ)

@[simp] theorem opened_setOpened :
    (s.setOpened identity n).opened other = if other = identity then n else s.opened other :=
  Function.update_apply s.opened identity n other

@[simp] theorem closedAt_setOpened : (s.setOpened identity n).closedAt = s.closedAt := rfl

@[simp] theorem opened_setClosedAt : (s.setClosedAt identity time).opened = s.opened := rfl

@[simp] theorem closedAt_setClosedAt : (s.setClosedAt identity time).closedAt other =
    if other = identity then some time else s.closedAt other :=
  Function.update_apply s.closedAt identity (some time) other

variable {s identity time}

/-- What a matched disconnection does. -/
theorem closes_eq_some {s' : Sessions ι} (h : s.step (.closes identity time) = some s') :
    (s.opened identity = 1 ∧ s' = (s.setOpened identity 0).setClosedAt identity time) ∨
      (1 < s.opened identity ∧ s' = s.setOpened identity (s.opened identity - 1)) := by
  rw [step] at h
  split at h
  · cases h
  · split at h
    · rename_i hlast
      exact Or.inl ⟨hlast, (Option.some.inj h).symm⟩
    · exact Or.inr ⟨by omega, (Option.some.inj h).symm⟩

end Sessions

/-! ### Calls -/

/-- A call of one of the two methods, with the times that it reads from the clock. -/
inductive SessionCall where
  | authenticated (claims : DocumentTicketClaims) (now : ℤ)
  | disconnected (claims : DocumentTicketClaims) (disconnectedAt now : ℤ)

namespace SessionCall

def identity : SessionCall → JsString
  | .authenticated claims _ => editingIdentity claims
  | .disconnected claims _ _ => editingIdentity claims

def readings : SessionCall → List ℤ
  | .authenticated _ now => [now]
  | .disconnected _ disconnectedAt now => [disconnectedAt, now]

def event : SessionCall → SessionEvent JsString
  | .authenticated claims _ => .opens (editingIdentity claims)
  | .disconnected claims disconnectedAt _ => .closes (editingIdentity claims) disconnectedAt

end SessionCall

def CollaborationObservability.call (o : CollaborationObservability) :
    SessionCall → CollaborationObservability
  | .authenticated claims now => o.authenticated claims now
  | .disconnected claims disconnectedAt now => o.disconnected claims disconnectedAt now

/-- The object after some calls. -/
def observe (calls : List SessionCall) : CollaborationObservability :=
  calls.foldl CollaborationObservability.call .initial

/-- The sessions after the same calls; there are none when a `disconnected` matches nothing. -/
def sessionsAfter (calls : List SessionCall) : Option (Sessions JsString) :=
  Runs.run Sessions.step .initial (calls.map SessionCall.event)

/-- What the calls read from the clock, in order. -/
def readingsOf (calls : List SessionCall) : List ℤ := calls.flatMap SessionCall.readings

theorem observe_snoc (calls : List SessionCall) (c : SessionCall) :
    observe (calls ++ [c]) = (observe calls).call c := by
  rw [observe, List.foldl_append]
  rfl

theorem sessionsAfter_snoc {calls : List SessionCall} {c : SessionCall} {s' : Sessions JsString} :
    sessionsAfter (calls ++ [c]) = some s' ↔
      ∃ s, sessionsAfter calls = some s ∧ s.step c.event = some s' := by
  rw [sessionsAfter, List.map_append]
  exact Runs.run_snoc_eq_some Sessions.step

theorem readingsOf_snoc (calls : List SessionCall) (c : SessionCall) :
    readingsOf (calls ++ [c]) = readingsOf calls ++ c.readings := by
  rw [readingsOf, List.flatMap_append, List.flatMap_singleton]
  rfl

/-! ### The capacity -/

/-- **One call** leaves at most 10,000 recent disconnects. -/
theorem capacity_call {o : CollaborationObservability} (h : o.recentDisconnects.length ≤ 10000)
    (c : SessionCall) : (o.call c).recentDisconnects.length ≤ 10000 := by
  cases c with
  | authenticated claims now =>
      have hexpired := expireFrom_length (now - 5 * 60000) o.recentDisconnects
      have hdeleted := (JsMap.delete_sublist (expireFrom (now - 5 * 60000) o.recentDisconnects)
        (editingIdentity claims)).length_le
      rw [CollaborationObservability.call, CollaborationObservability.authenticated]
      dsimp only
      split
      · split
        · exact hdeleted.trans hexpired
        · exact hdeleted.trans hexpired
      · exact hexpired
  | disconnected claims disconnectedAt now =>
      rw [CollaborationObservability.call, CollaborationObservability.disconnected]
      dsimp only
      split
      · exact expireFrom_length _ _
      · exact h

theorem capacity_observe (calls : List SessionCall) :
    (observe calls).recentDisconnects.length ≤ 10000 := by
  induction calls using List.reverseRecOn with
  | nil => exact Nat.zero_le _
  | append_singleton calls c ih =>
      rw [observe_snoc]
      exact capacity_call ih c

/-! ### The tables follow the sessions -/

/-- The tables are those of the sessions: an identity is active with the number of its open sessions,
and recently disconnected only when it has none. -/
structure CollaborationObservability.Tracks (o : CollaborationObservability)
    (s : Sessions JsString) : Prop where
  active : ∀ identity, JsMap.get o.activeIdentities identity =
    if s.opened identity = 0 then none else some (s.opened identity)
  activeDistinct : JsMap.Distinct o.activeIdentities
  recentDistinct : JsMap.Distinct o.recentDisconnects
  apart : ∀ identity ∈ JsMap.keys o.recentDisconnects, s.opened identity = 0

theorem tracks_initial : CollaborationObservability.initial.Tracks .initial where
  active _ := rfl
  activeDistinct := List.nodup_nil
  recentDistinct := List.nodup_nil
  apart _ h := absurd h List.not_mem_nil

section Tracking

variable {o : CollaborationObservability} {s s' : Sessions JsString} {claims : DocumentTicketClaims}

theorem CollaborationObservability.Tracks.count (h : o.Tracks s) (identity : JsString) :
    (JsMap.get o.activeIdentities identity).getD 0 = s.opened identity := by
  rw [h.active identity]
  split
  · rename_i hnone
    exact hnone.symm
  · rfl

/-- An identity with open sessions has no entry among the recent disconnects. -/
theorem CollaborationObservability.Tracks.absent (h : o.Tracks s) {identity : JsString}
    (hopen : 0 < s.opened identity) : identity ∉ JsMap.keys o.recentDisconnects := by
  intro hmem
  have hnone := h.apart identity hmem
  omega

/-- The table with the entry of such an identity at its end. -/
theorem CollaborationObservability.Tracks.snoc (h : o.Tracks s) {identity : JsString}
    (hopen : 0 < s.opened identity) (time : ℤ) :
    JsMap.Distinct (o.recentDisconnects ++ [(identity, time)]) ∧
      ∀ other, other ∈ JsMap.keys (o.recentDisconnects ++ [(identity, time)]) ↔
        other = identity ∨ other ∈ JsMap.keys o.recentDisconnects := by
  rw [← JsMap.set_of_notMem (h.absent hopen)]
  exact ⟨JsMap.distinct_set h.recentDistinct _ _, fun _ => JsMap.mem_keys_set⟩

/-- What `expireReconnects` leaves has the keys of before. -/
theorem keys_expireFrom {cutoff : ℤ} {table : JsMap JsString ℤ} {identity : JsString}
    (h : identity ∈ JsMap.keys (expireFrom cutoff table)) : identity ∈ JsMap.keys table := by
  obtain ⟨time, hmem⟩ := JsMap.mem_keys.mp h
  exact JsMap.mem_keys_of_mem ((expireFrom_suffix cutoff table).subset hmem)

/-- The entry of an identity that comes back is taken out; one with open sessions has none. -/
theorem recent_authenticated (h : o.Tracks s) (now : ℤ) :
    (o.authenticated claims now).recentDisconnects =
      JsMap.delete (expireFrom (now - 5 * 60000) o.recentDisconnects) (editingIdentity claims) := by
  rw [CollaborationObservability.authenticated]
  dsimp only
  rw [h.count]
  split
  · split
    · rfl
    · rfl
  · rename_i hopen
    have habsent : editingIdentity claims ∉
        JsMap.keys (expireFrom (now - 5 * 60000) o.recentDisconnects) :=
      fun hmem => hopen (h.apart _ (keys_expireFrom hmem))
    rw [JsMap.delete_of_notMem habsent]
    rfl

theorem active_authenticated (h : o.Tracks s) (now : ℤ) :
    (o.authenticated claims now).activeIdentities =
      JsMap.set o.activeIdentities (editingIdentity claims)
        (s.opened (editingIdentity claims) + 1) := by
  rw [CollaborationObservability.authenticated]
  dsimp only
  rw [h.count]
  split
  · split
    · rfl
    · rfl
  · rfl

/-- The last session of an identity is closed: its entry goes to the end of the table. -/
theorem disconnected_last (h : o.Tracks s) (hlast : s.opened (editingIdentity claims) = 1)
    (disconnectedAt now : ℤ) :
    o.disconnected claims disconnectedAt now =
      { o with
        activeIdentities := JsMap.delete o.activeIdentities (editingIdentity claims)
        recentDisconnects := expireFrom (now - 5 * 60000)
          (o.recentDisconnects ++ [(editingIdentity claims, disconnectedAt)]) } := by
  have habsent : editingIdentity claims ∉ JsMap.keys o.recentDisconnects := h.absent (by omega)
  rw [CollaborationObservability.disconnected]
  dsimp only
  rw [h.count, if_pos (le_of_eq hlast), JsMap.set_of_notMem habsent]
  rfl

/-- Other sessions of the identity stay open. -/
theorem disconnected_other (h : o.Tracks s) (hmore : 1 < s.opened (editingIdentity claims))
    (disconnectedAt now : ℤ) :
    o.disconnected claims disconnectedAt now =
      { o with
        activeIdentities := JsMap.set o.activeIdentities (editingIdentity claims)
          (s.opened (editingIdentity claims) - 1) } := by
  rw [CollaborationObservability.disconnected]
  dsimp only
  rw [h.count, if_neg (not_le.mpr hmore)]

theorem tracks_authenticated (h : o.Tracks s) (now : ℤ) :
    (o.authenticated claims now).Tracks
      (s.setOpened (editingIdentity claims) (s.opened (editingIdentity claims) + 1)) := by
  have hexpired : JsMap.Distinct (expireFrom (now - 5 * 60000) o.recentDisconnects) :=
    h.recentDistinct.sublist (expireFrom_suffix _ _).sublist
  constructor
  · intro identity
    rw [active_authenticated h, JsMap.get_set, Sessions.opened_setOpened]
    split
    · rw [if_neg (Nat.succ_ne_zero _)]
    · exact h.active identity
  · rw [active_authenticated h]
    exact JsMap.distinct_set h.activeDistinct _ _
  · rw [recent_authenticated h]
    exact hexpired.sublist (JsMap.delete_sublist _ _)
  · intro identity hmem
    rw [recent_authenticated h] at hmem
    obtain ⟨time, hentry⟩ := JsMap.mem_keys.mp hmem
    obtain ⟨hold, hother⟩ := (JsMap.mem_delete hexpired).mp hentry
    rw [Sessions.opened_setOpened, if_neg hother]
    exact h.apart identity (keys_expireFrom (JsMap.mem_keys_of_mem hold))

theorem tracks_disconnected (h : o.Tracks s) {disconnectedAt : ℤ} (now : ℤ)
    (hstep : s.step (.closes (editingIdentity claims) disconnectedAt) = some s') :
    (o.disconnected claims disconnectedAt now).Tracks s' := by
  rcases Sessions.closes_eq_some hstep with ⟨hlast, rfl⟩ | ⟨hmore, rfl⟩
  · obtain ⟨hlonger, hkeys⟩ :=
      h.snoc (Nat.lt_of_lt_of_eq Nat.one_pos hlast.symm) disconnectedAt
    rw [disconnected_last h hlast]
    constructor
    · intro identity
      rw [JsMap.get_delete h.activeDistinct, Sessions.opened_setClosedAt, Sessions.opened_setOpened]
      split
      · rw [if_pos rfl]
      · exact h.active identity
    · exact h.activeDistinct.sublist (JsMap.delete_sublist _ _)
    · exact hlonger.sublist (expireFrom_suffix _ _).sublist
    · intro identity hmem
      have hold := (hkeys identity).mp (keys_expireFrom hmem)
      rw [Sessions.opened_setClosedAt, Sessions.opened_setOpened]
      split
      · rfl
      · rename_i hother
        exact h.apart identity (hold.resolve_left hother)
  · rw [disconnected_other h hmore]
    constructor
    · intro identity
      rw [JsMap.get_set, Sessions.opened_setOpened]
      split
      · rw [if_neg (by omega)]
      · exact h.active identity
    · exact JsMap.distinct_set h.activeDistinct _ _
    · exact h.recentDistinct
    · intro identity hmem
      rw [Sessions.opened_setOpened]
      split
      · rename_i hsame
        rw [hsame] at hmem
        exact absurd hmem (h.absent (by omega))
      · exact h.apart identity hmem

/-- **One call** keeps the tables in step with the sessions. -/
theorem tracks_call {c : SessionCall} (h : o.Tracks s) (hstep : s.step c.event = some s') :
    (o.call c).Tracks s' := by
  cases c with
  | authenticated claims now =>
      cases hstep
      exact tracks_authenticated h now
  | disconnected claims disconnectedAt now => exact tracks_disconnected h now hstep

theorem tracks_observe {calls : List SessionCall} (h : sessionsAfter calls = some s) :
    (observe calls).Tracks s := by
  induction calls using List.reverseRecOn generalizing s with
  | nil =>
      cases h
      exact tracks_initial
  | append_singleton calls c ih =>
      obtain ⟨t, hbefore, hstep⟩ := sessionsAfter_snoc.mp h
      rw [observe_snoc]
      exact tracks_call (ih hbefore) hstep

end Tracking

/-! ### Time order -/

/-- A table in time order, with times that were read from the clock. -/
structure InOrder (table : JsMap JsString ℤ) (readings : List ℤ) : Prop where
  sorted : table.Pairwise fun e e' => e.2 ≤ e'.2
  read : ∀ e ∈ table, e.2 ∈ readings

theorem InOrder.sublist {table table' : JsMap JsString ℤ} {readings : List ℤ}
    (h : InOrder table readings) (hsub : table'.Sublist table) : InOrder table' readings :=
  ⟨h.sorted.sublist hsub, fun e he => h.read e (hsub.subset he)⟩

theorem InOrder.later {table : JsMap JsString ℤ} {readings : List ℤ} (h : InOrder table readings)
    (more : List ℤ) : InOrder table (readings ++ more) :=
  ⟨h.sorted, fun e he => List.mem_append_left more (h.read e he)⟩

/-- An entry with the latest time goes to the end. -/
theorem InOrder.snoc {table : JsMap JsString ℤ} {readings more : List ℤ}
    (h : InOrder table readings) {identity : JsString} {time : ℤ} (hread : time ∈ more)
    (hclock : (readings ++ more).Pairwise (· ≤ ·)) :
    InOrder (table ++ [(identity, time)]) (readings ++ more) := by
  obtain ⟨-, -, hlater⟩ := List.pairwise_append.mp hclock
  constructor
  · refine List.pairwise_append.mpr ⟨h.sorted, List.pairwise_singleton _ _, fun e he e' he' => ?_⟩
    rw [List.mem_singleton.mp he']
    exact hlater e.2 (h.read e he) time hread
  · intro e he
    rcases List.mem_append.mp he with hold | hnew
    · exact List.mem_append_left more (h.read e hold)
    · rw [List.mem_singleton.mp hnew]
      exact List.mem_append_right readings hread

section Order

variable {o : CollaborationObservability} {s s' : Sessions JsString} {readings : List ℤ}

/-- **One call** under a clock that does not go back. -/
theorem inOrder_call {c : SessionCall} (htracks : o.Tracks s)
    (h : InOrder o.recentDisconnects readings) (hstep : s.step c.event = some s')
    (hclock : (readings ++ c.readings).Pairwise (· ≤ ·)) :
    InOrder (o.call c).recentDisconnects (readings ++ c.readings) := by
  cases c with
  | authenticated claims now =>
      show InOrder (o.authenticated claims now).recentDisconnects _
      rw [recent_authenticated htracks]
      exact ((h.sublist (expireFrom_suffix _ _).sublist).sublist (JsMap.delete_sublist _ _)).later _
  | disconnected claims disconnectedAt now =>
      show InOrder (o.disconnected claims disconnectedAt now).recentDisconnects _
      rcases Sessions.closes_eq_some hstep with ⟨hlast, -⟩ | ⟨hmore, -⟩
      · rw [disconnected_last htracks hlast]
        exact (h.snoc List.mem_cons_self hclock).sublist (expireFrom_suffix _ _).sublist
      · rw [disconnected_other htracks hmore]
        exact h.later _

theorem inOrder_observe {calls : List SessionCall} (hmatched : sessionsAfter calls = some s)
    (hclock : (readingsOf calls).Pairwise (· ≤ ·)) :
    InOrder (observe calls).recentDisconnects (readingsOf calls) := by
  induction calls using List.reverseRecOn generalizing s with
  | nil => exact ⟨List.Pairwise.nil, fun e he => absurd he List.not_mem_nil⟩
  | append_singleton calls c ih =>
      obtain ⟨t, hbefore, hstep⟩ := sessionsAfter_snoc.mp hmatched
      rw [readingsOf_snoc] at hclock ⊢
      rw [observe_snoc]
      exact inOrder_call (tracks_observe hbefore) (ih hbefore (List.pairwise_append.mp hclock).1)
        hstep hclock

/-! ### Expiry -/

/-- The object on which a call runs `expireReconnects`, and the time of it, if it does. -/
def CollaborationObservability.beforeExpiry (o : CollaborationObservability) :
    SessionCall → Option (CollaborationObservability × ℤ)
  | .authenticated _ now => some (o, now)
  | .disconnected claims disconnectedAt now =>
      if (JsMap.get o.activeIdentities (editingIdentity claims)).getD 0 ≤ 1 then
        some ({ o with
          activeIdentities := JsMap.delete o.activeIdentities (editingIdentity claims)
          recentDisconnects :=
            JsMap.set o.recentDisconnects (editingIdentity claims) disconnectedAt }, now)
      else none

/-- What a call does after the expiry, in terms of the object before the call. -/
def CollaborationObservability.afterExpiry (before expired : CollaborationObservability) :
    SessionCall → CollaborationObservability
  | .authenticated claims _ =>
      let identity := editingIdentity claims
      let active := (JsMap.get before.activeIdentities identity).getD 0
      let o :=
        if active = 0 then
          let o' := { expired with
            recentDisconnects := JsMap.delete expired.recentDisconnects identity }
          if JsMap.has expired.recentDisconnects identity then o'.increment .reconnects else o'
        else expired
      { o with activeIdentities := JsMap.set o.activeIdentities identity (active + 1) }
  | .disconnected .. => expired

/-- **A call is its expiry** with what comes before and after it. -/
theorem call_eq_afterExpiry {c : SessionCall} {o' : CollaborationObservability} {now : ℤ}
    (h : o.beforeExpiry c = some (o', now)) :
    o.call c = o.afterExpiry (o'.expireReconnects now) c := by
  cases c with
  | authenticated claims now' =>
      cases h
      rfl
  | disconnected claims disconnectedAt now' =>
      rw [CollaborationObservability.beforeExpiry] at h
      split at h
      · rename_i hlast
        cases h
        exact if_pos hlast
      · cases h

/-- A call without one leaves the recent disconnects alone. -/
theorem call_of_no_expiry {c : SessionCall} (h : o.beforeExpiry c = none) :
    (o.call c).recentDisconnects = o.recentDisconnects := by
  cases c with
  | authenticated claims now => cases h
  | disconnected claims disconnectedAt now =>
      rw [CollaborationObservability.beforeExpiry] at h
      split at h
      · cases h
      · rename_i hmore
        rw [CollaborationObservability.call, CollaborationObservability.disconnected]
        dsimp only
        rw [if_neg hmore]

/-- The table is in time order there, too. -/
theorem inOrder_beforeExpiry {c : SessionCall} {o' : CollaborationObservability} {now : ℤ}
    (htracks : o.Tracks s) (h : InOrder o.recentDisconnects readings)
    (hstep : s.step c.event = some s') (hclock : (readings ++ c.readings).Pairwise (· ≤ ·))
    (hexpiry : o.beforeExpiry c = some (o', now)) :
    InOrder o'.recentDisconnects (readings ++ c.readings) := by
  cases c with
  | authenticated claims now' =>
      cases hexpiry
      exact h.later _
  | disconnected claims disconnectedAt now' =>
      rw [CollaborationObservability.beforeExpiry, htracks.count] at hexpiry
      rcases Sessions.closes_eq_some hstep with ⟨hlast, -⟩ | ⟨hmore, -⟩
      · rw [if_pos (le_of_eq hlast), JsMap.set_of_notMem (htracks.absent (by omega))] at hexpiry
        cases hexpiry
        exact h.snoc List.mem_cons_self hclock
      · rw [if_neg (not_le.mpr hmore)] at hexpiry
        cases hexpiry

/-- From a table in time order expiry takes the oldest entries. -/
theorem le_of_expired {cutoff : ℤ} {table : JsMap JsString ℤ} {entry rest : JsString × ℤ}
    (hsorted : table.Pairwise fun e e' => e.2 ≤ e'.2) (hentry : entry ∈ table)
    (hgone : entry ∉ expireFrom cutoff table) (hrest : rest ∈ expireFrom cutoff table) :
    entry.2 ≤ rest.2 := by
  obtain ⟨gone, hsplit⟩ := expireFrom_suffix cutoff table
  rw [← hsplit] at hsorted hentry
  obtain ⟨-, -, hbefore⟩ := List.pairwise_append.mp hsorted
  exact hbefore entry ((List.mem_append.mp hentry).resolve_right hgone) rest hrest

end Order

/-- **The identity tables stay bounded and consistent.**  After any calls under any clock there are
at most 10,000 recent disconnects.  If each `disconnected` matches an earlier `authenticated`, the
active identities are those with open sessions, with their number, and none of them is among the
recent disconnects; and, under a clock that does not go back, the next call leaves the recent
disconnects alone, or goes on from what its expiry leaves, and what that takes out, however young,
was disconnected no later than anything it leaves. -/
theorem identity_tables_consistent (calls : List SessionCall) :
    (observe calls).recentDisconnects.length ≤ 10000 ∧
    ∀ s, sessionsAfter calls = some s →
      (∀ identity, JsMap.get (observe calls).activeIdentities identity =
        if s.opened identity = 0 then none else some (s.opened identity)) ∧
      (∀ identity ∈ JsMap.keys (observe calls).activeIdentities,
        identity ∉ JsMap.keys (observe calls).recentDisconnects) ∧
      (∀ c, (observe calls).beforeExpiry c = none →
        (observe (calls ++ [c])).recentDisconnects = (observe calls).recentDisconnects) ∧
      ∀ c s' o' now, s.step c.event = some s' →
        (readingsOf (calls ++ [c])).Pairwise (· ≤ ·) →
        (observe calls).beforeExpiry c = some (o', now) →
        observe (calls ++ [c]) = (observe calls).afterExpiry (o'.expireReconnects now) c ∧
        ∀ entry ∈ o'.recentDisconnects,
          entry ∉ (o'.expireReconnects now).recentDisconnects →
          ∀ rest ∈ (o'.expireReconnects now).recentDisconnects, entry.2 ≤ rest.2 := by
  refine ⟨capacity_observe calls, fun s hmatched => ?_⟩
  have htracks : (observe calls).Tracks s := tracks_observe hmatched
  refine ⟨htracks.active, fun identity hactive hrecent => ?_, fun c hnone => ?_, ?_⟩
  · have hnone := htracks.active identity
    rw [if_pos (htracks.apart identity hrecent), JsMap.get_eq_none] at hnone
    exact hnone hactive
  · rw [observe_snoc]
    exact call_of_no_expiry hnone
  · intro c s' o' now hstep hclock hexpiry
    rw [observe_snoc]
    refine ⟨call_eq_afterExpiry hexpiry, fun entry hentry hgone rest hrest => ?_⟩
    rw [readingsOf_snoc] at hclock
    have horder : InOrder (observe calls).recentDisconnects (readingsOf calls) :=
      inOrder_observe hmatched (List.pairwise_append.mp hclock).1
    exact le_of_expired (inOrder_beforeExpiry htracks horder hstep hclock hexpiry).sorted hentry
      hgone hrest

/-- A session of another user in the sample room. -/
def otherClaims : DocumentTicketClaims :=
  { sampleClaims with userId := js "55555555-5555-4555-8555-555555555555" }

/-- Two users come and go. -/
def sampleCalls : List SessionCall :=
  [.authenticated sampleClaims 0, .authenticated otherClaims 5, .disconnected sampleClaims 10 10,
    .disconnected otherClaims 20 21]

/-- When the first user comes back too late, only the other's entry is left. -/
theorem identity_tables_consistent_sample :
    (observe sampleCalls).recentDisconnects =
      [(editingIdentity sampleClaims, 10), (editingIdentity otherClaims, 20)] ∧
    ((observe sampleCalls).expireReconnects 300015).recentDisconnects =
      [(editingIdentity otherClaims, 20)] ∧
    ∀ rest ∈ ((observe sampleCalls).expireReconnects 300015).recentDisconnects, 10 ≤ rest.2 := by
  have htable : (observe sampleCalls).recentDisconnects =
      [(editingIdentity sampleClaims, 10), (editingIdentity otherClaims, 20)] := by decide +kernel
  have hleft : ((observe sampleCalls).expireReconnects 300015).recentDisconnects =
      [(editingIdentity otherClaims, 20)] := by decide +kernel
  refine ⟨htable, hleft, ?_⟩
  have hother : editingIdentity sampleClaims ≠ editingIdentity otherClaims := by decide +kernel
  have hmatched : (sessionsAfter sampleCalls).isSome = true := by decide +kernel
  obtain ⟨s, hs⟩ := Option.isSome_iff_exists.mp hmatched
  have hlater := ((identity_tables_consistent sampleCalls).2 s hs).2.2.2
    (.authenticated sampleClaims 300015) _ _ 300015 rfl (by decide) rfl
  refine hlater.2 (editingIdentity sampleClaims, 10) ?_ ?_
  · rw [htable]
    exact List.mem_cons_self
  · rw [hleft, List.mem_singleton]
    exact fun heq => hother (congrArg Prod.fst heq)

end SocketServer.Collaboration

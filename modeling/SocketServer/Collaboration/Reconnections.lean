import SocketServer.Collaboration.IdentityTables
import Mathlib.Data.Finset.Card

/-!
# Counting reconnections

`authenticated` counts a reconnection when it finds the identity among the recent disconnects.  The
table has lost some entries by then: expiry stops at the first recent one, which is right only while
the table is in time order and within its capacity.

* `Complete`: an entry is the last disconnection of its identity, and one that is missing is too old;
* `complete_call`: every call keeps this, as long as the identities fit the table;
* `reconnects_exact`: which calls change the counter.
-/

namespace SocketServer.Collaboration

open SocketServer.Text SocketServer.Js

/-- The call opens the first session of an identity again, at most five minutes after its last one
was closed. -/
def Sessions.Reconnects (s : Sessions JsString) : SessionCall → Prop
  | .authenticated claims now =>
      s.opened (editingIdentity claims) = 0 ∧
        ∃ time, s.closedAt (editingIdentity claims) = some time ∧ now - time ≤ 5 * 60000
  | .disconnected _ _ _ => False

/-- The recent disconnects are last disconnections, and of the identities without a session only those
are missing whose last disconnection is too old. -/
structure CollaborationObservability.Complete (o : CollaborationObservability)
    (s : Sessions JsString) (readings : List ℤ) : Prop where
  entry : ∀ e ∈ o.recentDisconnects, s.closedAt e.1 = some e.2
  kept : ∀ identity time, s.opened identity = 0 → s.closedAt identity = some time →
    (identity, time) ∈ o.recentDisconnects ∨ ∃ r ∈ readings, time < r - 5 * 60000

theorem complete_initial : CollaborationObservability.initial.Complete .initial [] where
  entry _ h := absurd h List.not_mem_nil
  kept _ _ _ h := nomatch h

/-- A table has no more entries than there are identities for it. -/
theorem length_le_of_known {table : JsMap JsString ℤ} (h : JsMap.Distinct table)
    {known : Finset JsString} (hknown : ∀ identity ∈ JsMap.keys table, identity ∈ known) :
    table.length ≤ known.card := by
  have hlength : table.length = (JsMap.keys table).length := (List.length_map _).symm
  have hdistinct : (JsMap.keys table).toFinset.card = (JsMap.keys table).length :=
    List.toFinset_card_of_nodup h
  have hsub : (JsMap.keys table).toFinset ⊆ known := by
    intro identity hmem
    exact hknown identity (List.mem_toFinset.mp hmem)
  rw [hlength, ← hdistinct]
  exact Finset.card_le_card hsub

section Calls

variable {o : CollaborationObservability} {s s' : Sessions JsString} {readings : List ℤ}
  {claims : DocumentTicketClaims}

/-- What expiry does with an entry. -/
theorem kept_or_old {table : JsMap JsString ℤ} (hsorted : table.Pairwise fun e e' => e.2 ≤ e'.2)
    (hsize : table.length ≤ 10000) {entry : JsString × ℤ} (hmem : entry ∈ table) (now : ℤ) :
    entry ∈ expireFrom (now - 5 * 60000) table ∨ entry.2 < now - 5 * 60000 := by
  rcases lt_or_ge entry.2 (now - 5 * 60000) with hold | hrecent
  · exact Or.inr hold
  · exact Or.inl ((mem_expireFrom hsorted hsize).mpr ⟨hmem, hrecent⟩)

theorem complete_authenticated (htracks : o.Tracks s) (horder : InOrder o.recentDisconnects readings)
    (hsize : o.recentDisconnects.length ≤ 10000) (h : o.Complete s readings) (now : ℤ) :
    (o.authenticated claims now).Complete
      (s.setOpened (editingIdentity claims) (s.opened (editingIdentity claims) + 1))
      (readings ++ [now]) := by
  have hdistinct : JsMap.Distinct (expireFrom (now - 5 * 60000) o.recentDisconnects) :=
    htracks.recentDistinct.sublist (expireFrom_suffix _ _).sublist
  constructor
  · intro e he
    rw [recent_authenticated htracks] at he
    have hexpired := ((JsMap.mem_delete hdistinct).mp he).1
    exact h.entry e ((expireFrom_suffix _ _).subset hexpired)
  · intro identity time hnone hclosed
    rw [Sessions.opened_setOpened] at hnone
    split at hnone
    · cases hnone
    · rename_i hother
      rcases h.kept identity time hnone hclosed with hmem | ⟨r, hr, hold⟩
      · rcases kept_or_old horder.sorted hsize hmem now with hkept | hold
        · rw [recent_authenticated htracks]
          exact Or.inl ((JsMap.mem_delete hdistinct).mpr ⟨hkept, hother⟩)
        · exact Or.inr ⟨now, List.mem_append_right _ List.mem_cons_self, hold⟩
      · exact Or.inr ⟨r, List.mem_append_left _ hr, hold⟩

theorem complete_disconnected_last (htracks : o.Tracks s)
    (hlast : s.opened (editingIdentity claims) = 1) {disconnectedAt now : ℤ}
    (horder : InOrder (o.recentDisconnects ++ [(editingIdentity claims, disconnectedAt)])
      (readings ++ [disconnectedAt, now]))
    (hsize : (o.recentDisconnects ++ [(editingIdentity claims, disconnectedAt)]).length ≤ 10000)
    (h : o.Complete s readings) :
    (o.disconnected claims disconnectedAt now).Complete
      ((s.setOpened (editingIdentity claims) 0).setClosedAt (editingIdentity claims) disconnectedAt)
      (readings ++ [disconnectedAt, now]) := by
  have hnow : now ∈ readings ++ [disconnectedAt, now] :=
    List.mem_append_right _ (List.mem_cons_of_mem _ List.mem_cons_self)
  rw [disconnected_last htracks hlast]
  constructor
  · intro e he
    rcases List.mem_append.mp ((expireFrom_suffix _ _).subset he) with hold | hnew
    · have hother : e.1 ≠ editingIdentity claims := by
        intro hsame
        exact htracks.absent (by omega) (hsame ▸ JsMap.mem_keys_of_mem hold)
      rw [Sessions.closedAt_setClosedAt, if_neg hother]
      exact h.entry e hold
    · rw [List.mem_singleton.mp hnew, Sessions.closedAt_setClosedAt, if_pos rfl]
  · intro identity time hnone hclosed
    rw [Sessions.opened_setClosedAt, Sessions.opened_setOpened] at hnone
    rw [Sessions.closedAt_setClosedAt] at hclosed
    have hbefore : (identity, time) ∈
        o.recentDisconnects ++ [(editingIdentity claims, disconnectedAt)] ∨
        ∃ r ∈ readings, time < r - 5 * 60000 := by
      split at hclosed
      · rename_i hsame
        cases hclosed
        exact Or.inl (List.mem_append_right _ (hsame ▸ List.mem_cons_self))
      · rename_i hother
        rw [if_neg hother] at hnone
        rcases h.kept identity time hnone hclosed with hmem | hold
        · exact Or.inl (List.mem_append_left _ hmem)
        · exact Or.inr hold
    rcases hbefore with hmem | ⟨r, hr, hold⟩
    · rcases kept_or_old horder.sorted hsize hmem now with hkept | hold
      · exact Or.inl hkept
      · exact Or.inr ⟨now, hnow, hold⟩
    · exact Or.inr ⟨r, List.mem_append_left _ hr, hold⟩

theorem complete_disconnected_other (htracks : o.Tracks s)
    (hmore : 1 < s.opened (editingIdentity claims)) (disconnectedAt now : ℤ)
    (h : o.Complete s readings) :
    (o.disconnected claims disconnectedAt now).Complete
      (s.setOpened (editingIdentity claims) (s.opened (editingIdentity claims) - 1))
      (readings ++ [disconnectedAt, now]) := by
  rw [disconnected_other htracks hmore]
  constructor
  · exact h.entry
  · intro identity time hnone hclosed
    rw [Sessions.opened_setOpened] at hnone
    split at hnone
    · omega
    · rcases h.kept identity time hnone hclosed with hmem | ⟨r, hr, hold⟩
      · exact Or.inl hmem
      · exact Or.inr ⟨r, List.mem_append_left _ hr, hold⟩

/-- **One call**, as long as the identities fit the table. -/
theorem complete_call {c : SessionCall} {known : Finset JsString} (hfew : known.card ≤ 10000)
    (hknown : ∀ identity ∈ JsMap.keys o.recentDisconnects, identity ∈ known)
    (hc : c.identity ∈ known) (htracks : o.Tracks s)
    (horder : InOrder o.recentDisconnects readings) (h : o.Complete s readings)
    (hstep : s.step c.event = some s') (hclock : (readings ++ c.readings).Pairwise (· ≤ ·)) :
    (o.call c).Complete s' (readings ++ c.readings) := by
  cases c with
  | authenticated claims now =>
      cases hstep
      have hsize := (length_le_of_known htracks.recentDistinct hknown).trans hfew
      exact complete_authenticated htracks horder hsize h now
  | disconnected claims disconnectedAt now =>
      rcases Sessions.closes_eq_some hstep with ⟨hlast, rfl⟩ | ⟨hmore, rfl⟩
      · obtain ⟨hdistinct, hkeys⟩ :=
          htracks.snoc (Nat.lt_of_lt_of_eq Nat.one_pos hlast.symm) disconnectedAt
        have hlonger : ∀ identity ∈ JsMap.keys
            (o.recentDisconnects ++ [(editingIdentity claims, disconnectedAt)]),
            identity ∈ known := by
          intro identity hmem
          rcases (hkeys identity).mp hmem with rfl | hold
          · exact hc
          · exact hknown identity hold
        exact complete_disconnected_last htracks hlast (horder.snoc List.mem_cons_self hclock)
          ((length_le_of_known hdistinct hlonger).trans hfew) h
      · exact complete_disconnected_other htracks hmore disconnectedAt now h

/-- A call brings no identity into the table but its own. -/
theorem keys_call {c : SessionCall} (htracks : o.Tracks s) (hstep : s.step c.event = some s')
    {identity : JsString} (hmem : identity ∈ JsMap.keys (o.call c).recentDisconnects) :
    identity = c.identity ∨ identity ∈ JsMap.keys o.recentDisconnects := by
  cases c with
  | authenticated claims now =>
      rw [CollaborationObservability.call, recent_authenticated htracks] at hmem
      obtain ⟨time, hentry⟩ := JsMap.mem_keys.mp hmem
      have hexpired := (JsMap.delete_sublist _ _).subset hentry
      exact Or.inr (keys_expireFrom (JsMap.mem_keys_of_mem hexpired))
  | disconnected claims disconnectedAt now =>
      rcases Sessions.closes_eq_some hstep with ⟨hlast, -⟩ | ⟨hmore, -⟩
      · rw [CollaborationObservability.call, disconnected_last htracks hlast] at hmem
        have hopen : 0 < s.opened (editingIdentity claims) := by omega
        exact ((htracks.snoc hopen disconnectedAt).2 identity).mp (keys_expireFrom hmem)
      · rw [CollaborationObservability.call, disconnected_other htracks hmore] at hmem
        exact Or.inr hmem

/-- A whole sequence of calls whose identities fit the table. -/
theorem complete_observe {calls : List SessionCall} {known : Finset JsString}
    (hfew : known.card ≤ 10000) (hknown : ∀ c ∈ calls, c.identity ∈ known)
    (hmatched : sessionsAfter calls = some s) (hclock : (readingsOf calls).Pairwise (· ≤ ·)) :
    (∀ identity ∈ JsMap.keys (observe calls).recentDisconnects, identity ∈ known) ∧
      (observe calls).Complete s (readingsOf calls) := by
  induction calls using List.reverseRecOn generalizing s with
  | nil =>
      cases hmatched
      exact ⟨fun _ h => absurd h List.not_mem_nil, complete_initial⟩
  | append_singleton calls c ih =>
      obtain ⟨t, hbefore, hstep⟩ := sessionsAfter_snoc.mp hmatched
      rw [readingsOf_snoc] at hclock ⊢
      have hclockBefore := (List.pairwise_append.mp hclock).1
      have hc : c.identity ∈ known := hknown c (List.mem_append_right _ List.mem_cons_self)
      have htracks := tracks_observe hbefore
      obtain ⟨hkeys, hcomplete⟩ :=
        ih (fun d hd => hknown d (List.mem_append_left _ hd)) hbefore hclockBefore
      rw [observe_snoc]
      constructor
      · intro identity hmem
        rcases keys_call htracks hstep hmem with rfl | hold
        · exact hc
        · exact hkeys identity hold
      · exact complete_call hfew hkeys hc htracks (inOrder_observe hbefore hclockBefore) hcomplete
          hstep hclock

/-! ### The counter -/

theorem reconnects_authenticated (htracks : o.Tracks s) (now : ℤ) :
    (o.authenticated claims now).counters .reconnects = o.counters .reconnects +
      if s.opened (editingIdentity claims) = 0 ∧ editingIdentity claims ∈
        JsMap.keys (expireFrom (now - 5 * 60000) o.recentDisconnects) then 1 else 0 := by
  have hhas : (JsMap.has (o.expireReconnects now).recentDisconnects (editingIdentity claims) = true) ↔
      editingIdentity claims ∈ JsMap.keys (expireFrom (now - 5 * 60000) o.recentDisconnects) :=
    JsMap.has_iff
  rw [CollaborationObservability.authenticated]
  dsimp only
  rw [htracks.count]
  by_cases hnone : s.opened (editingIdentity claims) = 0
  · rw [if_pos hnone]
    by_cases hmem : editingIdentity claims ∈
        JsMap.keys (expireFrom (now - 5 * 60000) o.recentDisconnects)
    · rw [if_pos (hhas.mpr hmem), if_pos ⟨hnone, hmem⟩]
      exact CollaborationObservability.increment_self _ _
    · rw [if_neg (hhas.not.mpr hmem), if_neg fun h => hmem h.2]
      rfl
  · rw [if_neg hnone, if_neg fun h => hnone h.1]
    rfl

theorem reconnects_disconnected (o : CollaborationObservability) (claims : DocumentTicketClaims)
    (disconnectedAt now : ℤ) :
    (o.disconnected claims disconnectedAt now).counters .reconnects = o.counters .reconnects := by
  rw [CollaborationObservability.disconnected]
  dsimp only
  split
  · rfl
  · rfl

/-- The other methods do not touch the counter. -/
theorem reconnects_healthResult (o : CollaborationObservability) (healthy : Bool) :
    (o.healthResult healthy).counters .reconnects = o.counters .reconnects := by
  have hchecks : (o.increment .healthChecks).counters .reconnects = o.counters .reconnects :=
    o.increment_of_ne (by decide)
  rw [CollaborationObservability.healthResult]
  split
  · rw [CollaborationObservability.increment_of_ne _ (by decide)]
    exact hchecks
  · exact hchecks

/-- What is found in the table is a disconnection of the last five minutes. -/
theorem found_iff (horder : InOrder o.recentDisconnects readings)
    (hsize : o.recentDisconnects.length ≤ 10000) (h : o.Complete s readings) {now : ℤ}
    (hclock : ∀ r ∈ readings, r ≤ now) (hnone : s.opened (editingIdentity claims) = 0) :
    editingIdentity claims ∈ JsMap.keys (expireFrom (now - 5 * 60000) o.recentDisconnects) ↔
      ∃ time, s.closedAt (editingIdentity claims) = some time ∧ now - time ≤ 5 * 60000 := by
  rw [JsMap.mem_keys]
  constructor
  · intro h
    obtain ⟨time, hmem⟩ := h
    obtain ⟨hentry, hrecent⟩ := (mem_expireFrom horder.sorted hsize).mp hmem
    exact ⟨time, h.entry _ hentry, by omega⟩
  · intro h
    obtain ⟨time, hclosed, hrecent⟩ := h
    refine ⟨time, ?_⟩
    rcases h.kept _ time hnone hclosed with hentry | ⟨r, hr, hold⟩
    · rcases kept_or_old horder.sorted hsize hentry now with hkept | hold
      · exact hkept
      · omega
    · have hle := hclock r hr
      omega

end Calls

/-- **The reconnect counter counts exactly the reconnections.**  After any calls in which each
`disconnected` matches an earlier `authenticated`, under a clock that does not go back and with at
most 10,000 identities, the next call adds one to the counter if it is an `authenticated` of an
identity without a session whose last one was closed at most five minutes ago, and otherwise leaves
the counter as it is; so do the other methods of the object. -/
theorem reconnects_exact {calls : List SessionCall} {c : SessionCall} {s : Sessions JsString}
    (hmatched : sessionsAfter calls = some s)
    (hclock : (readingsOf (calls ++ [c])).Pairwise (· ≤ ·))
    (hfew : ((calls ++ [c]).map SessionCall.identity).toFinset.card ≤ 10000) :
    (s.Reconnects c →
      (observe (calls ++ [c])).counters .reconnects = (observe calls).counters .reconnects + 1) ∧
    (¬ s.Reconnects c →
      (observe (calls ++ [c])).counters .reconnects = (observe calls).counters .reconnects) ∧
    (∀ counter, counter ≠ .reconnects → ((observe calls).increment counter).counters .reconnects =
      (observe calls).counters .reconnects) ∧
    ∀ healthy, ((observe calls).healthResult healthy).counters .reconnects =
      (observe calls).counters .reconnects := by
  rw [observe_snoc, ← and_assoc]
  refine ⟨?_, fun _ hother => CollaborationObservability.increment_of_ne _ hother.symm,
    reconnects_healthResult _⟩
  cases c with
  | disconnected claims disconnectedAt now =>
      exact ⟨fun h => h.elim, fun _ => reconnects_disconnected _ claims disconnectedAt now⟩
  | authenticated claims now =>
      rw [readingsOf_snoc] at hclock
      obtain ⟨hclockBefore, -, hlater⟩ := List.pairwise_append.mp hclock
      have hknown : ∀ d ∈ calls, d.identity ∈
          ((calls ++ [SessionCall.authenticated claims now]).map SessionCall.identity).toFinset := by
        intro d hd
        exact List.mem_toFinset.mpr (List.mem_map_of_mem (List.mem_append_left _ hd))
      have htracks := tracks_observe hmatched
      obtain ⟨-, hcomplete⟩ := complete_observe hfew hknown hmatched hclockBefore
      have hcount : s.Reconnects (.authenticated claims now) ↔
          s.opened (editingIdentity claims) = 0 ∧ editingIdentity claims ∈
            JsMap.keys (expireFrom (now - 5 * 60000) (observe calls).recentDisconnects) := by
        refine and_congr_right fun hnone => Iff.symm ?_
        exact found_iff (inOrder_observe hmatched hclockBefore) (capacity_observe calls)
          hcomplete (fun r hr => hlater r hr now List.mem_cons_self) hnone
      rw [hcount]
      show (_ → ((observe calls).authenticated claims now).counters .reconnects = _) ∧
        (_ → ((observe calls).authenticated claims now).counters .reconnects = _)
      rw [reconnects_authenticated htracks]
      constructor
      · intro h
        rw [if_pos h]
      · intro h
        rw [if_neg h, Nat.add_zero]

/-- The first user comes back after exactly five minutes. -/
theorem reconnects_exact_sample :
    (observe (sampleCalls ++ [.authenticated sampleClaims 300010])).counters .reconnects =
      (observe sampleCalls).counters .reconnects + 1 := by
  have hmatched : (sessionsAfter sampleCalls).isSome = true := by decide +kernel
  obtain ⟨s, hs⟩ := Option.isSome_iff_exists.mp hmatched
  have hclosed : (sessionsAfter sampleCalls).map (fun s =>
      (s.opened (editingIdentity sampleClaims), s.closedAt (editingIdentity sampleClaims)))
        = some (0, some 10) := by decide +kernel
  rw [hs, Option.map_some, Option.some.injEq, Prod.mk.injEq] at hclosed
  refine (reconnects_exact hs (by decide) ?_).1 ⟨hclosed.1, 10, hclosed.2, by decide⟩
  exact (List.toFinset_card_le _).trans (by decide)

end SocketServer.Collaboration

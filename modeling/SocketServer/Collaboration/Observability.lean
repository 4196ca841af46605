import SocketServer.Collaboration.Auth
import SocketServer.Library.JsMap
import Mathlib.Logic.Function.Basic

/-!
# Counters and metrics

`CollaborationObservability` (`collaboration/src/observability.ts`): the counters, the two tables
from which reconnections are told, and the text of `/metrics`.

`mem_expireFrom` says what expiry leaves of a table in time order.
-/

namespace SocketServer.Collaboration

open SocketServer.Text SocketServer.Js

inductive Counter where
  | authenticationFailures
  | healthChecks
  | healthFailures
  | loadFailures
  | reconnects
  | slowEditingSessions
  | storeFailures
  deriving DecidableEq

/-- Times are in milliseconds; the clock may be set back. -/
structure CollaborationObservability where
  counters : Counter → ℕ
  activeIdentities : JsMap JsString ℕ
  recentDisconnects : JsMap JsString ℤ
  healthy : ℕ

namespace CollaborationObservability

/-- What the constructor leaves. -/
def initial : CollaborationObservability := ⟨fun _ => 0, [], [], 0⟩

def increment (o : CollaborationObservability) (counter : Counter) : CollaborationObservability :=
  { o with counters := Function.update o.counters counter (o.counters counter + 1) }

theorem increment_self (o : CollaborationObservability) (counter : Counter) :
    (o.increment counter).counters counter = o.counters counter + 1 :=
  Function.update_self _ _ _

theorem increment_of_ne (o : CollaborationObservability) {counter other : Counter}
    (h : other ≠ counter) : (o.increment counter).counters other = o.counters other :=
  Function.update_of_ne h _ _

def healthResult (o : CollaborationObservability) (healthy : Bool) : CollaborationObservability :=
  let o := o.increment .healthChecks
  let o := { o with healthy := if healthy then 1 else 0 }
  if !healthy then o.increment .healthFailures else o

end CollaborationObservability

/-! ### Reconnections -/

def editingIdentity (claims : DocumentTicketClaims) : JsString :=
  claims.organizationId ++ js ":" ++ claims.teamId ++ js ":" ++ claims.documentId ++ js ":" ++
    claims.userId

/-- The loop of `expireReconnects`, which deletes the entries it passes and stops at the first one
that is recent, once few enough are left. -/
def expireFrom (cutoff : ℤ) : JsMap JsString ℤ → JsMap JsString ℤ
  | [] => []
  | entry :: rest =>
      if cutoff ≤ entry.2 ∧ (entry :: rest).length ≤ 10000 then entry :: rest
      else expireFrom cutoff rest

/-- What the loop leaves is the end of the table. -/
theorem expireFrom_suffix (cutoff : ℤ) (table : JsMap JsString ℤ) :
    expireFrom cutoff table <:+ table := by
  induction table with
  | nil => exact List.suffix_rfl
  | cons entry rest ih =>
      rw [expireFrom]
      split
      · exact List.suffix_rfl
      · exact ih.trans (List.suffix_cons entry rest)

theorem expireFrom_length (cutoff : ℤ) (table : JsMap JsString ℤ) :
    (expireFrom cutoff table).length ≤ 10000 := by
  induction table with
  | nil => exact Nat.zero_le _
  | cons entry rest ih =>
      rw [expireFrom]
      split
      · rename_i hstop
        exact hstop.2
      · exact ih

/-- In time order and within the capacity, the recent entries are left and no others. -/
theorem mem_expireFrom {cutoff : ℤ} {table : JsMap JsString ℤ}
    (hsorted : table.Pairwise fun e e' => e.2 ≤ e'.2) (hsize : table.length ≤ 10000)
    {entry : JsString × ℤ} : entry ∈ expireFrom cutoff table ↔ entry ∈ table ∧ cutoff ≤ entry.2 := by
  induction table with
  | nil => simp [expireFrom]
  | cons first rest ih =>
      obtain ⟨hfirst, hrest⟩ := List.pairwise_cons.mp hsorted
      rw [expireFrom]
      split
      · rename_i hstop
        rw [iff_self_and]
        intro hmem
        rcases List.mem_cons.mp hmem with rfl | hlater
        · exact hstop.1
        · exact hstop.1.trans (hfirst entry hlater)
      · rename_i hold
        rw [ih hrest (Nat.le_of_succ_le hsize), List.mem_cons]
        constructor
        · rintro ⟨hmem, hrecent⟩
          exact ⟨Or.inr hmem, hrecent⟩
        · rintro ⟨rfl | hmem, hrecent⟩
          · exact absurd ⟨hrecent, hsize⟩ hold
          · exact ⟨hmem, hrecent⟩

namespace CollaborationObservability

def expireReconnects (o : CollaborationObservability) (now : ℤ) : CollaborationObservability :=
  { o with recentDisconnects := expireFrom (now - 5 * 60000) o.recentDisconnects }

def authenticated (o : CollaborationObservability) (claims : DocumentTicketClaims) (now : ℤ) :
    CollaborationObservability :=
  let identity := editingIdentity claims
  let active := (JsMap.get o.activeIdentities identity).getD 0
  let o := o.expireReconnects now
  let o :=
    if active = 0 then
      let o' := { o with recentDisconnects := JsMap.delete o.recentDisconnects identity }
      if JsMap.has o.recentDisconnects identity then o'.increment .reconnects else o'
    else o
  { o with activeIdentities := JsMap.set o.activeIdentities identity (active + 1) }

/-- The clock is read twice, for the entry and for the expiry. -/
def disconnected (o : CollaborationObservability) (claims : DocumentTicketClaims)
    (disconnectedAt now : ℤ) : CollaborationObservability :=
  let identity := editingIdentity claims
  let active := (JsMap.get o.activeIdentities identity).getD 0
  if active ≤ 1 then
    let o := { o with activeIdentities := JsMap.delete o.activeIdentities identity }
    let o := { o with recentDisconnects := JsMap.set o.recentDisconnects identity disconnectedAt }
    o.expireReconnects now
  else { o with activeIdentities := JsMap.set o.activeIdentities identity (active - 1) }

end CollaborationObservability

/-! ### The text of the metrics -/

def metric (type name help : String) (value : ℕ) : List Char :=
  let fullName := "corta_collaboration_".toList ++ name.toList
  "# HELP ".toList ++ fullName ++ " ".toList ++ help.toList ++ "\n# TYPE ".toList ++ fullName ++
    " ".toList ++ type.toList ++ "\n".toList ++ fullName ++ " ".toList ++ Nat.toDigits 10 value ++
    "\n".toList

def gauge (name help : String) (value : ℕ) : List Char := metric "gauge" name help value

def counter (name help : String) (value : ℕ) : List Char :=
  metric "counter" (name ++ "_total") help value

/-- What `render` reads of the Hocuspocus instance. -/
structure Instance where
  documentsCount : ℕ
  connectionsCount : ℕ

def CollaborationObservability.render (o : CollaborationObservability) (inst : Instance) :
    List Char :=
  [gauge "active_rooms" "Active Document Rooms" inst.documentsCount,
    gauge "active_editing_sessions" "Active Editing Sessions" inst.connectionsCount,
    gauge "healthy" "Most recent collaboration dependency health result" o.healthy,
    counter "authentication_failures" "Rejected collaboration authentications"
      (o.counters .authenticationFailures),
    counter "load_failures" "Failed Document state loads" (o.counters .loadFailures),
    counter "store_failures" "Failed Document state stores" (o.counters .storeFailures),
    counter "reconnects" "Successful Editing Session reconnections" (o.counters .reconnects),
    counter "slow_editing_sessions" "Editing Sessions closed for excessive backpressure"
      (o.counters .slowEditingSessions),
    counter "health_checks" "Collaboration health checks" (o.counters .healthChecks),
    counter "health_failures" "Failed collaboration health checks"
      (o.counters .healthFailures)].flatten

end SocketServer.Collaboration

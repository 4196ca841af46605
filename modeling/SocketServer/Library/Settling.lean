import SocketServer.Library.Runs
import Mathlib.Data.Nat.Basic

/-!
# Systems that come to rest

In a system whose steps are partly its own (`internal`) and partly its environment's, a state is
**settled** when no internal step is enabled.  If every internal step from a state with the
invariant lowers a weight, the system cannot go on by itself for longer than the weight says, and
it always can go on to a settled state.

* `length_add_weight_le`: a run of internal steps is no longer than the weight it uses up;
* `exists_settled`: from every state with the invariant a run of internal steps settles.

Nothing here names a particular system.
-/

namespace SocketServer.Runs

variable {σ α : Type*} (step : σ → α → Option σ) (internal : σ → α → Prop)

/-- The system does nothing more by itself. -/
def Settled (s : σ) : Prop := ∀ a, internal s a → step s a = none

/-- Internal steps keep the invariant and lower the weight. -/
structure Lowers (I : σ → Prop) (weight : σ → ℕ) : Prop where
  keeps : ∀ s a t, I s → internal s a → step s a = some t → I t
  lowers : ∀ s a t, I s → internal s a → step s a = some t → weight t < weight s

variable {step internal} {I : σ → Prop} {weight : σ → ℕ}

/-- **A run of internal steps is bounded by the weight it uses up.** -/
theorem Lowers.length_add_weight_le (h : Lowers step internal I weight) {s t : σ} {as : List α}
    (hs : I s) (hint : Meets step internal s as) (hrun : run step s as = some t) :
    as.length + weight t ≤ weight s := by
  induction as generalizing s with
  | nil =>
      rw [run_nil, Option.some.injEq] at hrun
      simp [hrun]
  | cons a as ih =>
      obtain ⟨u, hu, hrest⟩ := (run_cons_eq_some step).mp hrun
      have hlt : weight u < weight s := h.lowers s a u hs hint.1 hu
      have hle := ih (h.keeps s a u hs hint.1 hu) (hint.2 u hu) hrest
      rw [List.length_cons]
      omega

/-- **Every state with the invariant settles.**  The induction is on the weight. -/
theorem Lowers.exists_settled (h : Lowers step internal I weight) {s : σ} (hs : I s) :
    ∃ as t, Meets step internal s as ∧ run step s as = some t ∧ Settled step internal t := by
  induction hw : weight s using Nat.strong_induction_on generalizing s with
  | h n ih =>
      by_cases hsettled : Settled step internal s
      · exact ⟨[], s, trivial, rfl, hsettled⟩
      · -- some internal step is enabled: take it, and settle from there
        obtain ⟨a, ha⟩ := not_forall.mp hsettled
        obtain ⟨hint, hne⟩ := Classical.not_imp.mp ha
        obtain ⟨u, hu⟩ := Option.ne_none_iff_exists'.mp hne
        have hlt : weight u < n := hw ▸ h.lowers s a u hs hint hu
        obtain ⟨as, t, hmeets, hrun, hset⟩ := ih (weight u) hlt (h.keeps s a u hs hint hu) rfl
        refine ⟨a :: as, t, ⟨hint, fun v hv => ?_⟩, ?_, hset⟩
        · rw [hu, Option.some.injEq] at hv
          exact hv ▸ hmeets
        · exact (run_cons_eq_some step).mpr ⟨u, hu, hrun⟩

end SocketServer.Runs

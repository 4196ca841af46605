import SocketServer.Library.Runs

/-!
# One system in terms of another

A system refines another when each of its steps, from states with its invariant, is a run of the
other between the states that an abstraction gives: then so is each of its runs, and every action
of the other's run was emitted by a step of this one (`run_refined`).  Where steps that meet a
condition are runs that meet one of the other's, so are runs.  `StepRefined` says this of a step;
most steps are one step of the other system (`StepRefined.one`) or none (`StepRefined.none`).
-/

namespace SocketServer.Runs

variable {σ τ α β : Type*} {step : σ → α → Option σ} {step' : τ → β → Option τ}
  {abstraction : σ → τ} {emits : σ → α → β → Prop} {I : σ → Prop} {ok : σ → α → Prop}
  {ok' : τ → β → Prop}

/-- A step that is a run of the other system, which meets its condition when the step does. -/
def StepRefined (step' : τ → β → Option τ) (abstraction : σ → τ) (emits : σ → α → β → Prop)
    (ok : σ → α → Prop) (ok' : τ → β → Prop) (s : σ) (a : α) (t : σ) : Prop :=
  ∃ bs, run step' (abstraction s) bs = some (abstraction t) ∧ (∀ b ∈ bs, emits s a b) ∧
    (ok s a → Meets step' ok' (abstraction s) bs)

/-- The step is one of the other system. -/
theorem StepRefined.one {s t : σ} {a : α} (b : β)
    (hstep : step' (abstraction s) b = some (abstraction t)) (hemits : emits s a b)
    (hok : ok s a → ok' (abstraction s) b) : StepRefined step' abstraction emits ok ok' s a t := by
  refine ⟨[b], (run_cons_eq_some step').mpr ⟨_, hstep, rfl⟩, fun other hother => ?_,
    fun h => ⟨hok h, fun _ _ => trivial⟩⟩
  rw [List.mem_singleton.mp hother]
  exact hemits

/-- The other system does not notice the step. -/
theorem StepRefined.none {s t : σ} {a : α} (heq : abstraction t = abstraction s) :
    StepRefined step' abstraction emits ok ok' s a t :=
  ⟨[], congrArg some heq.symm, fun _ hb => absurd hb List.not_mem_nil, fun _ => trivial⟩

/-- **Runs are refined step by step.** -/
theorem run_refined (hinv : ∀ s a t, I s → step s a = some t → I t)
    (hstep : ∀ s a t, I s → step s a = some t →
      StepRefined step' abstraction emits ok ok' s a t)
    {s t : σ} {as : List α} (hs : I s) (h : run step s as = some t) :
    ∃ bs, run step' (abstraction s) bs = some (abstraction t) ∧
      (∀ b ∈ bs, ∃ pre a post u, as = pre ++ a :: post ∧ run step s pre = some u ∧ emits u a b) ∧
      (Meets step ok s as → Meets step' ok' (abstraction s) bs) := by
  induction as generalizing s with
  | nil =>
      cases h
      exact ⟨[], rfl, fun b hb => absurd hb List.not_mem_nil, fun _ => trivial⟩
  | cons a as ih =>
      obtain ⟨u, hu, hrest⟩ := (run_cons_eq_some step).mp h
      obtain ⟨bs, hbs, hemits, hok⟩ := hstep s a u hs hu
      obtain ⟨cs, hcs, horigin, hoks⟩ := ih (hinv s a u hs hu) hrest
      refine ⟨bs ++ cs, ?_, fun b hb => ?_, fun hmeets => ?_⟩
      · rw [run_append, hbs, Option.bind_some]
        exact hcs
      · obtain hhere | hlater := List.mem_append.mp hb
        · exact ⟨[], a, as, s, rfl, rfl, hemits b hhere⟩
        · obtain ⟨pre, a', post, v, rfl, hv, hemit⟩ := horigin b hlater
          refine ⟨a :: pre, a', post, v, rfl, ?_, hemit⟩
          exact (run_cons_eq_some step).mpr ⟨u, hu, hv⟩
      · refine meets_append step' (hok hmeets.1) fun v hv => ?_
        obtain rfl := Option.some.inj (hbs.symm.trans hv)
        exact hoks (hmeets.2 u hu)

end SocketServer.Runs

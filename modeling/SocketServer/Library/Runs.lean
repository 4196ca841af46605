import Mathlib.Data.List.Basic

/-!
# Runs of a step function

A system of several parties is a partial step function `step : σ → α → Option σ`: `α` is one
atomic step of one party together with the choices of the scheduler and of the environment, and
`none` says that this step is not enabled.  A run is the list of the steps taken.  Interleaving
is then nothing but the arbitrary order of that list.

* `run` / `run_append` / `run_snoc_eq_some`: executing a list of steps, and cutting a run in two;
* `invariant_run`: what every step preserves, every run preserves;
* `Meets` and `Throughout`: a condition on every step of a run, and a property of every state it
  visits; `throughout_of_meets` derives the second from the first through an invariant, and
  `throughout_iff_meets` makes it an equivalence when the condition is exact for one step.

Nothing here names a particular system.
-/

namespace SocketServer.Runs

variable {σ α : Type*} (step : σ → α → Option σ)

/-- Execute a list of steps; `none` when one of them is not enabled. -/
def run : σ → List α → Option σ
  | s, [] => some s
  | s, a :: as => (step s a).bind fun t => run t as

@[simp] theorem run_nil (s : σ) : run step s [] = some s := rfl

theorem run_cons (s : σ) (a : α) (as : List α) :
    run step s (a :: as) = (step s a).bind fun t => run step t as := rfl

theorem run_cons_eq_some {s u : σ} {a : α} {as : List α} :
    run step s (a :: as) = some u ↔ ∃ t, step s a = some t ∧ run step t as = some u := by
  rw [run_cons, Option.bind_eq_some_iff]

theorem run_append (s : σ) (as bs : List α) :
    run step s (as ++ bs) = (run step s as).bind fun t => run step t bs := by
  induction as generalizing s with
  | nil => rfl
  | cons a as ih =>
      rw [List.cons_append, run_cons, run_cons, Option.bind_assoc]
      exact congrArg (Option.bind (step s a)) (funext fun t => ih t)

/-- A run is cut before its last step. -/
theorem run_snoc_eq_some {s u : σ} {as : List α} {a : α} :
    run step s (as ++ [a]) = some u ↔ ∃ t, run step s as = some t ∧ step t a = some u := by
  have hlast : ∀ t, run step t [a] = step t a := fun t => Option.bind_fun_some (step t a)
  rw [run_append, Option.bind_eq_some_iff]
  simp only [hlast]

/-- A system in which every step is enabled runs any list of steps. -/
theorem exists_run (htotal : ∀ s a, ∃ t, step s a = some t) (s : σ) (as : List α) :
    ∃ t, run step s as = some t := by
  induction as generalizing s with
  | nil => exact ⟨s, rfl⟩
  | cons a as ih =>
      obtain ⟨t, ht⟩ := htotal s a
      obtain ⟨u, hu⟩ := ih t
      exact ⟨u, (run_cons_eq_some step).mpr ⟨t, ht, hu⟩⟩

/-- **What every step preserves, every run preserves.** -/
theorem invariant_run {I : σ → Prop} (hstep : ∀ s a t, I s → step s a = some t → I t)
    {s t : σ} {as : List α} (hs : I s) (h : run step s as = some t) : I t := by
  induction as generalizing s with
  | nil =>
      rw [run_nil, Option.some.injEq] at h
      exact h ▸ hs
  | cons a as ih =>
      obtain ⟨u, hu, hrest⟩ := (run_cons_eq_some step).mp h
      exact ih (hstep s a u hs hu) hrest

/-! ### Conditions on the steps of a run, properties of its states -/

/-- Every step of the run satisfies `ok` in the state it is taken from. -/
def Meets (ok : σ → α → Prop) : σ → List α → Prop
  | _, [] => True
  | s, a :: as => ok s a ∧ ∀ t, step s a = some t → Meets ok t as

/-- Where the condition can be decided, so can that every step of a run meets it. -/
def decidableMeets {ok : σ → α → Prop} (hok : ∀ s a, Decidable (ok s a)) :
    (s : σ) → (as : List α) → Decidable (Meets step ok s as)
  | _, [] => isTrue trivial
  | s, a :: as =>
      match h : step s a with
      | none => decidable_of_iff (ok s a) (by simp [Meets, h])
      | some t =>
          have := decidableMeets hok t as
          decidable_of_iff (ok s a ∧ Meets step ok t as) (by simp [Meets, h])

instance {ok : σ → α → Prop} [hok : ∀ s a, Decidable (ok s a)] (s : σ) (as : List α) :
    Decidable (Meets step ok s as) := decidableMeets step hok s as

/-- The conditions of one run and of what follows it. -/
theorem meets_append_iff {ok : σ → α → Prop} {s t : σ} {as bs : List α}
    (h : run step s as = some t) :
    Meets step ok s (as ++ bs) ↔ Meets step ok s as ∧ Meets step ok t bs := by
  induction as generalizing s with
  | nil =>
      cases h
      exact ⟨fun hbs => ⟨trivial, hbs⟩, fun hbs => hbs.2⟩
  | cons a as ih =>
      obtain ⟨u, hu, hrest⟩ := (run_cons_eq_some step).mp h
      have hnext : ∀ {cs : List α}, (∀ v, step s a = some v → Meets step ok v cs) ↔
          Meets step ok u cs := by
        intro cs
        rw [hu]
        simp
      rw [List.cons_append, Meets, Meets, hnext, hnext, ih hrest, and_assoc]

/-- Every state the run visits, the first and the last included, satisfies `P`. -/
def Throughout (P : σ → Prop) : σ → List α → Prop
  | s, [] => P s
  | s, a :: as => P s ∧ ∀ t, step s a = some t → Throughout P t as

theorem Throughout.head {P : σ → Prop} {s : σ} {as : List α} (h : Throughout step P s as) :
    P s := by
  cases as with
  | nil => exact h
  | cons a as => exact h.1

/-- Actions that meet the condition in every state. -/
theorem meets_of_each {ok : σ → α → Prop} {as : List α} (h : ∀ a ∈ as, ∀ s, ok s a) (s : σ) :
    Meets step ok s as := by
  induction as generalizing s with
  | nil => trivial
  | cons a as ih =>
      exact ⟨h a List.mem_cons_self s, fun t _ => ih (fun b hb => h b (List.mem_cons_of_mem a hb)) t⟩

/-- A run step by step. -/
theorem meets_cons {ok : σ → α → Prop} {s t : σ} {a : α} {as : List α} (ha : ok s a)
    (ht : step s a = some t) (h : Meets step ok t as) : Meets step ok s (a :: as) := by
  refine ⟨ha, fun u hu => ?_⟩
  rw [ht, Option.some.injEq] at hu
  exact hu ▸ h

/-- Two conditions on the steps of one run. -/
theorem meets_and {p q : σ → α → Prop} {s : σ} {as : List α} (hp : Meets step p s as)
    (hq : Meets step q s as) : Meets step (fun s a => p s a ∧ q s a) s as := by
  induction as generalizing s with
  | nil => trivial
  | cons a as ih => exact ⟨⟨hp.1, hq.1⟩, fun t ht => ih (hp.2 t ht) (hq.2 t ht)⟩

/-- One run after another. -/
theorem meets_append {ok : σ → α → Prop} {s : σ} {as bs : List α} (h : Meets step ok s as)
    (hrest : ∀ t, run step s as = some t → Meets step ok t bs) : Meets step ok s (as ++ bs) := by
  induction as generalizing s with
  | nil => exact hrest s rfl
  | cons a as ih =>
      refine ⟨h.1, fun t ht => ih (h.2 t ht) fun u hu => hrest u ?_⟩
      exact (run_cons_eq_some step).mpr ⟨t, ht, hu⟩

/-- What every step that meets the condition preserves, every run whose steps all meet it
preserves. -/
theorem invariant_meets {I : σ → Prop} {ok : σ → α → Prop}
    (hstep : ∀ s a t, I s → ok s a → step s a = some t → I t)
    {s t : σ} {as : List α} (hs : I s) (hok : Meets step ok s as)
    (h : run step s as = some t) : I t := by
  induction as generalizing s with
  | nil =>
      rw [run_nil, Option.some.injEq] at h
      exact h ▸ hs
  | cons a as ih =>
      obtain ⟨u, hu, hrest⟩ := (run_cons_eq_some step).mp h
      exact ih (hstep s a u hs hok.1 hu) (hok.2 u hu) hrest

/-- Steps that keep an invariant which implies `P`, taken one after the other, visit only states
with `P`. -/
theorem throughout_of_meets {I P : σ → Prop} {ok : σ → α → Prop} (hP : ∀ s, I s → P s)
    (hstep : ∀ s a t, I s → ok s a → step s a = some t → I t)
    {s : σ} {as : List α} (hs : I s) (hok : Meets step ok s as) : Throughout step P s as := by
  induction as generalizing s with
  | nil => exact hP s hs
  | cons a as ih =>
      exact ⟨hP s hs, fun t ht => ih (hstep s a t hs hok.1 ht) (hok.2 t ht)⟩

/-- **An exact condition.**  If, from a state with the invariant `I` and the property `P`, a step
leads to a state with `P` exactly when it meets `ok`, then a run has `P` throughout exactly when
all its steps meet `ok`. -/
theorem throughout_iff_meets {I P : σ → Prop} {ok : σ → α → Prop}
    (hI : ∀ s a t, I s → step s a = some t → I t)
    (hexact : ∀ s a t, I s → P s → step s a = some t → (P t ↔ ok s a))
    {s t : σ} {as : List α} (hs : I s) (hPs : P s) (hrun : run step s as = some t) :
    Throughout step P s as ↔ Meets step ok s as := by
  induction as generalizing s with
  | nil => exact ⟨fun _ => trivial, fun _ => hPs⟩
  | cons a as ih =>
      obtain ⟨u, hu, hrest⟩ := (run_cons_eq_some step).mp hrun
      have hIu : I u := hI s a u hs hu
      constructor
      · intro h
        have hPu : P u := (h.2 u hu).head
        refine ⟨(hexact s a u hs hPs hu).mp hPu, fun v hv => ?_⟩
        rw [hu, Option.some.injEq] at hv
        exact hv ▸ (ih hIu hPu hrest).mp (h.2 u hu)
      · intro h
        have hPu : P u := (hexact s a u hs hPs hu).mpr h.1
        refine ⟨hPs, fun v hv => ?_⟩
        rw [hu, Option.some.injEq] at hv
        exact hv ▸ (ih hIu hPu hrest).mpr (h.2 u hu)

end SocketServer.Runs

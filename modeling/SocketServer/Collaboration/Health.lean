import SocketServer.Collaboration.RequestHook
import SocketServer.Library.Runs
import Mathlib.Logic.Function.Basic

/-!
# Health checks that overlap

`RedisRoomLifecycle.health` (`collaboration/src/room-lifecycle.ts`) has one check of its two
connections in flight at a time, and whoever asks for the health meanwhile waits for that check;
`within` gives each request its own time for that.  The model of the HTTP hook takes what the
dependencies do during a request as given.  Here it comes out of the requests, the replies of Redis
and core-api, and the clock, in any order.

* `healthStep`: the steps, one function of the source each; timers run as soon as they are due;
* `sound_step`: what every step keeps, one case for each step;
* `health_answered`: no request waits longer than its time, and its answer is that of the hook.
-/

namespace SocketServer.Collaboration

open SocketServer.Text SocketServer.Js

/-! ### Checks and requests -/

/-- The connections of `RedisRoomLifecycle`. -/
inductive Connection where
  | client
  | subscriber
  deriving DecidableEq

/-- A `checkHealth` in flight: when it was started, and when its pings were answered. -/
structure HealthCheck where
  started : ℕ
  replied : Connection → Option ℕ

structure EndedCheck where
  check : HealthCheck
  time : ℕ
  healthy : Bool

/-- A request in `failedDependencies`: when it asked, when and how the operations it waits for have
ended in its time, and the two statuses. -/
structure HealthRequest where
  asked : ℕ
  checkEnded : Option (ℕ × Bool)
  lifecycle : Option Bool
  fetchEnded : Option (ℕ × Bool)
  storage : Option Bool

/-- A request with its answer. -/
structure Answered where
  request : HealthRequest
  time : ℕ
  failed : List String

structure HealthState where
  now : ℕ
  healthCheck : Option HealthCheck
  ended : List EndedCheck
  waiting : List HealthRequest
  answers : List Answered
  observability : CollaborationObservability

def HealthState.initial (now : ℕ) : HealthState := ⟨now, none, [], [], [], .initial⟩

/-- `Promise.all` of the statuses; there is a second dependency when there is a storage. -/
def HealthRequest.failed (hasStorage : Bool) (r : HealthRequest) : Option (List String) :=
  r.lifecycle.bind fun lifecycle =>
    if hasStorage then
      r.storage.map fun storage => failedNames [(lifecycle, "room_lifecycle"), (storage, "core_api")]
    else some (failedNames [(lifecycle, "room_lifecycle")])

/-- The timers of a request, once they are due. -/
def HealthRequest.expire (timeoutMs now : ℕ) (r : HealthRequest) : HealthRequest :=
  if r.asked + timeoutMs ≤ now then
    { r with lifecycle := some (r.lifecycle.getD false), storage := some (r.storage.getD false) }
  else r

/-- The check that a request waits for has ended. -/
def HealthRequest.checked (time : ℕ) (healthy : Bool) (r : HealthRequest) : HealthRequest :=
  if r.lifecycle = none then
    { r with checkEnded := some (time, healthy), lifecycle := some healthy }
  else r

/-! ### Steps -/

inductive HealthAction where
  | ask
  | pong (connection : Connection)
  | pingFails
  | fetched (n : ℕ) (healthy : Bool)
  | respond (n : ℕ)
  | tick

/-- The end of a check: the field is cleared, and all that wait for it go on. -/
def HealthState.endCheck (s : HealthState) (check : HealthCheck) (healthy : Bool) : HealthState :=
  { s with
    healthCheck := none
    ended := s.ended ++ [⟨check, s.now, healthy⟩]
    waiting := s.waiting.map (HealthRequest.checked s.now healthy) }

/-- `refreshHealth` calls `health()`, which starts a check if none is in flight. -/
def HealthState.ask (s : HealthState) : HealthState :=
  { s with
    healthCheck := some (s.healthCheck.getD ⟨s.now, fun _ => none⟩)
    waiting := s.waiting ++ [⟨s.now, none, none, none, none⟩] }

/-- A connection answers its ping; the check ends with the second answer. -/
def HealthState.pong (s : HealthState) (connection : Connection) : Option HealthState :=
  match s.healthCheck with
  | none => none
  | some check =>
      match check.replied connection with
      | some _ => none
      | none =>
          let check : HealthCheck :=
            { check with replied := Function.update check.replied connection (some s.now) }
          if (check.replied .client).isSome && (check.replied .subscriber).isSome then
            some (s.endCheck check true)
          else some { s with healthCheck := some check }

/-- `storage.health()` of a request that still waits for it resolves. -/
def HealthState.fetched (hasStorage : Bool) (s : HealthState) (n : ℕ) (healthy : Bool) :
    Option HealthState :=
  match s.waiting[n]? with
  | none => none
  | some r =>
      if hasStorage = true ∧ r.storage = none then
        let r' : HealthRequest :=
          { r with fetchEnded := some (s.now, healthy), storage := some healthy }
        some { s with waiting := s.waiting.set n r' }
      else none

/-- All statuses are there: the result is reported and answered. -/
def HealthState.respond (hasStorage : Bool) (s : HealthState) (n : ℕ) : Option HealthState :=
  match s.waiting[n]? with
  | none => none
  | some r =>
      match r.failed hasStorage with
      | none => none
      | some failed =>
          some { s with
            waiting := s.waiting.eraseIdx n
            answers := s.answers ++ [⟨r, s.now, failed⟩]
            observability := s.observability.healthResult failed.isEmpty }

/-- Time passes once every request that can be answered has been, and the timers that are due run,
before whatever else happens at that instant.  The commands of a check have the same timeout: it
does not last longer. -/
def HealthState.tick (timeoutMs : ℕ) (hasStorage : Bool) (s : HealthState) : Option HealthState :=
  let answered := s.waiting.all fun r => (r.failed hasStorage).isNone
  let due := s.healthCheck.any fun check => check.started + timeoutMs ≤ s.now
  if answered && !due then
    some { s with
      now := s.now + 1
      waiting := s.waiting.map (HealthRequest.expire timeoutMs (s.now + 1)) }
  else none

def healthStep (timeoutMs : ℕ) (hasStorage : Bool) (s : HealthState) :
    HealthAction → Option HealthState
  | .ask => some s.ask
  | .pong connection => s.pong connection
  | .pingFails => s.healthCheck.map fun check => s.endCheck check false
  | .fetched n healthy => s.fetched hasStorage n healthy
  | .respond n => s.respond hasStorage n
  | .tick => s.tick (timerDelay timeoutMs) hasStorage

/-! ### What every step keeps -/

/-- What is known of a request, waiting or answered. -/
structure HealthRequest.Sound (timeoutMs : ℕ) (s : HealthState) (r : HealthRequest) : Prop where
  asked : r.asked ≤ s.now
  ended : ∀ time healthy, r.checkEnded = some (time, healthy) →
    r.lifecycle = some healthy ∧ r.asked ≤ time ∧ time < r.asked + timeoutMs ∧
      ∃ e ∈ s.ended, e.time = time ∧ e.healthy = healthy ∧ e.check.started ≤ r.asked
  missed : r.checkEnded = none →
    (r.lifecycle = none ∨ r.lifecycle = some false ∧ r.asked + timeoutMs ≤ s.now) ∧
      ∀ e ∈ s.ended, e.time ≤ r.asked ∨ r.asked + timeoutMs ≤ e.time
  fetched : ∀ time healthy, r.fetchEnded = some (time, healthy) →
    r.storage = some healthy ∧ r.asked ≤ time ∧ time < r.asked + timeoutMs
  unfetched : r.fetchEnded = none → r.storage = none ∨ r.storage = some false

/-- A request has time left, or its timers have just run. -/
structure HealthRequest.Waits (timeoutMs : ℕ) (s : HealthState) (r : HealthRequest) : Prop where
  sound : r.Sound timeoutMs s
  check : r.lifecycle = none → ∃ check, s.healthCheck = some check ∧ check.started ≤ r.asked
  time : s.now < r.asked + timeoutMs ∨
    s.now = r.asked + timeoutMs ∧ r.lifecycle ≠ none ∧ r.storage ≠ none

structure Answered.Sound (timeoutMs : ℕ) (hasStorage : Bool) (s : HealthState) (a : Answered) :
    Prop where
  sound : a.request.Sound timeoutMs s
  failed : a.request.failed hasStorage = some a.failed
  time : a.request.asked ≤ a.time ∧ a.time ≤ a.request.asked + timeoutMs
  checked : ∀ time healthy, a.request.checkEnded = some (time, healthy) → time ≤ a.time

/-- The pings of a check are answered after it has been started. -/
def HealthCheck.RepliedBy (check : HealthCheck) (now : ℕ) : Prop :=
  check.started ≤ now ∧ ∀ connection time, check.replied connection = some time →
    check.started ≤ time ∧ time ≤ now

structure HealthState.Sound (timeoutMs : ℕ) (hasStorage : Bool) (s : HealthState) : Prop where
  waiting : ∀ r ∈ s.waiting, r.Waits timeoutMs s
  answers : ∀ a ∈ s.answers, a.Sound timeoutMs hasStorage s
  ended : ∀ e ∈ s.ended, e.check.RepliedBy e.time ∧ e.time ≤ s.now ∧
    e.time ≤ e.check.started + timeoutMs ∧
    (e.healthy = true → ∀ connection, (e.check.replied connection).isSome = true)
  check : ∀ check, s.healthCheck = some check →
    check.RepliedBy s.now ∧ s.now ≤ check.started + timeoutMs
  observability : s.observability =
    s.answers.foldl (fun o a => o.healthResult a.failed.isEmpty) .initial

section

variable {timeoutMs : ℕ} {hasStorage : Bool} {s t : HealthState}

/-- Time goes on, and checks end that a request does not wait for. -/
theorem HealthRequest.Sound.later {r : HealthRequest} (h : r.Sound timeoutMs s)
    (hnow : s.now ≤ t.now) (hold : ∀ e ∈ s.ended, e ∈ t.ended)
    (hnew : ∀ e ∈ t.ended, e ∈ s.ended ∨ e.time = s.now ∧ r.lifecycle ≠ none) :
    r.Sound timeoutMs t where
  asked := h.asked.trans hnow
  ended time healthy hchecked := by
    obtain ⟨hlifecycle, hasked, htime, e, he, hspec⟩ := h.ended time healthy hchecked
    exact ⟨hlifecycle, hasked, htime, e, hold e he, hspec⟩
  missed hchecked := by
    obtain ⟨hstatus, hbefore⟩ := h.missed hchecked
    refine ⟨hstatus.imp_right fun hfalse => ⟨hfalse.1, hfalse.2.trans hnow⟩, fun e he => ?_⟩
    obtain hseen | ⟨htime, hsettled⟩ := hnew e he
    · exact hbefore e hseen
    · exact Or.inr (htime ▸ (hstatus.resolve_left hsettled).2)
  fetched := h.fetched
  unfetched := h.unfetched

/-- Time goes on, and no check ends. -/
theorem HealthRequest.Sound.unended {r : HealthRequest} (h : r.Sound timeoutMs s)
    (hnow : s.now ≤ t.now) (hended : t.ended = s.ended) : r.Sound timeoutMs t := by
  apply h.later hnow
  · intro e he
    rw [hended]
    exact he
  · intro e he
    rw [hended] at he
    exact Or.inl he

theorem Answered.Sound.unended {a : Answered} (h : a.Sound timeoutMs hasStorage s)
    (hnow : s.now ≤ t.now) (hended : t.ended = s.ended) : a.Sound timeoutMs hasStorage t :=
  ⟨h.sound.unended hnow hended, h.failed, h.time, h.checked⟩

theorem HealthCheck.RepliedBy.later {check : HealthCheck} {now now' : ℕ} (h : check.RepliedBy now)
    (hnow : now ≤ now') : check.RepliedBy now' := by
  refine ⟨h.1.trans hnow, fun connection time hreplied => ?_⟩
  obtain ⟨hstarted, htime⟩ := h.2 connection time hreplied
  exact ⟨hstarted, htime.trans hnow⟩

theorem sound_ask (htimeout : 0 < timeoutMs) (h : s.Sound timeoutMs hasStorage) :
    s.ask.Sound timeoutMs hasStorage := by
  have hstarted : (s.healthCheck.getD ⟨s.now, fun _ => none⟩).RepliedBy s.now ∧
      s.now ≤ (s.healthCheck.getD ⟨s.now, fun _ => none⟩).started + timeoutMs := by
    cases hcheck : s.healthCheck with
    | none => exact ⟨⟨le_rfl, fun _ _ hreplied => by cases hreplied⟩, Nat.le_add_right _ _⟩
    | some check => exact h.check check hcheck
  refine ⟨fun r hr => ?_, fun a ha => (h.answers a ha).unended le_rfl rfl, h.ended,
    fun check hcheck => ?_, h.observability⟩
  · obtain hold | hnew := List.mem_append.mp hr
    · have hwaits := h.waiting r hold
      refine ⟨hwaits.sound.unended le_rfl rfl, fun hnone => ?_, hwaits.time⟩
      obtain ⟨check, hcheck, hbefore⟩ := hwaits.check hnone
      refine ⟨check, ?_, hbefore⟩
      show some (s.healthCheck.getD _) = some check
      rw [hcheck]
      rfl
    · obtain rfl := List.mem_singleton.mp hnew
      refine ⟨⟨le_rfl, nofun, fun _ => ⟨Or.inl rfl, fun e he => ?_⟩, nofun, fun _ => Or.inl rfl⟩,
        fun _ => ⟨_, rfl, hstarted.1.1⟩, Or.inl ?_⟩
      · exact Or.inl (h.ended e he).2.1
      · show s.now < s.now + timeoutMs
        omega
  · cases hcheck
    exact hstarted

theorem sound_endCheck (h : s.Sound timeoutMs hasStorage) {flight check : HealthCheck}
    {healthy : Bool} (hflight : s.healthCheck = some flight)
    (hsame : check.started = flight.started) (hreplied : check.RepliedBy s.now)
    (hpongs : healthy = true → ∀ connection, (check.replied connection).isSome = true) :
    (s.endCheck check healthy).Sound timeoutMs hasStorage := by
  have hlater : ∀ {r : HealthRequest}, r.Sound timeoutMs s → r.lifecycle ≠ none →
      r.Sound timeoutMs (s.endCheck check healthy) := by
    intro r hr hsettled
    refine hr.later le_rfl (fun e he => List.mem_append_left _ he) fun e he => ?_
    obtain hseen | hnew := List.mem_append.mp he
    · exact Or.inl hseen
    · rw [List.mem_singleton.mp hnew]
      exact Or.inr ⟨rfl, hsettled⟩
  refine ⟨fun r' hr' => ?_, fun a ha => ?_, fun e he => ?_, nofun, h.observability⟩
  · obtain ⟨r, hr, rfl⟩ := List.mem_map.mp hr'
    have hwaits := h.waiting r hr
    rw [HealthRequest.checked]
    by_cases hnone : r.lifecycle = none
    · rw [if_pos hnone]
      have hleft : s.now < r.asked + timeoutMs :=
        hwaits.time.resolve_right fun hdue => hdue.2.1 hnone
      obtain ⟨flight', hflight', hbefore⟩ := hwaits.check hnone
      obtain rfl := Option.some.inj (hflight.symm.trans hflight')
      refine ⟨⟨hwaits.sound.asked, fun time healthy' hchecked => ?_, nofun, hwaits.sound.fetched,
        hwaits.sound.unfetched⟩, nofun, Or.inl hleft⟩
      cases hchecked
      exact ⟨rfl, hwaits.sound.asked, hleft, _, List.mem_append_right _ List.mem_cons_self, rfl, rfl,
        hsame ▸ hbefore⟩
    · rw [if_neg hnone]
      exact ⟨hlater hwaits.sound hnone, fun hcontra => absurd hcontra hnone, hwaits.time⟩
  · have hanswered := h.answers a ha
    refine ⟨hlater hanswered.sound fun hnone => ?_, hanswered.failed, hanswered.time,
      hanswered.checked⟩
    have hfailed := hanswered.failed
    rw [HealthRequest.failed, hnone] at hfailed
    cases hfailed
  · obtain hseen | hnew := List.mem_append.mp he
    · exact h.ended e hseen
    · rw [List.mem_singleton.mp hnew]
      exact ⟨hreplied, le_rfl, hsame ▸ (h.check flight hflight).2, hpongs⟩

theorem sound_pong (h : s.Sound timeoutMs hasStorage) {connection : Connection}
    (hstep : s.pong connection = some t) : t.Sound timeoutMs hasStorage := by
  unfold HealthState.pong at hstep
  split at hstep
  · cases hstep
  · rename_i flight hflight
    split at hstep
    · cases hstep
    · obtain ⟨⟨hstarted, htimes⟩, hleft⟩ := h.check flight hflight
      have hreplied : HealthCheck.RepliedBy
          ⟨flight.started, Function.update flight.replied connection (some s.now)⟩ s.now := by
        refine ⟨hstarted, fun other time htime => ?_⟩
        by_cases hother : other = connection
        · subst hother
          dsimp only at htime
          rw [Function.update_self] at htime
          cases htime
          exact ⟨hstarted, le_rfl⟩
        · dsimp only at htime
          rw [Function.update_of_ne hother] at htime
          exact htimes other time htime
      dsimp only at hstep
      split at hstep
      · rename_i hboth
        cases hstep
        obtain ⟨hclient, hsubscriber⟩ := Bool.and_eq_true_iff.mp hboth
        refine sound_endCheck h hflight rfl hreplied fun _ other => ?_
        cases other with
        | client => exact hclient
        | subscriber => exact hsubscriber
      · cases hstep
        refine ⟨fun r hr => ?_, fun a ha => (h.answers a ha).unended le_rfl rfl, h.ended,
          fun check hcheck => ?_, h.observability⟩
        · have hwaits := h.waiting r hr
          refine ⟨hwaits.sound.unended le_rfl rfl, fun hnone => ?_, hwaits.time⟩
          obtain ⟨flight', hflight', hbefore⟩ := hwaits.check hnone
          obtain rfl := Option.some.inj (hflight.symm.trans hflight')
          exact ⟨_, rfl, hbefore⟩
        · cases hcheck
          exact ⟨hreplied, hleft⟩

theorem sound_fetched (h : s.Sound timeoutMs hasStorage) {n : ℕ} {healthy : Bool}
    (hstep : s.fetched hasStorage n healthy = some t) : t.Sound timeoutMs hasStorage := by
  unfold HealthState.fetched at hstep
  split at hstep
  · cases hstep
  · rename_i r hr
    split at hstep
    · rename_i hopen
      cases hstep
      refine ⟨fun q hq => ?_, fun a ha => (h.answers a ha).unended le_rfl rfl, h.ended, h.check,
        h.observability⟩
      · obtain hold | rfl := List.mem_or_eq_of_mem_set hq
        · have hwaits := h.waiting q hold
          exact ⟨hwaits.sound.unended le_rfl rfl, hwaits.check, hwaits.time⟩
        · have hwaits := h.waiting r (List.mem_of_getElem? hr)
          have hleft : s.now < r.asked + timeoutMs :=
            hwaits.time.resolve_right fun hdue => hdue.2.2 hopen.2
          refine ⟨⟨hwaits.sound.asked, hwaits.sound.ended, hwaits.sound.missed,
            fun time healthy' hfetched => ?_, nofun⟩, hwaits.check, Or.inl hleft⟩
          cases hfetched
          exact ⟨rfl, hwaits.sound.asked, hleft⟩
    · cases hstep

theorem sound_respond (h : s.Sound timeoutMs hasStorage) {n : ℕ}
    (hstep : s.respond hasStorage n = some t) : t.Sound timeoutMs hasStorage := by
  unfold HealthState.respond at hstep
  split at hstep
  · cases hstep
  · rename_i r hr
    split at hstep
    · cases hstep
    · rename_i failed hfailed
      cases hstep
      refine ⟨fun q hq => ?_, fun a ha => ?_, h.ended, h.check, ?_⟩
      · have hwaits := h.waiting q (List.mem_of_mem_eraseIdx hq)
        exact ⟨hwaits.sound.unended le_rfl rfl, hwaits.check, hwaits.time⟩
      · obtain hold | hnew := List.mem_append.mp ha
        · exact (h.answers a hold).unended le_rfl rfl
        · rw [List.mem_singleton.mp hnew]
          have hwaits := h.waiting r (List.mem_of_getElem? hr)
          refine ⟨hwaits.sound.unended le_rfl rfl, hfailed, ⟨hwaits.sound.asked, ?_⟩, ?_⟩
          · obtain hleft | hdue := hwaits.time
            · exact hleft.le
            · exact hdue.1.le
          · intro time healthy hchecked
            obtain ⟨-, -, -, e, he, rfl, -⟩ := hwaits.sound.ended time healthy hchecked
            exact (h.ended e he).2.1
      · rw [List.foldl_append, ← h.observability]
        rfl

/-- A request whose timers run is answered from what has ended by then. -/
theorem HealthRequest.Waits.expire {r : HealthRequest} (h : r.Waits timeoutMs s)
    (hleft : s.now < r.asked + timeoutMs) (hnow : t.now = s.now + 1) (hended : t.ended = s.ended)
    (hcheck : t.healthCheck = s.healthCheck) :
    (r.expire timeoutMs (s.now + 1)).Waits timeoutMs t := by
  have hsound : r.Sound timeoutMs t := h.sound.unended (by omega) hended
  rw [HealthRequest.expire]
  split
  · rename_i hdue
    have htime : t.now = r.asked + timeoutMs := by omega
    refine ⟨⟨hsound.asked, ?_, ?_, ?_, ?_⟩, fun hnone => ?_, Or.inr ⟨htime, ?_, ?_⟩⟩
    · intro time healthy hchecked
      obtain ⟨hlifecycle, hrest⟩ := hsound.ended time healthy hchecked
      refine ⟨?_, hrest⟩
      show some (r.lifecycle.getD false) = some healthy
      rw [hlifecycle]
      rfl
    · intro hchecked
      obtain ⟨hstatus, hbefore⟩ := hsound.missed hchecked
      refine ⟨Or.inr ⟨?_, htime.ge⟩, hbefore⟩
      show some (r.lifecycle.getD false) = some false
      obtain hnone | ⟨hfalse, -⟩ := hstatus
      · rw [hnone]
        rfl
      · rw [hfalse]
        rfl
    · intro time healthy hfetched
      obtain ⟨hstorage, hrest⟩ := hsound.fetched time healthy hfetched
      refine ⟨?_, hrest⟩
      show some (r.storage.getD false) = some healthy
      rw [hstorage]
      rfl
    · intro hfetched
      right
      show some (r.storage.getD false) = some false
      obtain hnone | hfalse := hsound.unfetched hfetched
      · rw [hnone]
        rfl
      · rw [hfalse]
        rfl
    · cases hnone
    · intro hnone
      cases hnone
    · intro hnone
      cases hnone
  · rename_i hearly
    refine ⟨hsound, ?_, Or.inl (by omega)⟩
    rw [hcheck]
    exact h.check

theorem sound_tick (h : s.Sound timeoutMs hasStorage)
    (hstep : s.tick timeoutMs hasStorage = some t) : t.Sound timeoutMs hasStorage := by
  unfold HealthState.tick at hstep
  dsimp only at hstep
  split at hstep
  · rename_i hopen
    rw [Bool.and_eq_true] at hopen
    cases hstep
    refine ⟨fun q hq => ?_, fun a ha => (h.answers a ha).unended (Nat.le_succ _) rfl,
      fun e he => ?_, fun check hcheck => ?_, h.observability⟩
    · obtain ⟨r, hr, rfl⟩ := List.mem_map.mp hq
      have hwaits := h.waiting r hr
      refine hwaits.expire (hwaits.time.resolve_right fun hdue => ?_) rfl rfl rfl
      -- a request whose timers have run would have been answered
      obtain ⟨lifecycle, hlifecycle⟩ := Option.ne_none_iff_exists'.mp hdue.2.1
      obtain ⟨storage, hstorage⟩ := Option.ne_none_iff_exists'.mp hdue.2.2
      have hnone := List.all_eq_true.mp hopen.1 r hr
      rw [HealthRequest.failed, hlifecycle, hstorage] at hnone
      cases hasStorage <;> cases hnone
    · obtain ⟨hreplied, htime, hspec⟩ := h.ended e he
      exact ⟨hreplied, htime.trans (Nat.le_succ _), hspec⟩
    · have hcheck' : s.healthCheck = some check := hcheck
      have hleft : s.now < check.started + timeoutMs := by simpa [hcheck'] using hopen.2
      exact ⟨(h.check check hcheck').1.later (Nat.le_succ _), hleft⟩
  · cases hstep

/-- **Every step keeps what is known.** -/
theorem sound_step (h : s.Sound (timerDelay timeoutMs) hasStorage)
    {action : HealthAction} (hstep : healthStep timeoutMs hasStorage s action = some t) :
    t.Sound (timerDelay timeoutMs) hasStorage := by
  cases action with
  | ask =>
      cases hstep
      exact sound_ask (timerDelay_pos timeoutMs) h
  | pong connection => exact sound_pong h hstep
  | pingFails =>
      obtain ⟨flight, hflight, rfl⟩ := Option.map_eq_some_iff.mp hstep
      exact sound_endCheck h hflight rfl (h.check flight hflight).1 fun hfalse => by cases hfalse
  | fetched n healthy => exact sound_fetched h hstep
  | respond n => exact sound_respond h hstep
  | tick => exact sound_tick h hstep

theorem sound_initial (now : ℕ) : (HealthState.initial now).Sound timeoutMs hasStorage where
  waiting _ hr := absurd hr List.not_mem_nil
  answers _ ha := absurd ha List.not_mem_nil
  ended _ he := absurd he List.not_mem_nil
  check _ hcheck := by cases hcheck
  observability := rfl

theorem sound_run {now : ℕ} {actions : List HealthAction}
    (hrun : Runs.run (healthStep timeoutMs hasStorage) (.initial now) actions = some s) :
    s.Sound (timerDelay timeoutMs) hasStorage :=
  Runs.invariant_run (healthStep timeoutMs hasStorage) (fun _ _ _ h hstep => sound_step h hstep)
    (sound_initial now) hrun

end

/-! ### Answers -/

/-- What a request sees of an operation that it waits for. -/
def HealthRequest.operation (r : HealthRequest) : Option (ℕ × Bool) → Operation Bool
  | none => .hangs
  | some (time, healthy) => .resolves (time - r.asked) healthy

/-- The dependencies during a request. -/
def HealthRequest.dependencies (hasStorage : Bool) (delete : JsString → Except String Unit)
    (r : HealthRequest) : Dependencies where
  lifecycleHealth := r.operation r.checkEnded
  storageHealth := if hasStorage then some (r.operation r.fetchEnded) else none
  delete := delete

/-- `failedDependencies` takes this for the status of the operation. -/
def Operation.Reports (timeoutMs : ℕ) (operation : Operation Bool) (status : Bool) : Prop :=
  within timeoutMs operation = .ok status ∨
    within timeoutMs operation = .error "dependency timed out" ∧ status = false

theorem failedDependencies_eq {timeoutMs : ℕ} {dependencies : List HealthDependency}
    {statuses : List (Bool × String)}
    (h : List.Forall₂ (fun dependency status =>
      dependency.health.Reports timeoutMs status.1 ∧ dependency.name = status.2)
      dependencies statuses) :
    failedDependencies dependencies timeoutMs = failedNames statuses := by
  unfold failedDependencies
  congr 1
  induction h with
  | nil => rfl
  | @cons dependency status _ _ hstatus _ ih =>
      obtain ⟨healthy, name⟩ := status
      obtain ⟨hreports, rfl⟩ := hstatus
      rw [List.map_cons, ih]
      obtain hok | ⟨herror, hfalse⟩ := hreports
      · rw [hok]
      · rw [herror, ← hfalse]

section

variable {timeoutMs : ℕ} {hasStorage : Bool} {s : HealthState} {r : HealthRequest}

/-- An operation that has ended in time gives its status; one that has not counts as failed. -/
theorem HealthRequest.operation_reports {outcome : Option (ℕ × Bool)} {status : Bool}
    (hended : ∀ time healthy, outcome = some (time, healthy) →
      healthy = status ∧ r.asked ≤ time ∧ time < r.asked + timerDelay timeoutMs)
    (hmissed : outcome = none → status = false) :
    (r.operation outcome).Reports timeoutMs status := by
  cases outcome with
  | none => exact Or.inr ⟨rfl, hmissed rfl⟩
  | some ended =>
      obtain ⟨hstatus, hasked, htime⟩ := hended ended.1 ended.2 rfl
      have hafter : ended.1 - r.asked < timerDelay timeoutMs := by omega
      left
      show (if ended.1 - r.asked < timerDelay timeoutMs then Except.ok ended.2 else _) = _
      rw [if_pos hafter, hstatus]

theorem HealthRequest.Sound.lifecycle_reports (h : r.Sound (timerDelay timeoutMs) s) {status : Bool}
    (hstatus : r.lifecycle = some status) :
    (r.operation r.checkEnded).Reports timeoutMs status := by
  refine HealthRequest.operation_reports (fun time healthy hchecked => ?_) fun hmissed => ?_
  · obtain ⟨hlifecycle, hasked, htime, -⟩ := h.ended time healthy hchecked
    exact ⟨Option.some.inj (hlifecycle.symm.trans hstatus), hasked, htime⟩
  · obtain hnone | ⟨hfalse, -⟩ := (h.missed hmissed).1
    · rw [hnone] at hstatus
      cases hstatus
    · exact Option.some.inj (hstatus.symm.trans hfalse)

theorem HealthRequest.Sound.storage_reports (h : r.Sound (timerDelay timeoutMs) s) {status : Bool}
    (hstatus : r.storage = some status) :
    (r.operation r.fetchEnded).Reports timeoutMs status := by
  refine HealthRequest.operation_reports (fun time healthy hfetched => ?_) fun hmissed => ?_
  · obtain ⟨hstorage, hasked, htime⟩ := h.fetched time healthy hfetched
    exact ⟨Option.some.inj (hstorage.symm.trans hstatus), hasked, htime⟩
  · obtain hnone | hfalse := h.unfetched hmissed
    · rw [hnone] at hstatus
      cases hstatus
    · exact Option.some.inj (hstatus.symm.trans hfalse)

/-- The statuses that `failed` reads. -/
theorem HealthRequest.failed_eq_some {failed : List String}
    (h : r.failed hasStorage = some failed) :
    ∃ lifecycle, r.lifecycle = some lifecycle ∧
      (hasStorage = false ∧ failed = failedNames [(lifecycle, "room_lifecycle")] ∨
        ∃ storage, hasStorage = true ∧ r.storage = some storage ∧
          failed = failedNames [(lifecycle, "room_lifecycle"), (storage, "core_api")]) := by
  obtain ⟨lifecycle, hlifecycle, hrest⟩ := Option.bind_eq_some_iff.mp h
  refine ⟨lifecycle, hlifecycle, ?_⟩
  cases hasStorage with
  | false => exact Or.inl ⟨rfl, (Option.some.inj hrest).symm⟩
  | true =>
      obtain ⟨storage, hstorage, hfailed⟩ := Option.map_eq_some_iff.mp hrest
      exact Or.inr ⟨storage, rfl, hstorage, hfailed.symm⟩

/-- **A request is answered as the hook answers it**, its operations having ended as they have. -/
theorem HealthRequest.Sound.failed_eq (h : r.Sound (timerDelay timeoutMs) s) {failed : List String}
    (hfailed : r.failed hasStorage = some failed) (delete : JsString → Except String Unit) :
    failed = failedDependencies (healthDependencies (r.dependencies hasStorage delete))
      timeoutMs := by
  obtain ⟨lifecycle, hlifecycle, ⟨rfl, rfl⟩ | ⟨storage, rfl, hstorage, rfl⟩⟩ :=
    HealthRequest.failed_eq_some hfailed
  · exact (failedDependencies_eq
      (.cons ⟨h.lifecycle_reports hlifecycle, rfl⟩ .nil)).symm
  · exact (failedDependencies_eq (.cons ⟨h.lifecycle_reports hlifecycle, rfl⟩
      (.cons ⟨h.storage_reports hstorage, rfl⟩ .nil))).symm

/-- The room lifecycle is named exactly when its status is false. -/
theorem HealthRequest.mem_failed {failed : List String} (h : r.failed hasStorage = some failed) :
    "room_lifecycle" ∈ failed ↔ r.lifecycle = some false := by
  obtain ⟨lifecycle, hlifecycle, ⟨-, rfl⟩ | ⟨storage, -, -, rfl⟩⟩ := HealthRequest.failed_eq_some h
  · rw [hlifecycle]
    cases lifecycle <;> decide
  · rw [hlifecycle]
    cases lifecycle <;> cases storage <;> decide

/-- A request that found the room lifecycle healthy waited for a check that both connections had
answered. -/
theorem Answered.Sound.healthy {a : Answered} (h : s.Sound timeoutMs hasStorage)
    (ha : a.Sound timeoutMs hasStorage s) (hhealthy : "room_lifecycle" ∉ a.failed) :
    ∃ e ∈ s.ended, e.check.started ≤ a.request.asked ∧
      a.request.asked ≤ e.check.started + timeoutMs ∧ a.request.asked ≤ e.time ∧ e.time ≤ a.time ∧
      ∀ connection, ∃ time, e.check.replied connection = some time ∧
        e.check.started ≤ time ∧ time ≤ e.time := by
  have hstatus : a.request.lifecycle = some true := by
    obtain ⟨lifecycle, hlifecycle, -⟩ := HealthRequest.failed_eq_some ha.failed
    rw [HealthRequest.mem_failed ha.failed, hlifecycle] at hhealthy
    rw [hlifecycle]
    cases lifecycle with
    | false => exact absurd rfl hhealthy
    | true => rfl
  cases hchecked : a.request.checkEnded with
  | none =>
      obtain hnone | ⟨hfalse, -⟩ := (ha.sound.missed hchecked).1
      · rw [hnone] at hstatus
        cases hstatus
      · rw [hfalse] at hstatus
        cases hstatus
  | some ended =>
      obtain ⟨hlifecycle, hasked, -, e, he, htime, hsame, hstarted⟩ :=
        ha.sound.ended ended.1 ended.2 hchecked
      obtain ⟨⟨-, htimes⟩, -, hlast, hpongs⟩ := h.ended e he
      have hanswered : e.time ≤ a.time := htime ▸ ha.checked ended.1 ended.2 hchecked
      have hbefore : a.request.asked ≤ e.time := htime ▸ hasked
      refine ⟨e, he, hstarted, hbefore.trans hlast, hbefore, hanswered, fun connection => ?_⟩
      have htrue : e.healthy = true := hsame.trans (Option.some.inj (hlifecycle.symm.trans hstatus))
      obtain ⟨time, hreplied⟩ := Option.isSome_iff_exists.mp (hpongs htrue connection)
      exact ⟨time, hreplied, htimes connection time hreplied⟩

/-- One that found it failed waited for a check that failed, or that had not ended in its time. -/
theorem Answered.Sound.unhealthy {a : Answered} (ha : a.Sound timeoutMs hasStorage s)
    (hfailed : "room_lifecycle" ∈ a.failed) :
    (∃ e ∈ s.ended, e.healthy = false ∧ a.request.asked ≤ e.time ∧ e.time ≤ a.time) ∨
      ∀ e ∈ s.ended, e.time ≤ a.request.asked ∨ a.request.asked + timeoutMs ≤ e.time := by
  have hstatus : a.request.lifecycle = some false := (HealthRequest.mem_failed ha.failed).mp hfailed
  cases hchecked : a.request.checkEnded with
  | none => exact Or.inr (ha.sound.missed hchecked).2
  | some ended =>
      obtain ⟨hlifecycle, hasked, -, e, he, htime, hsame, -⟩ :=
        ha.sound.ended ended.1 ended.2 hchecked
      left
      refine ⟨e, he, ?_, htime ▸ hasked, htime ▸ ha.checked ended.1 ended.2 hchecked⟩
      exact hsame.trans (Option.some.inj (hlifecycle.symm.trans hstatus))

end

/-- **Health requests that share a check.**  No request waits longer than the delay of its timer,
and no check lasts longer than that.  Every request is answered as the hook answers it; a room
lifecycle found healthy has answered both pings of one check that was under way when the request
came, and one found failed has failed a check, or ended none, while it waited.  The counters have
every answer. -/
theorem health_answered {timeoutMs : ℕ} {hasStorage : Bool} {now : ℕ}
    {actions : List HealthAction} {s : HealthState}
    (hrun : Runs.run (healthStep timeoutMs hasStorage) (.initial now) actions = some s)
    (delete : JsString → Except String Unit) :
    (∀ r ∈ s.waiting, s.now ≤ r.asked + timerDelay timeoutMs) ∧
    (∀ check, s.healthCheck = some check → s.now ≤ check.started + timerDelay timeoutMs) ∧
    (∀ a ∈ s.answers,
      (a.request.asked ≤ a.time ∧ a.time ≤ a.request.asked + timerDelay timeoutMs) ∧
      a.failed = failedDependencies
        (healthDependencies (a.request.dependencies hasStorage delete)) timeoutMs ∧
      ("room_lifecycle" ∉ a.failed →
        ∃ e ∈ s.ended, e.check.started ≤ a.request.asked ∧
          a.request.asked ≤ e.check.started + timerDelay timeoutMs ∧ a.request.asked ≤ e.time ∧
          e.time ≤ a.time ∧
          ∀ connection, ∃ time, e.check.replied connection = some time ∧
            e.check.started ≤ time ∧ time ≤ e.time) ∧
      ("room_lifecycle" ∈ a.failed →
        (∃ e ∈ s.ended, e.healthy = false ∧ a.request.asked ≤ e.time ∧ e.time ≤ a.time) ∨
          ∀ e ∈ s.ended,
            e.time ≤ a.request.asked ∨ a.request.asked + timerDelay timeoutMs ≤ e.time)) ∧
    s.observability =
      s.answers.foldl (fun o a => o.healthResult a.failed.isEmpty) .initial := by
  have h := sound_run hrun
  refine ⟨fun r hr => ?_, fun check hcheck => (h.check check hcheck).2, fun a ha => ?_,
    h.observability⟩
  · obtain hleft | hdue := (h.waiting r hr).time
    · exact hleft.le
    · exact hdue.1.le
  · have hanswered := h.answers a ha
    exact ⟨hanswered.time, hanswered.sound.failed_eq hanswered.failed delete,
      fun hhealthy => hanswered.healthy h hhealthy, fun hfailed => hanswered.unhealthy hfailed⟩

/-- Two requests for one check; the second is not told of core-api in its time. -/
def sampleHealthRequests : List HealthAction :=
  [.ask, .pong .client, .fetched 0 true, .tick, .ask, .pong .subscriber, .respond 0, .tick, .tick,
    .respond 0]

theorem health_answered_sample :
    ∃ s, Runs.run (healthStep 2 true) (.initial 0) sampleHealthRequests = some s ∧
      s.answers.map (·.failed) = [[], ["core_api"]] ∧
      ∀ a ∈ s.answers, a.time ≤ a.request.asked + 2 := by
  have hrun : (Runs.run (healthStep 2 true) (.initial 0) sampleHealthRequests).map
      (fun s => s.answers.map (·.failed)) = some [[], ["core_api"]] := by decide +kernel
  obtain ⟨s, hs, hfailed⟩ := Option.map_eq_some_iff.mp hrun
  obtain ⟨-, -, hanswers, -⟩ := health_answered hs fun _ => .ok ()
  exact ⟨s, hs, hfailed, fun a ha => (hanswers a ha).1.2⟩

end SocketServer.Collaboration

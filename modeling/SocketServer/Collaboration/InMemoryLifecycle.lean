import SocketServer.Collaboration.RoomLifecycle
import Mathlib.Data.Finset.Max

/-!
# The lifecycle that lives in memory

`InMemoryRoomLifecycle` (`collaboration/src/room-lifecycle.ts`) stands in for `RedisRoomLifecycle` when
no Redis is configured.  Both forget a deletion after `deletionTTL`.  Redis keeps one expiry for a
key, and a later `SET` replaces it; in memory every call starts a timer of its own, and the first
that runs out takes the room from the set, whatever has been deleted since.

* `runTimers_after`: what the set holds after a sequence of calls, by induction on the last call;
* `redis_after`: what Redis answers after the same calls;
* `lifecycles_agree_iff`: when the two answers are the same.
-/

namespace SocketServer.Collaboration

open SocketServer.Text SocketServer.Js

/-! ### `InMemoryRoomLifecycle` -/

/-- A timer of `delete`: when it is due, and the room that its callback takes from the set. -/
structure Timer where
  due : ℕ
  room : JsString
  deriving DecidableEq

structure InMemoryRoomLifecycle where
  deletedRooms : Finset JsString
  timers : List Timer

def InMemoryRoomLifecycle.new : InMemoryRoomLifecycle := ⟨∅, []⟩

/-- The callbacks whose delay has passed by `now`. -/
def InMemoryRoomLifecycle.runTimers (l : InMemoryRoomLifecycle) (now : ℕ) :
    InMemoryRoomLifecycle where
  deletedRooms := (l.timers.filter (·.due ≤ now)).foldl (fun rooms t => rooms.erase t.room)
    l.deletedRooms
  timers := l.timers.filter (now < ·.due)

/-- `delete(roomName)` at a time; the timers that are due have run. -/
def InMemoryRoomLifecycle.delete (l : InMemoryRoomLifecycle) (now : ℕ) (roomName : JsString) :
    InMemoryRoomLifecycle where
  deletedRooms := insert roomName (l.runTimers now).deletedRooms
  timers := (l.runTimers now).timers ++ [⟨now + deletionTTL, roomName⟩]

/-- `isDeleted(roomName)` at a time. -/
def InMemoryRoomLifecycle.isDeleted (l : InMemoryRoomLifecycle) (now : ℕ) (roomName : JsString) :
    Bool :=
  roomName ∈ (l.runTimers now).deletedRooms

theorem mem_runTimers {l : InMemoryRoomLifecycle} {now : ℕ} {roomName : JsString} :
    roomName ∈ (l.runTimers now).deletedRooms ↔
      roomName ∈ l.deletedRooms ∧ ∀ t ∈ l.timers, t.due ≤ now → t.room ≠ roomName := by
  have hfold : ∀ (timers : List Timer) (rooms : Finset JsString),
      roomName ∈ timers.foldl (fun rooms t => rooms.erase t.room) rooms ↔
        roomName ∈ rooms ∧ ∀ t ∈ timers, t.room ≠ roomName := by
    intro timers
    induction timers with
    | nil => exact fun rooms => ⟨fun h => ⟨h, nofun⟩, fun h => h.1⟩
    | cons t timers ih =>
        intro rooms
        rw [List.foldl_cons, ih, Finset.mem_erase, List.forall_mem_cons]
        constructor
        · rintro ⟨⟨hne, hmem⟩, hrest⟩
          exact ⟨hmem, hne.symm, hrest⟩
        · rintro ⟨hmem, hne, hrest⟩
          exact ⟨⟨hne.symm, hmem⟩, hrest⟩
  rw [InMemoryRoomLifecycle.runTimers, hfold]
  simp only [List.mem_filter, decide_eq_true_eq, and_imp]

theorem mem_timers_runTimers {l : InMemoryRoomLifecycle} {now : ℕ} {t : Timer} :
    t ∈ (l.runTimers now).timers ↔ t ∈ l.timers ∧ now < t.due := by
  rw [InMemoryRoomLifecycle.runTimers, List.mem_filter, decide_eq_true_eq]

/-! ### Sequences of calls -/

/-- A call `delete(room)` at a time. -/
structure DeleteCall where
  time : ℕ
  room : JsString
  deriving DecidableEq

/-- The lifecycle in memory after some calls. -/
def memoryAfter (calls : List DeleteCall) : InMemoryRoomLifecycle :=
  calls.foldl (fun l call => l.delete call.time call.room) .new

/-- Redis after the same calls, each a `SET` with `PX`. -/
def redisAfter (calls : List DeleteCall) : Redis :=
  calls.foldl (fun redis call =>
    Redis.set { redis with now := call.time } (deletionKey call.room) deletionTTL) ⟨0, fun _ => none⟩

theorem memoryAfter_snoc (calls : List DeleteCall) (call : DeleteCall) :
    memoryAfter (calls ++ [call]) = (memoryAfter calls).delete call.time call.room := by
  rw [memoryAfter, List.foldl_append]
  rfl

theorem redisAfter_snoc (calls : List DeleteCall) (call : DeleteCall) :
    redisAfter (calls ++ [call]) =
      Redis.set { redisAfter calls with now := call.time } (deletionKey call.room) deletionTTL := by
  rw [redisAfter, List.foldl_append]
  rfl

/-- The room has been deleted, and since the last of its timers that has run out it has been deleted
once more. -/
def InSet (calls : List DeleteCall) (now : ℕ) (room : JsString) : Prop :=
  (∃ d ∈ calls, d.room = room) ∧ ∀ c ∈ calls, c.room = room → c.time + deletionTTL ≤ now →
    ∃ d ∈ calls, d.room = room ∧ c.time + deletionTTL ≤ d.time

/-- A deletion of the room has not run out. -/
def Alive (calls : List DeleteCall) (now : ℕ) (room : JsString) : Prop :=
  ∃ d ∈ calls, d.room = room ∧ now < d.time + deletionTTL

/-- One more call: the room is in the set if it is the room of the call or was in the set, and no timer
that is still pending at the call runs out later. -/
theorem inSet_snoc {calls : List DeleteCall} {call : DeleteCall} {now : ℕ}
    (hbefore : ∀ c ∈ calls, c.time ≤ call.time) (hcall : call.time ≤ now) (room : JsString) :
    InSet (calls ++ [call]) now room ↔
      (room = call.room ∨ InSet calls call.time room) ∧
      (∀ c ∈ calls, call.time < c.time + deletionTTL → c.time + deletionTTL ≤ now →
        c.room ≠ room) ∧
      (call.time + deletionTTL ≤ now → call.room ≠ room) := by
  have hpos := deletionTTL_pos
  have hmem : ∀ {d}, d ∈ calls ++ [call] ↔ d ∈ calls ∨ d = call := by simp
  have htime : ∀ {d}, d ∈ calls ++ [call] → d.time ≤ call.time := by
    intro d hd
    obtain hold | rfl := hmem.mp hd
    · exact hbefore d hold
    · exact le_rfl
  constructor
  · rintro ⟨⟨d, hd, hroom⟩, hagain⟩
    refine ⟨?_, fun c hc hpending hdue hcroom => ?_, fun hdue hroom => ?_⟩
    · by_cases hsame : room = call.room
      · exact Or.inl hsame
      · -- what was deleted once more was deleted by an earlier call
        have hold : ∀ {e}, e ∈ calls ++ [call] → e.room = room → e ∈ calls := by
          intro e he heroom
          refine (hmem.mp he).resolve_right ?_
          rintro rfl
          exact hsame heroom.symm
        refine Or.inr ⟨⟨d, hold hd hroom, hroom⟩, fun c hc hcroom hdue => ?_⟩
        obtain ⟨e, he, heroom, hlate⟩ :=
          hagain c (hmem.mpr (Or.inl hc)) hcroom (hdue.trans hcall)
        exact ⟨e, hold he heroom, heroom, hlate⟩
    · obtain ⟨e, he, -, hlate⟩ := hagain c (hmem.mpr (Or.inl hc)) hcroom hdue
      have hearly := htime he
      omega
    · obtain ⟨e, he, -, hlate⟩ := hagain call (hmem.mpr (Or.inr rfl)) hroom hdue
      have hearly := htime he
      omega
  · rintro ⟨hset, hpending, hnew⟩
    obtain rfl | ⟨⟨d, hd, hroom⟩, hagain⟩ := hset
    · refine ⟨⟨call, hmem.mpr (Or.inr rfl), rfl⟩, fun c hc hcroom hdue => ?_⟩
      refine ⟨call, hmem.mpr (Or.inr rfl), rfl, ?_⟩
      obtain hold | rfl := hmem.mp hc
      · by_contra hlate
        exact hpending c hold (not_le.mp hlate) hdue hcroom
      · exact absurd rfl (hnew hdue)
    · refine ⟨⟨d, hmem.mpr (Or.inl hd), hroom⟩, fun c hc hcroom hdue => ?_⟩
      obtain hold | rfl := hmem.mp hc
      · by_cases hran : c.time + deletionTTL ≤ call.time
        · obtain ⟨e, he, heroom, hlate⟩ := hagain c hold hcroom hran
          exact ⟨e, hmem.mpr (Or.inl he), heroom, hlate⟩
        · exact absurd hcroom (hpending c hold (not_le.mp hran) hdue)
      · exact absurd hcroom (hnew hdue)

/-- **The set and the timers** once the callbacks due at `now` have run, by induction on the last
call. -/
theorem runTimers_after {calls : List DeleteCall} {now : ℕ}
    (hsorted : calls.Pairwise fun c d => c.time ≤ d.time) (hlater : ∀ c ∈ calls, c.time ≤ now) :
    (∀ room, room ∈ ((memoryAfter calls).runTimers now).deletedRooms ↔ InSet calls now room) ∧
    ∀ t, t ∈ ((memoryAfter calls).runTimers now).timers ↔
      now < t.due ∧ ∃ c ∈ calls, t = ⟨c.time + deletionTTL, c.room⟩ := by
  induction calls using List.reverseRecOn generalizing now with
  | nil =>
      refine ⟨fun room => ⟨fun h => absurd h (Finset.notMem_empty _), ?_⟩, fun t => ⟨nofun, ?_⟩⟩
      · rintro ⟨⟨d, hd, -⟩, -⟩
        exact absurd hd List.not_mem_nil
      · rintro ⟨-, c, hc, -⟩
        exact absurd hc List.not_mem_nil
  | append_singleton calls call ih =>
      obtain ⟨hsorted, -, hlast⟩ := List.pairwise_append.mp hsorted
      have hbefore : ∀ c ∈ calls, c.time ≤ call.time := fun c hc =>
        hlast c hc call (List.mem_singleton_self call)
      have hcall : call.time ≤ now := hlater call (by simp)
      obtain ⟨hrooms, htimers⟩ := ih hsorted hbefore
      have hpending : ∀ t, t ∈ (memoryAfter (calls ++ [call])).timers ↔
          (call.time < t.due ∧ ∃ c ∈ calls, t = ⟨c.time + deletionTTL, c.room⟩) ∨
            t = ⟨call.time + deletionTTL, call.room⟩ := by
        intro t
        rw [memoryAfter_snoc, InMemoryRoomLifecycle.delete, List.mem_append, List.mem_singleton,
          htimers]
      refine ⟨fun room => ?_, fun t => ?_⟩
      · have hset : room ∈ (memoryAfter (calls ++ [call])).deletedRooms ↔
            room = call.room ∨ InSet calls call.time room := by
          rw [memoryAfter_snoc, InMemoryRoomLifecycle.delete, Finset.mem_insert, hrooms]
        rw [mem_runTimers, inSet_snoc hbefore hcall, hset]
        refine and_congr_right fun _ => ⟨fun hnone => ⟨fun c hc hlate hdue => ?_, fun hdue => ?_⟩,
          fun hnone t ht hdue => ?_⟩
        · exact hnone _ ((hpending _).mpr (Or.inl ⟨hlate, c, hc, rfl⟩)) hdue
        · exact hnone _ ((hpending _).mpr (Or.inr rfl)) hdue
        · obtain ⟨hlate, c, hc, rfl⟩ | rfl := (hpending t).mp ht
          · exact hnone.1 c hc hlate hdue
          · exact hnone.2 hdue
      · rw [mem_timers_runTimers, hpending]
        constructor
        · rintro ⟨⟨-, c, hc, rfl⟩ | rfl, hdue⟩
          · exact ⟨hdue, c, List.mem_append_left _ hc, rfl⟩
          · exact ⟨hdue, call, List.mem_append_right _ (List.mem_singleton_self call), rfl⟩
        · rintro ⟨hdue, c, hc, rfl⟩
          refine ⟨?_, hdue⟩
          obtain hold | hnew := List.mem_append.mp hc
          · exact Or.inl ⟨Nat.lt_of_le_of_lt hcall hdue, c, hold, rfl⟩
          · exact Or.inr (by rw [List.mem_singleton.mp hnew])

/-! ### Redis -/

/-- **The keys of Redis** after the same calls. -/
theorem redis_after {calls : List DeleteCall} {now : ℕ}
    (hsorted : calls.Pairwise fun c d => c.time ≤ d.time) (room : JsString) :
    Redis.hasKey { redisAfter calls with now := now } (deletionKey room) = true ↔
      Alive calls now room := by
  induction calls using List.reverseRecOn with
  | nil =>
      refine ⟨fun h => absurd h Bool.false_ne_true, ?_⟩
      rintro ⟨d, hd, -⟩
      exact absurd hd List.not_mem_nil
  | append_singleton calls call ih =>
      obtain ⟨hsorted, -, hlast⟩ := List.pairwise_append.mp hsorted
      rw [redisAfter_snoc, Redis.hasKey_iff]
      by_cases hroom : room = call.room
      · subst hroom
        have hexpiry : (Redis.set { redisAfter calls with now := call.time }
            (deletionKey call.room) deletionTTL).expiry (deletionKey call.room)
              = some (call.time + deletionTTL) := Function.update_self _ _ _
        constructor
        · rintro ⟨time, htime, halive⟩
          obtain rfl := Option.some.inj (hexpiry.symm.trans htime)
          exact ⟨call, by simp, rfl, halive⟩
        · rintro ⟨d, hd, -, halive⟩
          refine ⟨_, hexpiry, Nat.lt_of_lt_of_le halive (Nat.add_le_add_right ?_ deletionTTL)⟩
          obtain hold | hnew := List.mem_append.mp hd
          · exact hlast d hold call (List.mem_singleton_self call)
          · rw [List.mem_singleton.mp hnew]
      · have hkey : deletionKey room ≠ deletionKey call.room :=
          fun heq => hroom (deletionKey_injective heq)
        have hexpiry : (Redis.set { redisAfter calls with now := call.time }
            (deletionKey call.room) deletionTTL).expiry (deletionKey room)
              = (redisAfter calls).expiry (deletionKey room) := Function.update_of_ne hkey _ _
        refine Iff.trans ?_ ((ih hsorted).trans ?_)
        · rw [Redis.hasKey_iff]
          simp only [hexpiry]
        · constructor
          · rintro ⟨d, hd, hdroom, halive⟩
            exact ⟨d, List.mem_append_left _ hd, hdroom, halive⟩
          · rintro ⟨d, hd, hdroom, halive⟩
            obtain hold | hnew := List.mem_append.mp hd
            · exact ⟨d, hold, hdroom, halive⟩
            · rw [List.mem_singleton.mp hnew] at hdroom
              exact absurd hdroom.symm hroom

/-! ### The two answers -/

/-- The room was deleted again before an earlier deletion of it had run out, the earlier one has run
out since, and the later one has not. -/
def DeletedAgain (calls : List DeleteCall) (query : ℕ) (room : JsString) : Prop :=
  (∃ c ∈ calls, c.room = room ∧ c.time + deletionTTL < query ∧
    ∀ d ∈ calls, d.room = room → d.time < c.time + deletionTTL) ∧
  ∃ d ∈ calls, d.room = room ∧ query < d.time + deletionTTL

/-- What is in the set has not run out in Redis: its last deletion is not followed by another. -/
theorem alive_of_inSet {calls : List DeleteCall} {now : ℕ} {room : JsString}
    (h : InSet calls now room) : Alive calls now room := by
  obtain ⟨⟨d, hd, hroom⟩, hagain⟩ := h
  have hpos := deletionTTL_pos
  obtain ⟨c, hc, hlast⟩ := (calls.filter fun e => e.room = room).toFinset.exists_max_image
    DeleteCall.time ⟨d, by simp [hd, hroom]⟩
  simp only [List.mem_toFinset, List.mem_filter, decide_eq_true_eq, and_imp] at hc hlast
  refine ⟨c, hc.1, hc.2, not_le.mp fun hdue => ?_⟩
  obtain ⟨e, he, heroom, hlate⟩ := hagain c hc.1 hc.2 hdue
  have hearly := hlast e he heroom
  omega

/-- **The lifecycle in memory and the one in Redis.**  After calls in the order of their times, at a
later time that is not the instant of an expiry, the two give the same answer for a room unless it
was deleted again while an earlier deletion lived and only the later one is left.  Timers that are
due at the instant of a call run before it. -/
theorem lifecycles_agree_iff {lifecycle : RedisRoomLifecycle}
    (hconnected : lifecycle.clientConnected = true) {calls : List DeleteCall} {query : ℕ}
    (room : JsString) (hsorted : calls.Pairwise fun c d => c.time ≤ d.time)
    (hlater : ∀ c ∈ calls, c.time ≤ query)
    (hinstant : ∀ c ∈ calls, c.time + deletionTTL ≠ query) :
    lifecycle.isDeleted { redisAfter calls with now := query } room
        = some ((memoryAfter calls).isDeleted query room) ↔ ¬ DeletedAgain calls query room := by
  have hmemory : (memoryAfter calls).isDeleted query room = true ↔ InSet calls query room := by
    rw [InMemoryRoomLifecycle.isDeleted, decide_eq_true_eq]
    exact (runTimers_after hsorted hlater).1 room
  rw [RedisRoomLifecycle.isDeleted, if_pos hconnected, Option.some.injEq, Bool.eq_iff_iff,
    hmemory, redis_after hsorted]
  constructor
  · rintro hsame ⟨⟨c, hc, hroom, hdue, hearly⟩, halive⟩
    obtain ⟨-, hagain⟩ := hsame.mp halive
    obtain ⟨d, hd, hdroom, hlate⟩ := hagain c hc hroom hdue.le
    exact absurd (hearly d hd hdroom) (not_lt.mpr hlate)
  · intro hnone
    refine ⟨fun halive => ?_, alive_of_inSet⟩
    obtain ⟨d, hd, hroom, -⟩ := id halive
    refine ⟨⟨d, hd, hroom⟩, fun c hc hcroom hdue => ?_⟩
    by_contra hnever
    refine hnone ⟨⟨c, hc, hcroom, lt_of_le_of_ne hdue (hinstant c hc), fun e he heroom => ?_⟩,
      halive⟩
    by_contra hlate
    exact hnever ⟨e, he, heroom, not_lt.mp hlate⟩

/-! ### A room that is deleted twice -/

/-- A room is deleted, and again 200 seconds later. -/
def twiceDeleted : List DeleteCall := [⟨0, js "o:t:d"⟩, ⟨200000, js "o:t:d"⟩]

/-- **Two answers**, 350 seconds after the first deletion. -/
theorem twice_deleted_differs :
    RedisRoomLifecycle.isDeleted ⟨true, true, true, []⟩
        { redisAfter twiceDeleted with now := 350000 } (js "o:t:d") = some true ∧
      (memoryAfter twiceDeleted).isDeleted 350000 (js "o:t:d") = false := by
  constructor <;> decide

/-- Before the first timer runs out the answers are the same. -/
theorem lifecycles_agree_iff_early :
    RedisRoomLifecycle.isDeleted ⟨true, true, true, []⟩
        { redisAfter twiceDeleted with now := 250000 } (js "o:t:d")
      = some ((memoryAfter twiceDeleted).isDeleted 250000 (js "o:t:d")) := by
  refine (lifecycles_agree_iff rfl (js "o:t:d") (by decide) (by decide) (by decide)).mpr ?_
  rintro ⟨⟨c, hc, -, hdue, -⟩, -⟩
  have hearly : ∀ c ∈ twiceDeleted, 250000 ≤ c.time + deletionTTL := by decide
  exact absurd hdue (not_lt.mpr (hearly c hc))

end SocketServer.Collaboration

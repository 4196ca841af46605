import Mathlib.Data.Set.Basic
import SocketServer.Library.Runs

/-!
# A store with live copies

Every key has a saved set.  A live copy is made of it, possibly with a seed of its own, grows by
what joins it and is dropped at some time; what joined it after its last write is then gone.  A
write captures the live copy as it is.  It lands some time later, or never, and nothing but
`Orderly` keeps it from landing after its end, when others have landed.

* `saved_mono`: in an orderly run, whatever has been saved stays saved, for a live copy starts from
  what was saved;
* `live_mono`: a live copy loses nothing while it is not dropped;
* `origin`: everything saved or live was saved at the start, or came with a seed or joined under
  the same key.
-/

namespace SocketServer.LiveCopies

variable {κ μ : Type*}

/-- A write of a copy: whether it has landed, and whether whoever waits for it was told its end. -/
structure Write (κ μ : Type*) where
  key : κ
  copy : Set μ
  landed : Bool
  ended : Bool

structure Copies (κ μ : Type*) where
  saved : κ → Set μ
  live : κ → Option (Set μ)
  writes : List (Write κ μ)

inductive Op (κ μ : Type*) where
  | make (k : κ) (seed : Set μ)
  | join (k : κ) (more : Set μ)
  | drop (k : κ)
  | write (k : κ)
  | land (i : ℕ)
  | finish (i : ℕ)

def Copies.setWrite (c : Copies κ μ) (i : ℕ) (w : Write κ μ) : Copies κ μ :=
  { c with writes := c.writes.set i w }

/-- A write is the one that was set, or as it was. -/
theorem setWrite_eq_some {c : Copies κ μ} {i j : ℕ} {w v : Write κ μ}
    (h : (c.setWrite i w).writes[j]? = some v) : j = i ∧ v = w ∨ c.writes[j]? = some v := by
  by_cases hij : i = j
  · subst hij
    have hmem : (c.writes.set i w)[i]? = some v := h
    rw [List.getElem?_set_self'] at hmem
    obtain ⟨-, -, rfl⟩ := Option.map_eq_some_iff.mp hmem
    exact Or.inl ⟨rfl, rfl⟩
  · exact Or.inr ((List.getElem?_set_ne hij).symm.trans h)

/-- A write is the last one, or there was it before. -/
theorem snoc_eq_some {ws : List (Write κ μ)} {w v : Write κ μ} {j : ℕ}
    (h : (ws ++ [w])[j]? = some v) : j = ws.length ∧ v = w ∨ ws[j]? = some v := by
  by_cases hj : j < ws.length
  · exact Or.inr ((List.getElem?_append_left hj).symm.trans h)
  · obtain ⟨hlt, heq⟩ := List.getElem?_eq_some_iff.mp h
    rw [List.length_append, List.length_singleton] at hlt
    obtain rfl : j = ws.length := by omega
    rw [List.getElem_append_right (le_refl _)] at heq
    exact Or.inl ⟨rfl, by simpa [eq_comm] using heq⟩

variable [DecidableEq κ]

/-- What an operation brings to a key. -/
def Op.brings (k : κ) : Op κ μ → Set μ
  | .make j seed => if j = k then seed else ∅
  | .join j more => if j = k then more else ∅
  | _ => ∅

def Copies.setLive (c : Copies κ μ) (k : κ) (copy : Option (Set μ)) : Copies κ μ :=
  { c with live := Function.update c.live k copy }

def Copies.setSaved (c : Copies κ μ) (k : κ) (copy : Set μ) : Copies κ μ :=
  { c with saved := Function.update c.saved k copy }

/-- A copy is made where there is none; joins and writes need one. -/
def step (c : Copies κ μ) : Op κ μ → Option (Copies κ μ)
  | .make k seed =>
      match c.live k with
      | none => some (c.setLive k (some (c.saved k ∪ seed)))
      | some _ => none
  | .join k more => (c.live k).map fun copy => c.setLive k (some (copy ∪ more))
  | .drop k => some (c.setLive k none)
  | .write k =>
      (c.live k).map fun copy => { c with writes := c.writes ++ [⟨k, copy, false, false⟩] }
  | .land i =>
      (c.writes[i]?).map fun w => (c.setSaved w.key w.copy).setWrite i { w with landed := true }
  | .finish i => (c.writes[i]?).map fun w => c.setWrite i { w with ended := true }

/-- No write of the key is under way. -/
def Copies.Quiet (c : Copies κ μ) (k : κ) : Prop := ∀ w ∈ c.writes, w.key = k → w.ended = true

/-- One write of a key at a time, which lands before its end or never; a copy is not dropped while
it is written. -/
def Orderly (c : Copies κ μ) : Op κ μ → Prop
  | .write k => c.Quiet k
  | .drop k => c.Quiet k
  | .land i => ∀ w, c.writes[i]? = some w → w.ended = false
  | _ => True

@[simp] theorem setLive_self (c : Copies κ μ) (k : κ) (copy : Option (Set μ)) :
    (c.setLive k copy).live k = copy :=
  Function.update_self _ _ _

theorem setLive_of_ne {j k : κ} (h : j ≠ k) (c : Copies κ μ) (copy : Option (Set μ)) :
    (c.setLive k copy).live j = c.live j :=
  Function.update_of_ne h _ _

@[simp] theorem setSaved_self (c : Copies κ μ) (k : κ) (copy : Set μ) :
    (c.setSaved k copy).saved k = copy :=
  Function.update_self _ _ _

theorem setSaved_of_ne {j k : κ} (h : j ≠ k) (c : Copies κ μ) (copy : Set μ) :
    (c.setSaved k copy).saved j = c.saved j :=
  Function.update_of_ne h _ _

/-! ### What is saved -/

/-- What is saved of a key is in its live copy and in the one write that may be under way, and what
has landed is saved. -/
structure Copies.Covered (c : Copies κ μ) : Prop where
  live : ∀ k copy, c.live k = some copy → c.saved k ⊆ copy
  written : ∀ (i : ℕ) (w : Write κ μ), c.writes[i]? = some w → w.ended = false →
    c.saved w.key ⊆ w.copy ∧ ∃ copy, c.live w.key = some copy ∧ w.copy ⊆ copy
  single : ∀ (i j : ℕ) (w v : Write κ μ), c.writes[i]? = some w → c.writes[j]? = some v →
    w.ended = false → v.ended = false → w.key = v.key → i = j
  landed : ∀ (i : ℕ) (w : Write κ μ), c.writes[i]? = some w → w.landed = true →
    w.copy ⊆ c.saved w.key

variable {c d : Copies κ μ}

/-- A key that nothing is written of gets another live copy, or none. -/
theorem Copies.Covered.setLive (hc : c.Covered) {k : κ} {new : Option (Set μ)}
    (hnew : ∀ copy, new = some copy → c.saved k ⊆ copy)
    (hwritten : ∀ (i : ℕ) (w : Write κ μ), c.writes[i]? = some w → w.ended = false → w.key = k →
      ∃ copy, new = some copy ∧ w.copy ⊆ copy) : (c.setLive k new).Covered where
  live j copy hj := by
    by_cases hjk : j = k
    · subst hjk
      rw [setLive_self] at hj
      exact hnew copy hj
    · rw [setLive_of_ne hjk] at hj
      exact hc.live j copy hj
  written i w hi hended := by
    obtain ⟨hsaved, copy, hcopy, hw⟩ := hc.written i w hi hended
    refine ⟨hsaved, ?_⟩
    by_cases hwk : w.key = k
    · obtain ⟨copy', hcopy', hw'⟩ := hwritten i w hi hended hwk
      subst hwk
      exact ⟨copy', (setLive_self _ _ _).trans hcopy', hw'⟩
    · exact ⟨copy, (setLive_of_ne hwk _ _).trans hcopy, hw⟩
  single := hc.single
  landed := hc.landed

omit [DecidableEq κ] in
/-- A write goes on. -/
theorem Copies.Covered.setWrite (hc : c.Covered) {i : ℕ} {w w' : Write κ μ}
    (hi : c.writes[i]? = some w) (hkey : w'.key = w.key) (hcopy : w'.copy = w.copy)
    (hended : w'.ended = false → w.ended = false)
    (hlanded : w'.landed = true → w.copy ⊆ c.saved w.key) : (c.setWrite i w').Covered where
  live := hc.live
  written j v hj hv := by
    obtain ⟨rfl, rfl⟩ | hold := setWrite_eq_some hj
    · rw [hkey, hcopy]
      exact hc.written j w hi (hended hv)
    · exact hc.written j v hold hv
  single j l v u hj hl hv hu hvu := by
    obtain ⟨rfl, rfl⟩ | hoj := setWrite_eq_some hj
    · obtain ⟨rfl, -⟩ | hol := setWrite_eq_some hl
      · rfl
      · exact hc.single j l w u hi hol (hended hv) hu (hkey.symm.trans hvu)
    · obtain ⟨rfl, rfl⟩ | hol := setWrite_eq_some hl
      · exact hc.single j l v w hoj hi hv (hended hu) (hvu.trans hkey)
      · exact hc.single j l v u hoj hol hv hu hvu
  landed j v hj hv := by
    obtain ⟨rfl, rfl⟩ | hold := setWrite_eq_some hj
    · rw [hkey, hcopy]
      exact hlanded hv
    · exact hc.landed j v hold hv

/-- **The write that is under way lands.** -/
theorem Copies.Covered.setSaved (hc : c.Covered) {i : ℕ} {w : Write κ μ}
    (hi : c.writes[i]? = some w) (hended : w.ended = false) :
    (c.setSaved w.key w.copy).Covered := by
  obtain ⟨hsaved, copy, hlive, hw⟩ := hc.written i w hi hended
  refine ⟨fun k other hk => ?_, fun j v hj hv => ?_, hc.single, fun j v hj hv => ?_⟩
  · by_cases hkey : k = w.key
    · subst hkey
      rw [setSaved_self]
      exact Option.some.inj (hlive.symm.trans hk) ▸ hw
    · rw [setSaved_of_ne hkey]
      exact hc.live k other hk
  · obtain ⟨hsavedv, hlivev⟩ := hc.written j v hj hv
    refine ⟨?_, hlivev⟩
    by_cases hkey : v.key = w.key
    · -- there is no other write of this key
      obtain rfl := hc.single i j w v hi hj hended hv hkey.symm
      obtain rfl := Option.some.inj (hi.symm.trans hj)
      rw [setSaved_self]
    · rw [setSaved_of_ne hkey]
      exact hsavedv
  · by_cases hkey : v.key = w.key
    · rw [hkey, setSaved_self]
      exact ((hkey ▸ hc.landed j v hj hv).trans hsaved)
    · rw [setSaved_of_ne hkey]
      exact hc.landed j v hj hv

/-- **One orderly step** keeps what is saved covered, and saves no less of any key. -/
theorem step_spec (hc : c.Covered) {op : Op κ μ} (horderly : Orderly c op)
    (h : step c op = some d) : d.Covered ∧ ∀ k, c.saved k ⊆ d.saved k := by
  cases op with
  | make k seed =>
      simp only [step] at h
      split at h
      · rename_i hnone
        cases h
        refine ⟨hc.setLive ?_ fun i w hi hended hkey => ?_, fun j => subset_rfl⟩
        · rintro copy ⟨⟩
          exact Set.subset_union_left
        · -- a copy that is written has not been dropped
          obtain ⟨-, copy, hcopy, -⟩ := hc.written i w hi hended
          rw [hkey, hnone] at hcopy
          cases hcopy
      · cases h
  | join k more =>
      obtain ⟨old, hold, rfl⟩ := Option.map_eq_some_iff.mp h
      refine ⟨hc.setLive ?_ fun i w hi hended hkey => ?_, fun j => subset_rfl⟩
      · rintro copy ⟨⟩
        exact (hc.live k old hold).trans Set.subset_union_left
      · obtain ⟨-, copy, hcopy, hw⟩ := hc.written i w hi hended
        rw [hkey, hold] at hcopy
        cases hcopy
        exact ⟨_, rfl, hw.trans Set.subset_union_left⟩
  | drop k =>
      cases h
      refine ⟨hc.setLive nofun fun i w hi hended hkey => ?_, fun j => subset_rfl⟩
      have hquiet := horderly w (List.mem_of_getElem? hi) hkey
      rw [hended] at hquiet
      cases hquiet
  | write k =>
      obtain ⟨copy, hcopy, rfl⟩ := Option.map_eq_some_iff.mp h
      have hbusy : ∀ (j : ℕ) (v : Write κ μ), c.writes[j]? = some v → v.ended = false →
          v.key ≠ k := by
        intro j v hj hv hkey
        have hquiet := horderly v (List.mem_of_getElem? hj) hkey
        rw [hv] at hquiet
        cases hquiet
      refine ⟨⟨hc.live, fun j v hj hv => ?_, fun j l v u hj hl hv hu hvu => ?_,
        fun j v hj hv => ?_⟩, fun j => subset_rfl⟩
      · obtain ⟨-, rfl⟩ | hold := snoc_eq_some hj
        · exact ⟨hc.live k copy hcopy, copy, hcopy, subset_rfl⟩
        · exact hc.written j v hold hv
      · obtain ⟨hlastj, rfl⟩ | hoj := snoc_eq_some hj
        · obtain ⟨hlastl, -⟩ | hol := snoc_eq_some hl
          · exact hlastj.trans hlastl.symm
          · exact absurd hvu.symm (hbusy l u hol hu)
        · obtain ⟨-, rfl⟩ | hol := snoc_eq_some hl
          · exact absurd hvu (hbusy j v hoj hv)
          · exact hc.single j l v u hoj hol hv hu hvu
      · obtain ⟨-, rfl⟩ | hold := snoc_eq_some hj
        · cases hv
        · exact hc.landed j v hold hv
  | land i =>
      obtain ⟨w, hi, rfl⟩ := Option.map_eq_some_iff.mp h
      have hended := horderly w hi
      have hsaved := hc.setSaved hi hended
      have hland : w.copy ⊆ (c.setSaved w.key w.copy).saved w.key := by rw [setSaved_self]
      refine ⟨hsaved.setWrite hi rfl rfl id fun _ => hland, fun k => ?_⟩
      show c.saved k ⊆ (c.setSaved w.key w.copy).saved k
      by_cases hkey : k = w.key
      · subst hkey
        rw [setSaved_self]
        exact (hc.written i w hi hended).1
      · rw [setSaved_of_ne hkey]
  | finish i =>
      obtain ⟨w, hi, rfl⟩ := Option.map_eq_some_iff.mp h
      exact ⟨hc.setWrite hi rfl rfl nofun (hc.landed i w hi), fun k => subset_rfl⟩

/-- **What has been saved stays saved.** -/
theorem saved_mono (hc : c.Covered) {ops : List (Op κ μ)} (horderly : Runs.Meets step Orderly c ops)
    (h : Runs.run step c ops = some d) : d.Covered ∧ ∀ k, c.saved k ⊆ d.saved k := by
  induction ops generalizing c with
  | nil =>
      cases h
      exact ⟨hc, fun k => subset_rfl⟩
  | cons op ops ih =>
      obtain ⟨e, he, hrest⟩ := (Runs.run_cons_eq_some step).mp h
      obtain ⟨hcovered, hsaved⟩ := step_spec hc horderly.1 he
      obtain ⟨hd, hlater⟩ := ih hcovered (horderly.2 e he) hrest
      exact ⟨hd, fun k => (hsaved k).trans (hlater k)⟩

/-! ### What is live -/

/-- One step takes nothing from a live copy that it does not drop. -/
theorem live_step {op : Op κ μ} (h : step c op = some d) {k : κ} {copy : Set μ}
    (hop : op ≠ .drop k) (hk : c.live k = some copy) :
    ∃ copy', d.live k = some copy' ∧ copy ⊆ copy' := by
  cases op with
  | make j seed =>
      simp only [step] at h
      split at h
      · rename_i hnone
        cases h
        have hkj : k ≠ j := by
          rintro rfl
          rw [hnone] at hk
          cases hk
        exact ⟨copy, (setLive_of_ne hkj c _).trans hk, subset_rfl⟩
      · cases h
  | join j more =>
      obtain ⟨old, hold, rfl⟩ := Option.map_eq_some_iff.mp h
      by_cases hkj : k = j
      · subst hkj
        obtain rfl := Option.some.inj (hk.symm.trans hold)
        exact ⟨_, setLive_self c k _, Set.subset_union_left⟩
      · exact ⟨copy, (setLive_of_ne hkj c _).trans hk, subset_rfl⟩
  | drop j =>
      cases h
      have hkj : k ≠ j := fun hkj => hop (congrArg Op.drop hkj.symm)
      exact ⟨copy, (setLive_of_ne hkj c _).trans hk, subset_rfl⟩
  | write j =>
      obtain ⟨old, -, rfl⟩ := Option.map_eq_some_iff.mp h
      exact ⟨copy, hk, subset_rfl⟩
  | land i =>
      obtain ⟨w, -, rfl⟩ := Option.map_eq_some_iff.mp h
      exact ⟨copy, hk, subset_rfl⟩
  | finish i =>
      obtain ⟨w, -, rfl⟩ := Option.map_eq_some_iff.mp h
      exact ⟨copy, hk, subset_rfl⟩

/-- **A live copy that is not dropped loses nothing.** -/
theorem live_mono {ops : List (Op κ μ)} (h : Runs.run step c ops = some d) {k : κ}
    {copy : Set μ} (hk : c.live k = some copy) (hdrop : Op.drop k ∉ ops) :
    ∃ copy', d.live k = some copy' ∧ copy ⊆ copy' := by
  induction ops generalizing c copy with
  | nil =>
      cases h
      exact ⟨copy, hk, subset_rfl⟩
  | cons op ops ih =>
      obtain ⟨e, he, hrest⟩ := (Runs.run_cons_eq_some step).mp h
      have hop : op ≠ .drop k := fun heq => hdrop (heq ▸ List.mem_cons_self)
      obtain ⟨next, hnext, hmore⟩ := live_step he hop hk
      obtain ⟨last, hlast, hmost⟩ := ih hrest hnext fun hmem =>
        hdrop (List.mem_cons_of_mem op hmem)
      exact ⟨last, hlast, hmore.trans hmost⟩

/-! ### Where it comes from -/

/-- What a key has: saved, live, or on its way. -/
def Copies.Has (c : Copies κ μ) (k : κ) (x : μ) : Prop :=
  x ∈ c.saved k ∨ (∃ copy, c.live k = some copy ∧ x ∈ copy) ∨
    ∃ (i : ℕ) (w : Write κ μ), c.writes[i]? = some w ∧ w.key = k ∧ x ∈ w.copy

/-- A live copy is set to something else than it was. -/
theorem Copies.Has.of_setLive {j k : κ} {new : Option (Set μ)} {x : μ}
    (h : (c.setLive j new).Has k x) : c.Has k x ∨ j = k ∧ ∃ copy, new = some copy ∧ x ∈ copy := by
  obtain hsaved | ⟨copy, hcopy, hx⟩ | hwrite := h
  · exact Or.inl (Or.inl hsaved)
  · by_cases hkj : k = j
    · subst hkj
      rw [setLive_self] at hcopy
      exact Or.inr ⟨rfl, copy, hcopy, hx⟩
    · rw [setLive_of_ne hkj] at hcopy
      exact Or.inl (Or.inr (Or.inl ⟨copy, hcopy, hx⟩))
  · exact Or.inl (Or.inr (Or.inr hwrite))

omit [DecidableEq κ] in
/-- A write goes on, of the same copy. -/
theorem Copies.Has.of_setWrite {i : ℕ} {w w' : Write κ μ} (hi : c.writes[i]? = some w)
    (hkey : w'.key = w.key) (hcopy : w'.copy = w.copy) {k : κ} {x : μ}
    (h : (c.setWrite i w').Has k x) : c.Has k x := by
  obtain hsaved | hlive | ⟨j, v, hj, hv, hx⟩ := h
  · exact Or.inl hsaved
  · exact Or.inr (Or.inl hlive)
  · obtain ⟨rfl, rfl⟩ | hold := setWrite_eq_some hj
    · exact Or.inr (Or.inr ⟨j, w, hi, hkey.symm.trans hv, hcopy ▸ hx⟩)
    · exact Or.inr (Or.inr ⟨j, v, hold, hv, hx⟩)

/-- **One step** adds what its operation brings to the key, and nothing else. -/
theorem has_step {op : Op κ μ} (h : step c op = some d) {k : κ} {x : μ} (hx : d.Has k x) :
    c.Has k x ∨ x ∈ op.brings k := by
  cases op with
  | make j seed =>
      simp only [step] at h
      split at h
      · cases h
        obtain hbefore | ⟨rfl, copy, ⟨⟩, hsaved | hseed⟩ := hx.of_setLive
        · exact Or.inl hbefore
        · exact Or.inl (Or.inl hsaved)
        · exact Or.inr (by rwa [Op.brings, if_pos rfl])
      · cases h
  | join j more =>
      obtain ⟨old, hold, rfl⟩ := Option.map_eq_some_iff.mp h
      obtain hbefore | ⟨rfl, copy, ⟨⟩, hlive | hmore⟩ := hx.of_setLive
      · exact Or.inl hbefore
      · exact Or.inl (Or.inr (Or.inl ⟨old, hold, hlive⟩))
      · exact Or.inr (by rwa [Op.brings, if_pos rfl])
  | drop j =>
      cases h
      obtain hbefore | ⟨-, copy, ⟨⟩, -⟩ := hx.of_setLive
      exact Or.inl hbefore
  | write j =>
      obtain ⟨copy, hcopy, rfl⟩ := Option.map_eq_some_iff.mp h
      obtain hsaved | hlive | ⟨i, w, hi, hw, hx⟩ := hx
      · exact Or.inl (Or.inl hsaved)
      · exact Or.inl (Or.inr (Or.inl hlive))
      · obtain ⟨-, rfl⟩ | hold := snoc_eq_some hi
        · subst hw
          exact Or.inl (Or.inr (Or.inl ⟨copy, hcopy, hx⟩))
        · exact Or.inl (Or.inr (Or.inr ⟨i, w, hold, hw, hx⟩))
  | land i =>
      obtain ⟨w, hi, rfl⟩ := Option.map_eq_some_iff.mp h
      have hi' : (c.setSaved w.key w.copy).writes[i]? = some w := hi
      obtain hsaved | hrest := hx.of_setWrite hi' (by rfl) (by rfl)
      · by_cases hkey : k = w.key
        · subst hkey
          rw [setSaved_self] at hsaved
          exact Or.inl (Or.inr (Or.inr ⟨i, w, hi, rfl, hsaved⟩))
        · rw [setSaved_of_ne hkey] at hsaved
          exact Or.inl (Or.inl hsaved)
      · exact Or.inl (Or.inr hrest)
  | finish i =>
      obtain ⟨w, hi, rfl⟩ := Option.map_eq_some_iff.mp h
      exact Or.inl (hx.of_setWrite hi (by rfl) (by rfl))

/-- **Nothing comes from elsewhere**: what a key has, it had at the start, or an operation on the
same key brought it. -/
theorem origin {ops : List (Op κ μ)} (h : Runs.run step c ops = some d) {k : κ} {x : μ}
    (hx : d.Has k x) : c.Has k x ∨ ∃ op ∈ ops, x ∈ op.brings k := by
  induction ops generalizing c with
  | nil =>
      cases h
      exact Or.inl hx
  | cons op ops ih =>
      obtain ⟨e, he, hrest⟩ := (Runs.run_cons_eq_some step).mp h
      obtain hbefore | ⟨later, hmem, hbrings⟩ := ih hrest
      · obtain hstart | hbrings := has_step he hbefore
        · exact Or.inl hstart
        · exact Or.inr ⟨op, List.mem_cons_self, hbrings⟩
      · exact Or.inr ⟨later, List.mem_cons_of_mem op hmem, hbrings⟩

end SocketServer.LiveCopies

import Mathlib.Data.List.Basic

/-!
# Maps in insertion order

A JavaScript `Map` iterates over its entries in the order in which the keys were first set.  It is
a list of entries: setting a key that is there keeps its place, and a new key goes to the end.

`Distinct` says that no key occurs twice; `set` and `delete` keep it, and `get_set` and `get_delete`
say what the map answers afterwards.
-/

namespace SocketServer

abbrev JsMap (κ ν : Type*) := List (κ × ν)

namespace JsMap

variable {κ ν : Type*}

/-- The keys, in insertion order. -/
def keys (map : JsMap κ ν) : List κ := map.map (·.1)

/-- No key occurs twice. -/
def Distinct (map : JsMap κ ν) : Prop := map.keys.Nodup

theorem keys_cons (entry : κ × ν) (rest : JsMap κ ν) :
    keys (entry :: rest) = entry.1 :: keys rest := rfl

theorem mem_keys_of_mem {map : JsMap κ ν} {entry : κ × ν} (h : entry ∈ map) :
    entry.1 ∈ map.keys :=
  List.mem_map_of_mem h

theorem mem_keys {map : JsMap κ ν} {key : κ} : key ∈ map.keys ↔ ∃ value, (key, value) ∈ map := by
  constructor
  · intro h
    obtain ⟨⟨key', value⟩, hmem, rfl⟩ := List.mem_map.mp h
    exact ⟨value, hmem⟩
  · intro h
    obtain ⟨value, hmem⟩ := h
    exact mem_keys_of_mem hmem

theorem Distinct.sublist {map map' : JsMap κ ν} (h : Distinct map) (hsub : map'.Sublist map) :
    Distinct map' :=
  List.Nodup.sublist (hsub.map _) h

variable [DecidableEq κ]

/-- `map.get(key)`. -/
def get (map : JsMap κ ν) (key : κ) : Option ν := (map.find? fun entry => entry.1 = key).map (·.2)

/-- `map.set(key, value)`. -/
def set : JsMap κ ν → κ → ν → JsMap κ ν
  | [], key, value => [(key, value)]
  | entry :: rest, key, value =>
      if entry.1 = key then (key, value) :: rest else entry :: set rest key value

/-- `map.delete(key)`, without its result. -/
def delete (map : JsMap κ ν) (key : κ) : JsMap κ ν := map.eraseP fun entry => entry.1 = key

/-- `map.has(key)`, which is also what `map.delete(key)` answers. -/
def has (map : JsMap κ ν) (key : κ) : Bool := map.any fun entry => entry.1 = key

/-! ### Looking up -/

theorem has_iff {map : JsMap κ ν} {key : κ} : has map key = true ↔ key ∈ map.keys := by
  simp [has, keys]

@[simp] theorem get_nil (key : κ) : get ([] : JsMap κ ν) key = none := rfl

theorem get_cons (entry : κ × ν) (rest : JsMap κ ν) (key : κ) :
    get (entry :: rest) key = if entry.1 = key then some entry.2 else get rest key := by
  rw [get]
  split
  · rename_i hkey
    rw [List.find?_cons_of_pos (by simpa using hkey), Option.map_some]
  · rename_i hkey
    rw [List.find?_cons_of_neg (by simpa using hkey), get]

theorem get_eq_none {map : JsMap κ ν} {key : κ} : get map key = none ↔ key ∉ map.keys := by
  induction map with
  | nil => simp [keys]
  | cons entry rest ih =>
      rw [get_cons, keys_cons, List.mem_cons, not_or]
      split
      · rename_i hkey
        simp [hkey]
      · rename_i hkey
        rw [ih, and_iff_right (Ne.symm hkey)]

/-- In a map without repetitions an entry is what its key is looked up as. -/
theorem get_eq_some {map : JsMap κ ν} (h : Distinct map) {key : κ} {value : ν} :
    get map key = some value ↔ (key, value) ∈ map := by
  induction map with
  | nil => simp
  | cons entry rest ih =>
      obtain ⟨hnew, hrest⟩ := List.nodup_cons.mp h
      rw [get_cons, List.mem_cons]
      split
      · rename_i hkey
        constructor
        · intro hvalue
          exact Or.inl (Prod.ext hkey.symm (Option.some.inj hvalue).symm)
        · intro h
          obtain heq | hlater := h
          · exact congrArg some (congrArg Prod.snd heq).symm
          · exact absurd (mem_keys_of_mem hlater) (hkey ▸ hnew)
      · rename_i hkey
        rw [ih hrest]
        constructor
        · exact Or.inr
        · intro h
          obtain heq | hlater := h
          · exact absurd (congrArg Prod.fst heq).symm hkey
          · exact hlater

/-! ### Setting -/

/-- What the map answers after `set`. -/
theorem get_set (map : JsMap κ ν) (key key' : κ) (value : ν) :
    get (set map key value) key' = if key' = key then some value else get map key' := by
  induction map with
  | nil =>
      rw [set, get_cons, get_nil]
      by_cases hkey : key' = key
      · rw [if_pos hkey.symm, if_pos hkey]
      · rw [if_neg (Ne.symm hkey), if_neg hkey]
  | cons entry rest ih =>
      rw [set, get_cons]
      by_cases hentry : entry.1 = key
      · rw [if_pos hentry, get_cons]
        by_cases hkey : key' = key
        · rw [if_pos hkey.symm, if_pos hkey]
        · rw [if_neg (Ne.symm hkey), if_neg hkey, if_neg (hentry ▸ Ne.symm hkey)]
      · rw [if_neg hentry, get_cons, ih]
        by_cases hkey : key' = key
        · rw [if_pos hkey, if_neg (hkey ▸ hentry), if_pos hkey]
        · rw [if_neg hkey, if_neg hkey]

theorem mem_keys_set {map : JsMap κ ν} {key key' : κ} {value : ν} :
    key' ∈ (set map key value).keys ↔ key' = key ∨ key' ∈ map.keys := by
  have hboth : ¬ get (set map key value) key' = none ↔ key' ∈ (set map key value).keys := by
    rw [get_eq_none, not_not]
  rw [← hboth, get_set]
  by_cases hkey : key' = key
  · simp [hkey]
  · rw [if_neg hkey, get_eq_none, not_not, or_iff_right hkey]

theorem distinct_set {map : JsMap κ ν} (h : Distinct map) (key : κ) (value : ν) :
    Distinct (set map key value) := by
  induction map with
  | nil => exact List.nodup_cons.mpr ⟨List.not_mem_nil, List.nodup_nil⟩
  | cons entry rest ih =>
      obtain ⟨hnew, hrest⟩ := List.nodup_cons.mp h
      rw [set]
      split
      · rename_i hkey
        exact List.nodup_cons.mpr ⟨hkey ▸ hnew, hrest⟩
      · rename_i hkey
        refine List.nodup_cons.mpr ⟨fun hmem => ?_, ih hrest⟩
        rcases mem_keys_set.mp hmem with hsame | hold
        · exact hkey hsame
        · exact hnew hold

/-- A new key goes to the end. -/
theorem set_of_notMem {map : JsMap κ ν} {key : κ} (h : key ∉ map.map (·.1)) (value : ν) :
    set map key value = map ++ [(key, value)] := by
  induction map with
  | nil => rfl
  | cons entry rest ih =>
      rw [List.map_cons, List.mem_cons, not_or] at h
      rw [set, if_neg (Ne.symm h.1), ih h.2]
      rfl

/-! ### Deleting -/

theorem delete_sublist (map : JsMap κ ν) (key : κ) : (delete map key).Sublist map :=
  List.eraseP_sublist

theorem delete_of_notMem {map : JsMap κ ν} {key : κ} (h : key ∉ map.keys) :
    delete map key = map := by
  refine List.eraseP_of_forall_not fun entry hmem hkey => h ?_
  rw [← of_decide_eq_true hkey]
  exact mem_keys_of_mem hmem

/-- The entries that `delete` leaves. -/
theorem mem_delete {map : JsMap κ ν} (h : Distinct map) {key : κ} {entry : κ × ν} :
    entry ∈ delete map key ↔ entry ∈ map ∧ entry.1 ≠ key := by
  induction map with
  | nil => simp [delete]
  | cons first rest ih =>
      obtain ⟨hnew, hrest⟩ := List.nodup_cons.mp h
      have htail := ih hrest
      rw [delete] at htail ⊢
      by_cases hkey : first.1 = key
      · rw [List.eraseP_cons_of_pos (by simpa using hkey)]
        constructor
        · intro hmem
          refine ⟨List.mem_cons_of_mem _ hmem, fun hsame => hnew ?_⟩
          show first.1 ∈ keys rest
          rw [hkey, ← hsame]
          exact mem_keys_of_mem hmem
        · intro h
          obtain ⟨hmem, hne⟩ := h
          rcases List.mem_cons.mp hmem with rfl | hlater
          · exact absurd hkey hne
          · exact hlater
      · rw [List.eraseP_cons_of_neg (by simpa using hkey), List.mem_cons, htail, List.mem_cons]
        constructor
        · intro h
          obtain rfl | ⟨hmem, hne⟩ := h
          · exact ⟨Or.inl rfl, hkey⟩
          · exact ⟨Or.inr hmem, hne⟩
        · intro h
          obtain ⟨rfl | hmem, hne⟩ := h
          · exact Or.inl rfl
          · exact Or.inr ⟨hmem, hne⟩

/-- What the map answers after `delete`. -/
theorem get_delete {map : JsMap κ ν} (h : Distinct map) (key key' : κ) :
    get (delete map key) key' = if key' = key then none else get map key' := by
  have hdistinct : Distinct (delete map key) := h.sublist (delete_sublist map key)
  split
  · rename_i hkey
    rw [get_eq_none, mem_keys]
    intro hin
    obtain ⟨value, hmem⟩ := hin
    exact ((mem_delete h).mp hmem).2 hkey
  · rename_i hkey
    refine Option.ext fun value => ?_
    rw [get_eq_some hdistinct, get_eq_some h, mem_delete h]
    exact and_iff_left hkey

end JsMap

end SocketServer

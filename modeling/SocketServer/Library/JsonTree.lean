import SocketServer.Library.Json
import Mathlib.Data.List.Forall2

/-!
# JSON texts as trees

`JsonTree` is what a JSON text says, before a language makes values of it: the members of an object
in the order of the text with keys possibly repeated, strings as scalar values, and numbers with
their exact values.

* `JsonTree.induct` is its induction principle and `subtrees` lists what a tree consists of;
* `Same` is equality as JSON values: members in any order, numbers by their values;
* `ReadAs` says that `JSON.parse` made a value of a tree: the same members in the same order, and
  each number as the nearest double.
-/

namespace SocketServer

open SocketServer.Text SocketServer.Js

/-- A number as it is written. -/
structure NumberLiteral where
  value : ℚ
  /-- There is neither a fraction nor an exponent. -/
  plain : Bool
  integral : plain = true → value.den = 1

/-- An integer in plain digits. -/
def NumberLiteral.int (z : ℤ) : NumberLiteral := ⟨z, true, fun _ => Rat.den_intCast z⟩

inductive JsonTree where
  | null
  | bool (b : Bool)
  | number (n : NumberLiteral)
  | string (s : List Char)
  | array (values : List JsonTree)
  | object (members : List (List Char × JsonTree))

namespace JsonTree

/-- Induction over a tree, with the values of an array and the members of an object as sets. -/
@[elab_as_elim]
theorem induct {P : JsonTree → Prop} (null : P .null) (bool : ∀ b, P (.bool b))
    (number : ∀ n, P (.number n)) (string : ∀ s, P (.string s))
    (array : ∀ values, (∀ v ∈ values, P v) → P (.array values))
    (object : ∀ members, (∀ m ∈ members, P m.2) → P (.object members)) (t : JsonTree) : P t := by
  refine @JsonTree.rec P (fun values => ∀ v ∈ values, P v) (fun members => ∀ m ∈ members, P m.2)
    (fun m => P m.2) null bool number string array object ?_ ?_ ?_ ?_ (fun _ _ ih => ih) t
  · exact fun v hv => absurd hv List.not_mem_nil
  · exact fun v values hv ih => List.forall_mem_cons.mpr ⟨hv, ih⟩
  · exact fun m hm => absurd hm List.not_mem_nil
  · exact fun m members hm ih => List.forall_mem_cons.mpr ⟨hm, ih⟩

mutual

/-- A tree and everything below it. -/
def subtrees : JsonTree → List JsonTree
  | .array values => .array values :: subtreesOfValues values
  | .object members => .object members :: subtreesOfMembers members
  | t => [t]

def subtreesOfValues : List JsonTree → List JsonTree
  | [] => []
  | v :: rest => subtrees v ++ subtreesOfValues rest

def subtreesOfMembers : List (List Char × JsonTree) → List JsonTree
  | [] => []
  | (_, v) :: rest => subtrees v ++ subtreesOfMembers rest

end

theorem self_mem_subtrees (t : JsonTree) : t ∈ t.subtrees := by
  cases t with
  | null => exact List.mem_singleton_self _
  | bool b => exact List.mem_singleton_self _
  | number n => exact List.mem_singleton_self _
  | string s => exact List.mem_singleton_self _
  | array values =>
      rw [subtrees]
      exact List.mem_cons_self
  | object members =>
      rw [subtrees]
      exact List.mem_cons_self

theorem subtreesOfValues_eq (values : List JsonTree) :
    subtreesOfValues values = values.flatMap subtrees := by
  induction values with
  | nil => rw [subtreesOfValues, List.flatMap_nil]
  | cons v rest ih => rw [subtreesOfValues, List.flatMap_cons, ih]

theorem subtreesOfMembers_eq (members : List (List Char × JsonTree)) :
    subtreesOfMembers members = members.flatMap (·.2.subtrees) := by
  induction members with
  | nil => rw [subtreesOfMembers, List.flatMap_nil]
  | cons m rest ih => rw [subtreesOfMembers, List.flatMap_cons, ih]

theorem mem_subtrees_array {t : JsonTree} {values : List JsonTree} :
    t ∈ (array values).subtrees ↔ t = array values ∨ ∃ v ∈ values, t ∈ v.subtrees := by
  rw [subtrees, subtreesOfValues_eq, List.mem_cons, List.mem_flatMap]

theorem mem_subtrees_object {t : JsonTree} {members : List (List Char × JsonTree)} :
    t ∈ (object members).subtrees ↔ t = object members ∨ ∃ m ∈ members, t ∈ m.2.subtrees := by
  rw [subtrees, subtreesOfMembers_eq, List.mem_cons, List.mem_flatMap]

/-- The tree and everything below it satisfies a predicate. -/
def Everywhere (p : JsonTree → Prop) (t : JsonTree) : Prop := ∀ s ∈ t.subtrees, p s

section Leaves

variable {p : JsonTree → Prop}

theorem everywhere_null : null.Everywhere p ↔ p null := List.forall_mem_singleton

theorem everywhere_bool {b : Bool} : (bool b).Everywhere p ↔ p (bool b) := List.forall_mem_singleton

theorem everywhere_number {n : NumberLiteral} : (number n).Everywhere p ↔ p (number n) :=
  List.forall_mem_singleton

theorem everywhere_string {s : List Char} : (string s).Everywhere p ↔ p (string s) :=
  List.forall_mem_singleton

end Leaves

theorem everywhere_array {p : JsonTree → Prop} {values : List JsonTree} :
    (array values).Everywhere p ↔ p (array values) ∧ ∀ v ∈ values, v.Everywhere p := by
  constructor
  · exact fun h => ⟨h _ (self_mem_subtrees _),
      fun v hv s hs => h s (mem_subtrees_array.mpr (Or.inr ⟨v, hv, hs⟩))⟩
  · rintro ⟨hself, h⟩ s hs
    obtain rfl | ⟨v, hv, hbelow⟩ := mem_subtrees_array.mp hs
    · exact hself
    · exact h v hv s hbelow

theorem everywhere_object {p : JsonTree → Prop} {members : List (List Char × JsonTree)} :
    (object members).Everywhere p ↔ p (object members) ∧ ∀ m ∈ members, m.2.Everywhere p := by
  constructor
  · exact fun h => ⟨h _ (self_mem_subtrees _),
      fun m hm s hs => h s (mem_subtrees_object.mpr (Or.inr ⟨m, hm, hs⟩))⟩
  · rintro ⟨hself, h⟩ s hs
    obtain rfl | ⟨m, hm, hbelow⟩ := mem_subtrees_object.mp hs
    · exact hself
    · exact h m hm s hbelow

/-- No object in the tree repeats a key. -/
def NoRepeatedKeys (t : JsonTree) : Prop :=
  t.Everywhere fun
    | object members => (members.map (·.1)).Nodup
    | _ => True

/-- Every number in the tree satisfies a predicate. -/
def AllNumbers (p : NumberLiteral → Prop) (t : JsonTree) : Prop :=
  t.Everywhere fun
    | number n => p n
    | _ => True

theorem allNumbers_number {p : NumberLiteral → Prop} {n : NumberLiteral} :
    (number n).AllNumbers p ↔ p n := everywhere_number

theorem allNumbers_array {p : NumberLiteral → Prop} {values : List JsonTree} :
    (array values).AllNumbers p ↔ ∀ v ∈ values, v.AllNumbers p :=
  everywhere_array.trans (iff_of_eq (true_and _))

theorem allNumbers_object {p : NumberLiteral → Prop} {members : List (List Char × JsonTree)} :
    (object members).AllNumbers p ↔ ∀ m ∈ members, m.2.AllNumbers p :=
  everywhere_object.trans (iff_of_eq (true_and _))

theorem noRepeatedKeys_array {values : List JsonTree} :
    (array values).NoRepeatedKeys ↔ ∀ v ∈ values, v.NoRepeatedKeys :=
  everywhere_array.trans (iff_of_eq (true_and _))

theorem noRepeatedKeys_object {members : List (List Char × JsonTree)} :
    (object members).NoRepeatedKeys ↔
      (members.map (·.1)).Nodup ∧ ∀ m ∈ members, m.2.NoRepeatedKeys := everywhere_object

theorem AllNumbers.imp {p q : NumberLiteral → Prop} (h : ∀ n, p n → q n) {t : JsonTree}
    (ht : t.AllNumbers p) : t.AllNumbers q := by
  intro s hs
  cases s with
  | number n => exact h n (ht _ hs)
  | null => trivial
  | bool b => trivial
  | string s => trivial
  | array values => trivial
  | object members => trivial

theorem AllNumbers.congr {p q r : NumberLiteral → Prop} (h : ∀ n, p n → (q n ↔ r n)) {t : JsonTree}
    (ht : t.AllNumbers p) : t.AllNumbers q ↔ t.AllNumbers r := by
  apply forall₂_congr
  intro s hs
  cases s with
  | number n => exact h n (ht _ hs)
  | null => exact Iff.rfl
  | bool b => exact Iff.rfl
  | string s => exact Iff.rfl
  | array values => exact Iff.rfl
  | object members => exact Iff.rfl

/-- Equality as JSON values. -/
inductive Same : JsonTree → JsonTree → Prop
  | null : Same null null
  | bool (b : Bool) : Same (bool b) (bool b)
  | number {m n : NumberLiteral} (h : m.value = n.value) : Same (number m) (number n)
  | string (s : List Char) : Same (string s) (string s)
  | array {vs ws : List JsonTree} (h : List.Forall₂ Same vs ws) : Same (array vs) (array ws)
  | object {ms ps ns : List (List Char × JsonTree)} (hkeys : ms.map (·.1) = ps.map (·.1))
      (h : List.Forall₂ Same (ms.map (·.2)) (ps.map (·.2))) (hperm : ps.Perm ns) :
      Same (object ms) (object ns)

theorem same_number_iff {m n : NumberLiteral} :
    (number m).Same (number n) ↔ m.value = n.value := by
  constructor
  · intro h
    cases h
    assumption
  · exact Same.number

theorem same_array_iff {vs ws : List JsonTree} :
    (array vs).Same (array ws) ↔ List.Forall₂ Same vs ws := by
  constructor
  · intro h
    cases h
    assumption
  · exact Same.array

/-- Members under the same distinct keys in the same order are not permuted. -/
theorem eq_of_perm_of_keys {ps es : List (List Char × JsonTree)}
    (hkeys : ps.map (·.1) = es.map (·.1)) (hnodup : (es.map (·.1)).Nodup) (hperm : ps.Perm es) :
    ps = es := by
  induction ps generalizing es with
  | nil => exact hperm.nil_eq
  | cons p ps ih =>
      cases es with
      | nil => exact absurd hperm.length_eq (Nat.succ_ne_zero _)
      | cons e es =>
          rw [List.map_cons, List.map_cons, List.cons.injEq] at hkeys
          rw [List.map_cons, List.nodup_cons] at hnodup
          obtain rfl | hrest := List.mem_cons.mp (hperm.subset List.mem_cons_self)
          · rw [ih hkeys.2 hnodup.2 hperm.cons_inv]
          · exact absurd (hkeys.1 ▸ List.mem_map_of_mem hrest) hnodup.1

/-- Without repeated keys the members of two objects can only be compared key by key. -/
theorem same_object_iff {ms es ns : List (List Char × JsonTree)} (hnodup : (ms.map (·.1)).Nodup)
    (hkeys : ms.map (·.1) = es.map (·.1)) (hperm : es.Perm ns) :
    (object ms).Same (object ns) ↔ List.Forall₂ Same (ms.map (·.2)) (es.map (·.2)) := by
  constructor
  · intro h
    cases h with
    | @object _ ps _ hkeys' h hperm' =>
        have heq : ps = es := eq_of_perm_of_keys (hkeys'.symm.trans hkeys) (hkeys ▸ hnodup)
          (hperm'.trans hperm.symm)
        exact heq ▸ h
  · exact fun h => .object hkeys h hperm

/-- `JSON.parse` read the tree as this value. -/
inductive ReadAs : JsonTree → Json → Prop
  | null : ReadAs null .null
  | bool (b : Bool) : ReadAs (bool b) (.bool b)
  | number (n : NumberLiteral) : ReadAs (number n) (.number (toDouble n.value))
  | string (s : JsString) : ReadAs (string (toUSV s)) (.string s)
  | array {ts : List JsonTree} {vs : List Json} (h : List.Forall₂ ReadAs ts vs) :
      ReadAs (array ts) (.array vs)
  | object {ms : List (List Char × JsonTree)} {ps : List (JsString × Json)}
      (hkeys : ms.map (·.1) = ps.map fun p => toUSV p.1)
      (h : List.Forall₂ ReadAs (ms.map (·.2)) (ps.map (·.2))) : ReadAs (object ms) (.object ps)

/-- A member with a string that `JSON.parse` read is a member of the tree. -/
theorem ReadAs.mem_string {ms : List (List Char × JsonTree)} {ps : List (JsString × Json)}
    (hkeys : ms.map (·.1) = ps.map fun p => toUSV p.1)
    (h : List.Forall₂ ReadAs (ms.map (·.2)) (ps.map (·.2))) {key s : JsString}
    (hmem : (key, Json.string s) ∈ ps) : (toUSV key, JsonTree.string (toUSV s)) ∈ ms := by
  induction ps generalizing ms with
  | nil => exact absurd hmem List.not_mem_nil
  | cons p ps ih =>
      cases ms with
      | nil => cases h
      | cons m ms =>
          rw [List.map_cons, List.map_cons, List.cons.injEq] at hkeys
          rw [List.map_cons, List.map_cons, List.forall₂_cons] at h
          obtain hhere | hrest := List.mem_cons.mp hmem
          · obtain ⟨key', value⟩ := m
            obtain ⟨hkey, hvalue⟩ := And.intro hkeys.1 h.1
            rw [← hhere] at hkey hvalue
            cases hkey
            cases hvalue
            exact List.mem_cons_self
          · exact List.mem_cons_of_mem m (ih hkeys.2 h.2 hrest)

end JsonTree

end SocketServer

import Mathlib.Data.Finset.Sort
import Mathlib.Data.Prod.Lex
import Mathlib.Data.String.Basic
import Mathlib.Algebra.Order.Ring.Nat

/-!
# Replicated documents as sets of items

A document is a set of items, each with an id made of the client that wrote it and that client's
clock, and the set of the ids that were deleted.  Two replicas merge by taking both unions.  The
content of a field is what is left of its items, in an order that depends on nothing but the set.

* `merge_self`: merging a document with itself changes nothing;
* `card_visible_merge`: documents that share no items keep all of them side by side.
-/

namespace SocketServer.ItemSet

structure ItemId where
  client : ℕ
  clock : ℕ
  deriving DecidableEq

structure Item (ν : Type*) where
  id : ItemId
  field : String
  value : ν
  deriving DecidableEq

variable {ν : Type*} [DecidableEq ν]

structure ItemDoc (ν : Type*) where
  items : Finset (Item ν)
  deleted : Finset ItemId

def merge (a b : ItemDoc ν) : ItemDoc ν := ⟨a.items ∪ b.items, a.deleted ∪ b.deleted⟩

/-- **Merging is idempotent.** -/
theorem merge_self (a : ItemDoc ν) : merge a a = a := by
  rw [merge, Finset.union_self, Finset.union_self]

/-- The items of a field that are not deleted. -/
def visible (a : ItemDoc ν) (field : String) : Finset (Item ν) :=
  a.items.filter fun item => item.field = field ∧ item.id ∉ a.deleted

omit [DecidableEq ν] in
theorem visible_of_undeleted {a : ItemDoc ν} (h : a.deleted = ∅) (field : String) :
    visible a field = a.items.filter fun item => item.field = field := by
  simp [visible, h]

/-- Where nothing is deleted, the visible items of a merge are those of both sides. -/
theorem visible_merge {a b : ItemDoc ν} (ha : a.deleted = ∅) (hb : b.deleted = ∅)
    (field : String) : visible (merge a b) field = visible a field ∪ visible b field := by
  have hmerged : (merge a b).deleted = ∅ := by rw [merge, ha, hb, Finset.union_self]
  rw [visible_of_undeleted hmerged, visible_of_undeleted ha, visible_of_undeleted hb, merge,
    Finset.filter_union]

/-- **Items of different clients stand side by side.** -/
theorem card_visible_merge {a b : ItemDoc ν} {field : String} (ha : a.deleted = ∅)
    (hb : b.deleted = ∅)
    (hclients : ∀ x ∈ visible a field, ∀ y ∈ visible b field, x.id.client ≠ y.id.client) :
    (visible (merge a b) field).card = (visible a field).card + (visible b field).card := by
  rw [visible_merge ha hb]
  refine Finset.card_union_of_disjoint (Finset.disjoint_left.mpr fun x hx hy => ?_)
  exact hclients x hx x hy rfl

/-! ### Items that one client wrote in a row -/

/-- A client's items for some values, from a clock on. -/
def itemsFrom (client : ℕ) (field : String) : ℕ → List ν → List (Item ν)
  | _, [] => []
  | clock, v :: rest => ⟨⟨client, clock⟩, field, v⟩ :: itemsFrom client field (clock + 1) rest

/-- A document that one client wrote into one field. -/
def written (client : ℕ) (field : String) (values : List ν) : ItemDoc ν :=
  ⟨(itemsFrom client field 0 values).toFinset, ∅⟩

omit [DecidableEq ν] in
theorem mem_itemsFrom {client : ℕ} {field : String} {clock : ℕ} {values : List ν} {item : Item ν}
    (h : item ∈ itemsFrom client field clock values) :
    item.id.client = client ∧ clock ≤ item.id.clock ∧ item.field = field := by
  induction values generalizing clock with
  | nil => cases h
  | cons v rest ih =>
      obtain rfl | htail := List.mem_cons.mp h
      · exact ⟨rfl, Nat.le_refl _, rfl⟩
      · obtain ⟨hclient, hclock, hfield⟩ := ih htail
        exact ⟨hclient, by omega, hfield⟩

omit [DecidableEq ν] in
theorem nodup_itemsFrom (client : ℕ) (field : String) (clock : ℕ) (values : List ν) :
    (itemsFrom client field clock values).Nodup := by
  induction values generalizing clock with
  | nil => exact List.nodup_nil
  | cons v rest ih =>
      refine List.nodup_cons.mpr ⟨fun hmem => ?_, ih (clock + 1)⟩
      have hclock := (mem_itemsFrom hmem).2.1
      exact absurd hclock (Nat.not_succ_le_self clock)

omit [DecidableEq ν] in
theorem length_itemsFrom (client : ℕ) (field : String) (clock : ℕ) (values : List ν) :
    (itemsFrom client field clock values).length = values.length := by
  induction values generalizing clock with
  | nil => rfl
  | cons v rest ih => exact congrArg (· + 1) (ih (clock + 1))

theorem visible_written (client : ℕ) (field : String) (values : List ν) :
    visible (written client field values) field = (written client field values).items := by
  rw [visible_of_undeleted rfl]
  refine Finset.filter_true_of_mem fun item hitem => ?_
  exact (mem_itemsFrom (List.mem_toFinset.mp hitem)).2.2

theorem visible_written_of_ne {field other : String} (h : other ≠ field) (client : ℕ)
    (values : List ν) : visible (written client field values) other = ∅ := by
  rw [visible_of_undeleted rfl]
  refine Finset.filter_false_of_mem fun item hitem hother => ?_
  exact h (hother.symm.trans (mem_itemsFrom (List.mem_toFinset.mp hitem)).2.2)

theorem card_written (client : ℕ) (field : String) (values : List ν) :
    (written client field values).items.card = values.length :=
  (List.toFinset_card_of_nodup (nodup_itemsFrom client field 0 values)).trans
    (length_itemsFrom client field 0 values)

/-! ### The content of a field -/

/-- An order for the items of every set. -/
structure Arrangement (ν : Type*) where
  list : Finset (Item ν) → List (Item ν)
  perm : ∀ s, (list s : Multiset (Item ν)) = s.val

/-- The content of a field: the values of its visible items, in order. -/
def content (order : Arrangement ν) (a : ItemDoc ν) (field : String) : List ν :=
  (order.list (visible a field)).map (·.value)

omit [DecidableEq ν] in
theorem length_content (order : Arrangement ν) (a : ItemDoc ν) (field : String) :
    (content order a field).length = (visible a field).card := by
  rw [content, List.length_map, Finset.card_def, ← order.perm, Multiset.coe_card]

/-- An item as a tuple, the client id and the clock first. -/
def Item.key (item : Item ν) : ℕ ×ₗ ℕ ×ₗ String ×ₗ ν :=
  toLex (item.id.client, toLex (item.id.clock, toLex (item.field, item.value)))

omit [DecidableEq ν] in
theorem key_injective : Function.Injective (Item.key : Item ν → _) := by
  rintro ⟨⟨client, clock⟩, field, value⟩ ⟨⟨client', clock'⟩, field', value'⟩ h
  cases h
  rfl

/-- The items of a set by client id, and by clock for each client. -/
def byId (ν : Type*) [LinearOrder ν] : Arrangement ν :=
  letI : LinearOrder (Item ν) := LinearOrder.lift' Item.key key_injective
  { list := fun s => s.sort
    perm := fun s => s.sort_eq (· ≤ ·) }

end SocketServer.ItemSet

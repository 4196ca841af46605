import SocketServer.Library.Text
import Mathlib.Algebra.Order.Ring.Nat

/-!
# The UTF-8 length of JavaScript strings

`byteLength` is not additive: a high surrogate at the end of one string and a low surrogate at the
start of the next are three bytes each on their own and four together.  `byteLength_cons` is the
exact law for one code unit, `byteLength_append_le` the bound for a concatenation.

`byteLength_escape` is the length of a text in which some code units are replaced by longer ASCII
strings, as entities do.
-/

namespace SocketServer.Text

/-- Whether a string starts with a low surrogate. -/
def startsLow : JsString → Bool
  | [] => false
  | u :: _ => isLowSurrogate u

/-- What a code unit saves by forming a pair with the one behind it. -/
def pairing (u : UInt16) (s : JsString) : ℕ := if isHighSurrogate u && startsLow s then 2 else 0

@[simp] theorem byteLength_nil : byteLength [] = 0 := rfl

theorem length_utf8_cons (c : Char) (cs : List Char) :
    (utf8 (c :: cs)).length = c.utf8Size + (utf8 cs).length := by
  rw [utf8_cons, List.length_append, String.length_utf8EncodeChar]

/-- The scalar value of a pair takes four bytes. -/
theorem utf8Size_pairChar {u v : UInt16} (hu : isHighSurrogate u = true)
    (hv : isLowSurrogate v = true) : (pairChar u v).utf8Size = 4 := by
  simp only [isHighSurrogate, isLowSurrogate, Bool.and_eq_true, decide_eq_true_eq] at hu hv
  have hvalid : (0x10000 + (u.toNat - 0xD800) * 0x400 + (v.toNat - 0xDC00)).isValidChar := by
    right
    omega
  have hval : (pairChar u v).val.toNat
      = 0x10000 + (u.toNat - 0xD800) * 0x400 + (v.toNat - 0xDC00) := by
    rw [pairChar, Char.ofNat, dif_pos hvalid]
    rfl
  have hgt : ∀ n : UInt32, n.toNat < 0x10000 → ¬ (pairChar u v).val ≤ n := by
    intro n hn hle
    have hle' := UInt32.le_iff_toNat_le.mp hle
    omega
  unfold Char.utf8Size
  rw [if_neg (hgt _ (by decide)), if_neg (hgt _ (by decide)), if_neg (hgt _ (by decide))]

theorem unitChar_surrogate {u : UInt16} (h : isHighSurrogate u = true ∨ isLowSurrogate u = true) :
    unitChar u = '\uFFFD' := by
  rw [unitChar, if_pos (by rcases h with h | h <;> simp [h])]

theorem byteLength_singleton (u : UInt16) : byteLength [u] = (unitChar u).utf8Size := by
  rw [byteLength, toBytes, toUSV, length_utf8_cons]
  rfl

/-- **One code unit.** -/
theorem byteLength_cons (u : UInt16) (s : JsString) :
    byteLength (u :: s) + pairing u s = byteLength [u] + byteLength s := by
  have hsingle := byteLength_singleton u
  cases s with
  | nil => rw [pairing, startsLow, Bool.and_false, if_neg Bool.false_ne_true, byteLength_nil]
  | cons v rest =>
      by_cases hpair : (isHighSurrogate u && isLowSurrogate v) = true
      · obtain ⟨hu, hv⟩ := (Bool.and_eq_true _ _).mp hpair
        have hvhigh : isHighSurrogate v = false := by
          simp only [isHighSurrogate, isLowSurrogate, Bool.and_eq_true, decide_eq_true_eq,
            Bool.and_eq_false_iff, decide_eq_false_iff_not] at hv ⊢
          omega
        have hrest : byteLength (v :: rest) = (unitChar v).utf8Size + byteLength rest := by
          rw [byteLength, toBytes, toUSV_cons_of_not_high hvhigh, length_utf8_cons]
          rfl
        have hboth : byteLength (u :: v :: rest) = 4 + byteLength rest := by
          rw [byteLength, toBytes, toUSV, if_pos hpair, length_utf8_cons, utf8Size_pairChar hu hv]
          rfl
        have hthree : ('\uFFFD' : Char).utf8Size = 3 := by decide
        rw [hboth, hsingle, hrest, unitChar_surrogate (Or.inl hu), unitChar_surrogate (Or.inr hv),
          hthree, pairing, startsLow, if_pos hpair]
        omega
      · rw [pairing, startsLow, if_neg hpair, Nat.add_zero, hsingle, byteLength, toBytes, toUSV,
          if_neg hpair, length_utf8_cons]
        rfl

theorem startsLow_append {s : JsString} (h : s ≠ []) (t : JsString) :
    startsLow (s ++ t) = startsLow s := by
  cases s with
  | nil => exact absurd rfl h
  | cons u s => rfl

/-- **A concatenation is at most as long as its parts.** -/
theorem byteLength_append_le (s t : JsString) :
    byteLength (s ++ t) ≤ byteLength s + byteLength t := by
  induction s with
  | nil => simp
  | cons u s ih =>
      have hcons := byteLength_cons u s
      have hall := byteLength_cons u (s ++ t)
      rw [List.cons_append]
      by_cases hs : s = []
      · subst hs
        rw [List.nil_append] at hall ⊢
        omega
      · have hsame : pairing u (s ++ t) = pairing u s := by
          rw [pairing, startsLow_append hs, pairing]
        omega

theorem one_le_byteLength_singleton (u : UInt16) : 1 ≤ byteLength [u] := by
  rw [byteLength_singleton]
  exact (unitChar u).utf8Size_pos

/-- A pair saves no more than its first code unit takes on its own. -/
theorem pairing_le_singleton (u : UInt16) (s : JsString) : pairing u s ≤ byteLength [u] := by
  unfold pairing
  split
  · rename_i h
    have hu : isHighSurrogate u = true := ((Bool.and_eq_true _ _).mp h).1
    rw [byteLength_singleton, unitChar_surrogate (Or.inl hu)]
    decide
  · exact Nat.zero_le _

theorem byteLength_le_cons (u : UInt16) (s : JsString) : byteLength s ≤ byteLength (u :: s) := by
  have hcons := byteLength_cons u s
  have hpair := pairing_le_singleton u s
  omega

/-- **The end of a string is at most as long as the string.** -/
theorem byteLength_le_of_suffix {s t : JsString} (h : s <:+ t) : byteLength s ≤ byteLength t := by
  obtain ⟨front, rfl⟩ := h
  induction front with
  | nil => exact Nat.le_refl _
  | cons u front ih => exact Nat.le_trans ih (byteLength_le_cons u (front ++ s))

/-- Nor does a pair save more than its second code unit takes on its own. -/
theorem pairing_le (u : UInt16) (s : JsString) : pairing u s ≤ byteLength s := by
  unfold pairing
  split
  · rename_i h
    have hlow : startsLow s = true := ((Bool.and_eq_true _ _).mp h).2
    cases s with
    | nil => cases hlow
    | cons v rest =>
        have hsave : pairing v rest = 0 := by
          have hlow' : isLowSurrogate v = true := hlow
          have hnothigh : isHighSurrogate v = false := by
            simp only [isHighSurrogate, isLowSurrogate, Bool.and_eq_true, decide_eq_true_eq,
              Bool.and_eq_false_iff, decide_eq_false_iff_not] at hlow' ⊢
            omega
          rw [pairing, hnothigh, Bool.false_and, if_neg Bool.false_ne_true]
        have hthree : byteLength [v] = 3 := by
          rw [byteLength_singleton, unitChar_surrogate (Or.inr hlow)]
          decide
        have hcons := byteLength_cons v rest
        omega
  · exact Nat.zero_le _

/-- **The start of a string is at most as long as the string.** -/
theorem byteLength_le_of_prefix {s t : JsString} (h : s <+: t) : byteLength s ≤ byteLength t := by
  obtain ⟨rest, rfl⟩ := h
  induction s with
  | nil => exact Nat.zero_le _
  | cons u s ih =>
      have hcons := byteLength_cons u s
      have hall := byteLength_cons u (s ++ rest)
      rw [List.cons_append]
      by_cases hs : s = []
      · subst hs
        have hpair := pairing_le u rest
        simp only [List.nil_append, byteLength_nil] at hall hcons ⊢
        omega
      · have hsame : pairing u (s ++ rest) = pairing u s := by
          rw [pairing, startsLow_append hs, pairing]
        omega

/-- An ASCII code unit. -/
def isAscii (u : UInt16) : Bool := u.toNat < 128

theorem isAscii_spec {u : UInt16} (h : isAscii u = true) :
    isHighSurrogate u = false ∧ isLowSurrogate u = false ∧ byteLength [u] = 1 := by
  have hall : ∀ n < 128, isHighSurrogate (UInt16.ofNat n) = false ∧
      isLowSurrogate (UInt16.ofNat n) = false ∧ byteLength [UInt16.ofNat n] = 1 := by
    decide +kernel
  simp only [isAscii, decide_eq_true_eq] at h
  have hspec := hall u.toNat h
  rwa [UInt16.ofNat_toNat] at hspec

/-- An ASCII code unit adds one byte to whatever is behind it. -/
theorem byteLength_ascii_cons {u : UInt16} (h : isAscii u = true) (s : JsString) :
    byteLength (u :: s) = 1 + byteLength s := by
  obtain ⟨hhigh, -, hone⟩ := isAscii_spec h
  have hcons := byteLength_cons u s
  rw [pairing, hhigh, Bool.false_and, if_neg Bool.false_ne_true] at hcons
  omega

theorem byteLength_ascii_append {s : JsString} (h : ∀ u ∈ s, isAscii u = true) (t : JsString) :
    byteLength (s ++ t) = s.length + byteLength t := by
  induction s with
  | nil => simp
  | cons u s ih =>
      rw [List.cons_append, byteLength_ascii_cons (h u List.mem_cons_self),
        ih fun v hv => h v (List.mem_cons_of_mem u hv), List.length_cons]
      omega

/-! ### Replacing code units -/

/-- What a code unit is replaced by: itself, or, when it is no surrogate, an ASCII string that is
not shorter. -/
def IsEscape (f : UInt16 → JsString) : Prop :=
  ∀ u, f u = [u] ∨ (isHighSurrogate u = false ∧ isLowSurrogate u = false) ∧
    byteLength [u] ≤ (f u).length ∧ ∀ v ∈ f u, isAscii v = true

/-- **The length of an escaped text.**  The code units of a text, some of them marked: replacing
the marked ones adds what their replacements are longer by. -/
theorem byteLength_escape {f : UInt16 → JsString} (hf : IsEscape f) (text : List (Bool × UInt16)) :
    byteLength (text.flatMap fun p => if p.1 then f p.2 else [p.2]) =
      byteLength (text.map (·.2)) +
        ((text.filter (·.1)).map fun p => (f p.2).length - byteLength [p.2]).sum := by
  have hboth : startsLow (text.flatMap fun p => if p.1 then f p.2 else [p.2])
        = startsLow (text.map (·.2)) ∧
      byteLength (text.flatMap fun p => if p.1 then f p.2 else [p.2]) =
        byteLength (text.map (·.2)) +
          ((text.filter (·.1)).map fun p => (f p.2).length - byteLength [p.2]).sum := by
    induction text with
    | nil => exact ⟨rfl, rfl⟩
    | cons p rest ih =>
        obtain ⟨marked, u⟩ := p
        obtain ⟨hlow, hlen⟩ := ih
        rw [List.flatMap_cons, List.map_cons]
        have hkept : ∀ extra,
            ((rest.filter (·.1)).map fun p => (f p.2).length - byteLength [p.2]).sum = extra →
            startsLow (u :: rest.flatMap fun p => if p.1 then f p.2 else [p.2])
              = startsLow (u :: rest.map (·.2)) ∧
            byteLength (u :: rest.flatMap fun p => if p.1 then f p.2 else [p.2])
              = byteLength (u :: rest.map (·.2)) + extra := by
          rintro extra rfl
          refine ⟨rfl, ?_⟩
          have hout := byteLength_cons u (rest.flatMap fun p => if p.1 then f p.2 else [p.2])
          have hin := byteLength_cons u (rest.map (·.2))
          have hsame : pairing u (rest.flatMap fun p => if p.1 then f p.2 else [p.2])
              = pairing u (rest.map (·.2)) := by rw [pairing, hlow, pairing]
          omega
        cases marked with
        | false => exact hkept _ rfl
        | true =>
            rcases hf u with hself | ⟨⟨hhigh, hlow'⟩, hle, hall⟩
            · have hspec := hkept _ rfl
              have hone := one_le_byteLength_singleton u
              have hzero : 1 - byteLength [u] = 0 := by omega
              simp only [if_true, hself, List.singleton_append, List.filter_cons_of_pos,
                List.map_cons, List.length_singleton, hzero, List.sum_cons, Nat.zero_add]
              exact hspec
            · have hone := one_le_byteLength_singleton u
              have hne : f u ≠ [] := List.ne_nil_of_length_pos (by omega)
              simp only [if_true, List.filter_cons_of_pos, List.map_cons, List.sum_cons]
              constructor
              · obtain ⟨v, tail, hv⟩ := List.exists_cons_of_ne_nil hne
                rw [startsLow_append hne, hv]
                show isLowSurrogate v = isLowSurrogate u
                rw [(isAscii_spec (hall v (hv ▸ List.mem_cons_self))).2.1, hlow']
              · have hin := byteLength_cons u (rest.map (·.2))
                rw [pairing, hhigh, Bool.false_and, if_neg Bool.false_ne_true] at hin
                rw [byteLength_ascii_append hall, hlen]
                omega
  exact hboth.2

end SocketServer.Text

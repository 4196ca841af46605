import SocketServer.Library.JsNumber
import Mathlib.Tactic.Linarith

/-!
# Integers as doubles

The double nearest to an integer is an integer: below `2 ^ 53` the integer itself, and from there on
a multiple of the distance between two doubles, which is then an integer.  Rounding is monotone, so
the integers that read as one double are all those between the least and the largest of them.
-/

namespace SocketServer.Js

theorem pow2_eq_zpow (e : ℤ) : pow2 e = (2 : ℚ) ^ e := by
  unfold pow2
  split
  · rename_i h
    rw [← zpow_natCast, Int.toNat_of_nonneg h]
  · rename_i h
    rw [one_div, ← zpow_natCast, ← zpow_neg, Int.toNat_of_nonneg (by omega), neg_neg]

/-! ### Rounding -/

theorem roundHalfEven_int (z : ℤ) : roundHalfEven (z : ℚ) = z := by
  have hfloor : (z : ℚ).floor = z := Rat.floor_intCast z
  simp [roundHalfEven, hfloor]

/-- Rounding goes down to the integer below or up to the next one. -/
theorem roundHalfEven_cases (q : ℚ) :
    roundHalfEven q = q.floor ∨ roundHalfEven q = q.floor + 1 := by
  unfold roundHalfEven
  dsimp only
  split
  · exact Or.inl rfl
  split
  · exact Or.inr rfl
  split
  · exact Or.inl rfl
  · exact Or.inr rfl

theorem roundHalfEven_mono {q r : ℚ} (h : q ≤ r) : roundHalfEven q ≤ roundHalfEven r := by
  have hfloor : q.floor ≤ r.floor := Rat.floor_monotone h
  obtain heq | hlt := hfloor.eq_or_lt
  · -- the same integer below: the rest decides
    have hrest : q - q.floor ≤ r - r.floor := by
      rw [heq]
      exact sub_le_sub_right h _
    unfold roundHalfEven
    dsimp only
    rw [heq] at hrest ⊢
    split_ifs <;> first | omega | linarith
  · obtain hq | hq := roundHalfEven_cases q
    · obtain hr | hr := roundHalfEven_cases r <;> omega
    · obtain hr | hr := roundHalfEven_cases r <;> omega

theorem roundHalfEven_neg (q : ℚ) : roundHalfEven (-q) = -roundHalfEven q := by
  by_cases hq : (q.floor : ℚ) = q
  · rw [← hq, ← Int.cast_neg, roundHalfEven_int, roundHalfEven_int]
  have hbelow : (q.floor : ℚ) < q := lt_of_le_of_ne (Rat.floor_le q) hq
  have habove : q < ((q.floor + 1 : ℤ) : ℚ) := Rat.lt_floor_add_one q
  have hfloor : (-q).floor = -q.floor - 1 := by
    apply le_antisymm
    · have hlt : (-q).floor < -q.floor := by
        rw [Rat.floor_lt_iff, Int.cast_neg]
        exact neg_lt_neg hbelow
      omega
    · rw [Rat.le_floor_iff]
      push_cast at habove ⊢
      linarith
  unfold roundHalfEven
  dsimp only
  rw [hfloor]
  push_cast
  split_ifs <;> first | omega | linarith

/-! ### The double nearest to an integer -/

theorem pow_log2_le {z : ℤ} (hz : z ≠ 0) : ((2 : ℚ) ^ Nat.log2 z.natAbs) ≤ |(z : ℚ)| := by
  have hnat : 2 ^ Nat.log2 z.natAbs ≤ z.natAbs := Nat.log2_self_le (Int.natAbs_ne_zero.mpr hz)
  rw [← Int.cast_abs, Int.abs_eq_natAbs, Int.cast_natCast]
  exact_mod_cast hnat

theorem binaryExponent_int {z : ℤ} (hz : z ≠ 0) :
    binaryExponent (z : ℚ) = (Nat.log2 z.natAbs : ℤ) := by
  have hone : Nat.log2 1 = 0 := by decide
  unfold binaryExponent
  dsimp only
  rw [Rat.num_intCast, Rat.den_intCast, hone, Nat.cast_zero, sub_zero, pow2_eq_zpow, zpow_natCast,
    if_pos (pow_log2_le hz)]

/-- The distance of the doubles around an integer. -/
def ulp (z : ℤ) : ℚ := 2 ^ ((Nat.log2 z.natAbs : ℤ) - 52)

/-- The value of the nearest double, as long as it is finite. -/
def rounded (z : ℤ) : ℚ := (roundHalfEven ((z : ℚ) / ulp z) : ℤ) * ulp z

theorem ulp_pos (z : ℤ) : 0 < ulp z := zpow_pos two_pos _

theorem rounded_zero : rounded 0 = 0 := by
  rw [rounded, Int.cast_zero, zero_div, ← Int.cast_zero, roundHalfEven_int, Int.cast_zero, zero_mul]

theorem toDouble_rounded (z : ℤ) :
    toDouble z = if 2 ^ 1024 ≤ |rounded z| then .infinite (decide ((z : ℚ) < 0))
      else .finite (rounded z) := by
  by_cases hz : z = 0
  · rw [hz, rounded_zero, abs_zero, if_neg (not_le.mpr (by positivity))]
    rfl
  have hulp : pow2 (max (binaryExponent (z : ℚ)) (-1022) - 52) = ulp z := by
    rw [binaryExponent_int hz, max_eq_left (by omega), pow2_eq_zpow, ulp]
  have hmax : pow2 1024 = 2 ^ 1024 := rfl
  unfold toDouble
  rw [if_neg (Int.cast_ne_zero.mpr hz)]
  dsimp only
  rw [hulp, hmax, rounded]

theorem toDouble_eq_finite {z : ℤ} {x : ℚ} :
    toDouble z = .finite x ↔ rounded z = x ∧ |x| < 2 ^ 1024 := by
  rw [toDouble_rounded]
  constructor
  · intro h
    split at h
    · cases h
    · rename_i hsmall
      cases h
      exact ⟨rfl, not_le.mp hsmall⟩
  · rintro ⟨rfl, hsmall⟩
    rw [if_neg (not_le.mpr hsmall)]

theorem rounded_neg (z : ℤ) : rounded (-z) = -rounded z := by
  have hulp : ulp (-z) = ulp z := by rw [ulp, ulp, Int.natAbs_neg]
  rw [rounded, rounded, hulp, Int.cast_neg, neg_div, roundHalfEven_neg, Int.cast_neg, neg_mul]

/-- From `2 ^ 53` on the distance is an integer. -/
theorem ulp_eq_pow {z : ℤ} (hz : 2 ^ 53 ≤ z.natAbs) :
    ∃ j : ℕ, Nat.log2 z.natAbs = 52 + j ∧ ulp z = 2 ^ j := by
  have hlog : 52 ≤ Nat.log2 z.natAbs := by
    rw [Nat.le_log2 (by omega)]
    exact le_trans (by norm_num) hz
  obtain ⟨j, hj⟩ := Nat.exists_eq_add_of_le hlog
  refine ⟨j, hj, ?_⟩
  rw [ulp, hj, ← zpow_natCast]
  congr 1
  push_cast
  omega

/-- An integer with at most 53 binary digits before its zeros is a double. -/
theorem rounded_eq_self {r : ℤ} {j : ℕ} (h : r.natAbs < 2 ^ 53) :
    rounded (r * 2 ^ j) = (r * 2 ^ j : ℤ) := by
  by_cases hr : r = 0
  · rw [hr, zero_mul, rounded_zero, Int.cast_zero]
  -- dividing by the distance leaves an integer
  obtain ⟨k, hk⟩ : ∃ k : ℤ, ((r * 2 ^ j : ℤ) : ℚ) = k * ulp (r * 2 ^ j) := by
    have hlog : Nat.log2 (r * 2 ^ j).natAbs ≤ 52 + j := by
      have hlt : (r * 2 ^ j).natAbs < 2 ^ (53 + j) := by
        rw [Int.natAbs_mul, Int.natAbs_pow, pow_add]
        exact Nat.mul_lt_mul_of_pos_right h (by positivity)
      have hne : (r * 2 ^ j).natAbs ≠ 0 := Int.natAbs_ne_zero.mpr (mul_ne_zero hr (by positivity))
      have := (Nat.log2_lt hne).mpr hlt
      omega
    refine ⟨r * 2 ^ (52 + j - Nat.log2 (r * 2 ^ j).natAbs), ?_⟩
    rw [ulp]
    push_cast
    rw [mul_assoc, ← zpow_natCast, ← zpow_natCast, ← zpow_add₀ two_ne_zero]
    congr 2
    omega
  rw [rounded, hk, mul_div_assoc, div_self (ulp_pos _).ne', mul_one, roundHalfEven_int]

/-- A multiple of the distance that is no larger than an integer is no larger than its double. -/
theorem le_rounded {z k : ℤ} (h : (k : ℚ) * ulp z ≤ z) : (k : ℚ) * ulp z ≤ rounded z := by
  have hdiv : (k : ℚ) ≤ z / ulp z := (le_div_iff₀ (ulp_pos z)).mpr h
  have hround := roundHalfEven_mono hdiv
  rw [roundHalfEven_int] at hround
  exact mul_le_mul_of_nonneg_right (Int.cast_le.mpr hround) (ulp_pos z).le

theorem rounded_le {z k : ℤ} (h : (z : ℚ) ≤ (k : ℚ) * ulp z) : rounded z ≤ (k : ℚ) * ulp z := by
  have hdiv : (z : ℚ) / ulp z ≤ k := (div_le_iff₀ (ulp_pos z)).mpr h
  have hround := roundHalfEven_mono hdiv
  rw [roundHalfEven_int] at hround
  exact mul_le_mul_of_nonneg_right (Int.cast_le.mpr hround) (ulp_pos z).le

theorem rounded_nonneg {z : ℤ} (hz : 0 ≤ z) : 0 ≤ rounded z := by
  have h := le_rounded (z := z) (k := 0) (by rw [Int.cast_zero, zero_mul]; exact_mod_cast hz)
  rwa [Int.cast_zero, zero_mul] at h

/-- The nearest double stays between the powers of two around an integer. -/
theorem pow_le_rounded {z : ℤ} (hz : 0 < z) :
    2 ^ Nat.log2 z.natAbs ≤ rounded z ∧ rounded z ≤ 2 ^ (Nat.log2 z.natAbs + 1) := by
  have hne : z.natAbs ≠ 0 := Int.natAbs_ne_zero.mpr hz.ne'
  have hcast : (z : ℚ) = (z.natAbs : ℚ) := by
    rw [← Int.cast_natCast, Int.natAbs_of_nonneg hz.le]
  have hlow : (2 : ℚ) ^ Nat.log2 z.natAbs ≤ z := by
    rw [hcast]
    exact_mod_cast Nat.log2_self_le hne
  have hhigh : (z : ℚ) ≤ 2 ^ (Nat.log2 z.natAbs + 1) := by
    rw [hcast]
    exact_mod_cast (Nat.lt_log2_self (n := z.natAbs)).le
  have hpow (n : ℕ) : (((2 ^ (52 + n) : ℤ) : ℚ)) * ulp z = 2 ^ (Nat.log2 z.natAbs + n) := by
    rw [ulp]
    push_cast
    rw [← zpow_natCast, ← zpow_natCast, ← zpow_add₀ two_ne_zero]
    congr 1
    push_cast
    omega
  constructor
  · rw [← Nat.add_zero (Nat.log2 z.natAbs), ← hpow 0] at hlow ⊢
    exact le_rounded hlow
  · rw [← hpow 1] at hhigh ⊢
    exact rounded_le hhigh

theorem pow_le_abs_rounded {z : ℤ} (hz : z ≠ 0) : 2 ^ Nat.log2 z.natAbs ≤ |rounded z| := by
  rcases lt_or_gt_of_ne hz with hneg | hpos
  · have h := (pow_le_rounded (neg_pos.mpr hneg)).1
    rw [Int.natAbs_neg, rounded_neg] at h
    exact h.trans (neg_le_abs _)
  · exact (pow_le_rounded hpos).1.trans (le_abs_self _)

theorem rounded_mono_of_pos {a b : ℤ} (ha : 0 < a) (h : a ≤ b) : rounded a ≤ rounded b := by
  have hb : 0 < b := ha.trans_le h
  have hlog : Nat.log2 a.natAbs ≤ Nat.log2 b.natAbs := by
    rw [Nat.le_log2 (by omega)]
    exact (Nat.log2_self_le (by omega)).trans (by omega)
  obtain heq | hlt := hlog.eq_or_lt
  · have hulp : ulp a = ulp b := by rw [ulp, ulp, heq]
    rw [rounded, rounded, hulp]
    apply mul_le_mul_of_nonneg_right _ (ulp_pos b).le
    exact Int.cast_le.mpr (roundHalfEven_mono
      (div_le_div_of_nonneg_right (Int.cast_le.mpr h) (ulp_pos b).le))
  · calc rounded a ≤ 2 ^ (Nat.log2 a.natAbs + 1) := (pow_le_rounded ha).2
      _ ≤ 2 ^ Nat.log2 b.natAbs := pow_le_pow_right₀ one_le_two hlt
      _ ≤ rounded b := (pow_le_rounded hb).1

/-- **The nearest double is monotone**: by the signs of the two integers. -/
theorem rounded_mono {a b : ℤ} (h : a ≤ b) : rounded a ≤ rounded b := by
  rcases lt_or_ge 0 a with ha | ha
  · exact rounded_mono_of_pos ha h
  · have hna := rounded_nonneg (neg_nonneg.mpr ha)
    rw [rounded_neg] at hna
    rcases lt_or_ge b 0 with hb | hb
    · have hneg := rounded_mono_of_pos (neg_pos.mpr hb) (neg_le_neg h)
      rw [rounded_neg, rounded_neg] at hneg
      exact neg_le_neg_iff.mp hneg
    · exact (neg_nonneg.mp hna).trans (rounded_nonneg hb)

/-- The double nearest to a double is this double. -/
theorem rounded_rounded {z k : ℤ} (h : rounded z = k) : rounded k = k := by
  wlog hz : 0 < z generalizing z k
  · obtain hzero | hneg := (not_lt.mp hz).eq_or_lt
    · rw [hzero, rounded_zero] at h
      have hk : k = 0 := by exact_mod_cast h.symm
      rw [hk, rounded_zero, Int.cast_zero]
    · have hpos := this (k := -k) (by rw [rounded_neg, h, Int.cast_neg]) (neg_pos.mpr hneg)
      rw [rounded_neg, Int.cast_neg] at hpos
      exact neg_injective hpos
  rcases lt_or_ge z.natAbs (2 ^ 53) with hsmall | hlarge
  · have hself := rounded_eq_self (r := z) (j := 0) hsmall
    rw [pow_zero, mul_one] at hself
    rw [Int.cast_injective (h.symm.trans hself), hself]
  · obtain ⟨j, hj, hulp⟩ := ulp_eq_pow hlarge
    generalize hr : roundHalfEven ((z : ℚ) / ulp z) = r
    have hvalue : rounded z = r * 2 ^ j := by rw [rounded, hr, hulp]
    have hk : k = r * 2 ^ j := by
      rw [h] at hvalue
      exact_mod_cast hvalue
    obtain ⟨hlow, hhigh⟩ := pow_le_rounded hz
    have hbound : r ≤ 2 ^ 53 := by
      have hmul : (r : ℚ) * 2 ^ j ≤ 2 ^ 53 * 2 ^ j := by
        rw [← hvalue, ← pow_add]
        exact hhigh.trans_eq (by rw [hj]; congr 1; omega)
      exact_mod_cast le_of_mul_le_mul_right hmul (by positivity)
    have hnonneg : 0 ≤ r := by
      have hmul : (0 : ℚ) ≤ r * 2 ^ j := hvalue ▸ rounded_nonneg hz.le
      exact_mod_cast nonneg_of_mul_nonneg_left hmul (by positivity)
    rw [hk]
    obtain hlt | heq := hbound.lt_or_eq
    · exact rounded_eq_self (by omega)
    · -- one digit more: half as many digits and one zero more
      have hshift : r * 2 ^ j = 2 ^ 52 * 2 ^ (j + 1) := by
        rw [heq, ← pow_add, ← pow_add]
        congr 1
        omega
      rw [hshift]
      exact rounded_eq_self (by decide)

/-! ### What an integer reads as -/

section Reading

variable {a b c m n x z : ℤ}

/-- The integers that read as one double have no gaps. -/
theorem toDouble_between (hab : a ≤ b) (hbc : b ≤ c) (ha : toDouble a = .finite x)
    (hc : toDouble c = .finite x) : toDouble b = .finite x := by
  rw [toDouble_eq_finite] at ha hc ⊢
  refine ⟨le_antisymm ?_ ?_, ha.2⟩
  · exact (rounded_mono hbc).trans_eq hc.1
  · exact ha.1.symm.le.trans (rounded_mono hab)

theorem toDouble_toDouble (h : toDouble n = .finite x) : toDouble x = .finite x := by
  rw [toDouble_eq_finite] at h ⊢
  exact ⟨rounded_rounded h.1, h.2⟩

theorem toDouble_small (h : n.natAbs < 2 ^ 53) : toDouble n = .finite n := by
  have hself := rounded_eq_self (r := n) (j := 0) h
  rw [pow_zero, mul_one] at hself
  refine toDouble_eq_finite.mpr ⟨hself, ?_⟩
  have hlt : |n| < 2 ^ 53 := abs_lt.mpr ⟨by omega, by omega⟩
  calc |(n : ℚ)| < 2 ^ 53 := by exact_mod_cast hlt
    _ < 2 ^ 1024 := pow_lt_pow_right₀ one_lt_two (by omega)

/-- A double below `2 ^ 53` is read from one integer only. -/
theorem eq_of_toDouble_small (hx : x.natAbs < 2 ^ 53) (h : toDouble n = .finite x) : n = x := by
  rcases lt_or_ge n.natAbs (2 ^ 53) with hn | hn
  · rw [toDouble_small hn] at h
    exact_mod_cast JsNumber.finite.inj h
  · -- from there on the doubles are larger
    have hread := (toDouble_eq_finite.mp h).1
    have hlimit : rounded (1 * 2 ^ 53) = ((1 * 2 ^ 53 : ℤ) : ℚ) := rounded_eq_self (by decide)
    rcases le_total 0 n with hpos | hneg
    · have hle : (1 * 2 ^ 53 : ℤ) ≤ n := by omega
      have := rounded_mono hle
      rw [hread, hlimit, Int.cast_le] at this
      omega
    · have hle : (1 * 2 ^ 53 : ℤ) ≤ -n := by omega
      have := rounded_mono hle
      rw [rounded_neg, hread, hlimit, ← Int.cast_neg, Int.cast_le] at this
      omega

theorem abs_rounded_le {j : ℕ} (h : z.natAbs ≤ 2 ^ j) : |rounded z| ≤ 2 ^ j := by
  have hpow : rounded (1 * 2 ^ j) = ((1 * 2 ^ j : ℤ) : ℚ) := rounded_eq_self (by decide)
  have hcast : ((1 * 2 ^ j : ℤ) : ℚ) = 2 ^ j := by push_cast; rw [one_mul]
  have hle : |z| ≤ 1 * 2 ^ j := by
    rw [one_mul, Int.abs_eq_natAbs]
    exact_mod_cast h
  obtain ⟨hlow, hhigh⟩ := abs_le.mp hle
  have hlow := rounded_mono hlow
  have hhigh := rounded_mono hhigh
  rw [rounded_neg, hpow, hcast] at hlow
  rw [hpow, hcast] at hhigh
  exact abs_le.mpr ⟨hlow, hhigh⟩

/-- **The double nearest to an integer is an integer**, as long as it is finite. -/
theorem toDouble_int {j : ℕ} (hj : j < 1024) (h : z.natAbs ≤ 2 ^ j) :
    ∃ k : ℤ, toDouble z = .finite k := by
  rcases lt_or_ge z.natAbs (2 ^ 53) with hsmall | hlarge
  · exact ⟨z, toDouble_small hsmall⟩
  obtain ⟨i, -, hulp⟩ := ulp_eq_pow hlarge
  have hvalue : rounded z = (roundHalfEven ((z : ℚ) / ulp z) * 2 ^ i : ℤ) := by
    rw [rounded, hulp]
    push_cast
    rfl
  refine ⟨roundHalfEven ((z : ℚ) / ulp z) * 2 ^ i, toDouble_eq_finite.mpr ⟨hvalue, ?_⟩⟩
  rw [← hvalue]
  exact (abs_rounded_le h).trans_lt (pow_lt_pow_right₀ one_lt_two hj)

/-- Twice as much reads as something else. -/
theorem toDouble_ne_of_double (hm : m ≠ 0) (h : 2 * x.natAbs ≤ m.natAbs) :
    toDouble m ≠ .finite x := by
  intro hread
  have hpow := pow_le_abs_rounded hm
  rw [(toDouble_eq_finite.mp hread).1, ← Int.cast_abs, Int.abs_eq_natAbs, Int.cast_natCast] at hpow
  have hle : 2 ^ Nat.log2 m.natAbs ≤ x.natAbs := by exact_mod_cast hpow
  have hlt : m.natAbs < 2 ^ (Nat.log2 m.natAbs + 1) := Nat.lt_log2_self
  rw [pow_succ] at hlt
  omega

end Reading

end SocketServer.Js

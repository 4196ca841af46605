import SocketServer.Library.Double

/-!
# The shortest decimal of an integral double

How a double that is an integer is printed: the integer that reads as this double and ends in the
most zeros, of several the one nearest to it.

* `IsShortest` says this of the printed integer, and `IsShortest.unique` that it says it of one;
* `shortest` finds it by trying the powers of ten from above, `isShortest_shortest`;
* a double below `2 ^ 53` is printed digit by digit, `isShortest_self`.
-/

namespace SocketServer.Js

variable {n m x : ℤ}

/-! ### The printed decimal -/

/-- What is printed for `x` when it ends in `e` zeros: it reads as `x`, nothing that reads as `x`
ends in more zeros, and it is the nearest to `x` that ends in so many, an even one of two that are
equally near. -/
structure ShortestAt (x : ℤ) (e : ℕ) (n : ℤ) : Prop where
  reads : toDouble n = .finite x
  zeros : 10 ^ e ∣ n
  most : ∀ m : ℤ, m ≠ 0 → 10 ^ (e + 1) ∣ m → toDouble m ≠ .finite x
  nearest : ∀ m : ℤ, 10 ^ e ∣ m → toDouble m = .finite x → (n - x).natAbs ≤ (m - x).natAbs
  even : ∀ m : ℤ, 10 ^ e ∣ m → toDouble m = .finite x → (n - x).natAbs = (m - x).natAbs →
    m = n ∨ 2 * 10 ^ e ∣ n

/-- The decimal that is printed for an integral double. -/
def IsShortest (x n : ℤ) : Prop := ∃ e, ShortestAt x e n

theorem IsShortest.reads (h : IsShortest x n) : toDouble n = .finite x :=
  h.choose_spec.reads

/-- Nothing else ends in more zeros, unless both are zero. -/
theorem ShortestAt.not_lt {e f : ℕ} (hn : ShortestAt x e n) (hm : ShortestAt x f m) (hne : n ≠ m) :
    ¬ e < f := by
  intro hlt
  have hzero : m = 0 := by
    by_contra hm0
    exact hn.most m hm0 ((pow_dvd_pow 10 hlt).trans hm.zeros) hm.reads
  have hx : x = 0 := by
    have h := (toDouble_eq_finite.mp hm.reads).1
    rw [hzero, rounded_zero] at h
    exact_mod_cast h.symm
  have hn0 : n = x := eq_of_toDouble_small (by rw [hx]; decide) hn.reads
  exact hne (by rw [hn0, hx, hzero])

/-- **One decimal is printed.** -/
theorem IsShortest.unique (hn : IsShortest x n) (hm : IsShortest x m) : n = m := by
  obtain ⟨e, hn⟩ := hn
  obtain ⟨f, hm⟩ := hm
  by_contra hne
  obtain rfl : e = f :=
    le_antisymm (not_lt.mp (hm.not_lt hn (Ne.symm hne))) (not_lt.mp (hn.not_lt hm hne))
  have hdist : (n - x).natAbs = (m - x).natAbs :=
    le_antisymm (hn.nearest m hm.zeros hm.reads) (hm.nearest n hn.zeros hn.reads)
  have hevenN := (hn.even m hm.zeros hm.reads hdist).resolve_left (Ne.symm hne)
  have hevenM := (hm.even n hn.zeros hn.reads hdist.symm).resolve_left hne
  -- two even ones around `x` have an odd one between them, which is `x`
  have hsum : n + m = 2 * x := by omega
  have hdvd : (2 * 10 ^ e : ℤ) ∣ 2 * x := hsum ▸ dvd_add hevenN hevenM
  have hx : (10 : ℤ) ^ e ∣ x := (mul_dvd_mul_iff_left two_ne_zero).mp hdvd
  have := hn.nearest x hx (toDouble_toDouble hn.reads)
  omega

/-- The multiple of `unit` that reads as `x` and is nearest to it; there are two to try. -/
def near (x unit : ℤ) : Option ℤ :=
  let down := x / unit * unit
  let up := down + unit
  if toDouble down = .finite x then
    if toDouble up = .finite x then
      if x - down < up - x then some down
      else if up - x < x - down then some up
      else if 2 * unit ∣ down then some down else some up
    else some down
  else if toDouble up = .finite x then some up else none

/-- The first of the powers of ten `10 ^ e`, …, `10` that has a multiple to print, else `x`. -/
def shortestFrom (x : ℤ) : ℕ → ℤ
  | 0 => x
  | e + 1 => (near x (10 ^ (e + 1))).getD (shortestFrom x e)

/-- The decimal that is printed for an integral double, which has at most `log2 x + 1` digits. -/
def shortest (x : ℤ) : ℤ := shortestFrom x (Nat.log2 x.natAbs + 1)

example : shortest (2 ^ 60) = 1152921504606847000 ∧ shortest (-2 ^ 63) = -9223372036854776000 ∧
    shortest 9007199254740992 = 9007199254740992 ∧ shortest (10 ^ 22) = 10 ^ 22 := by decide +kernel

/-- A multiple is one of the two to try, or beyond them. -/
theorem multiple_cases {unit : ℤ} (hunit : 0 < unit) (hm : unit ∣ m) :
    m ≤ x / unit * unit ∨ x / unit * unit + unit ≤ m := by
  obtain ⟨k, rfl⟩ := hm
  rcases le_or_gt k (x / unit) with hle | hlt
  · exact Or.inl (by nlinarith)
  · exact Or.inr (by nlinarith)

/-- What lies at or below the multiple before `x`, or at or above the one after it, reads as `x`
only if that multiple does. -/
theorem near_cases {unit : ℤ} (hunit : 0 < unit) (hx : toDouble x = .finite x) (hm : unit ∣ m)
    (hread : toDouble m = .finite x) :
    (m ≤ x / unit * unit ∧ toDouble (x / unit * unit : ℤ) = .finite x) ∨
      (x / unit * unit + unit ≤ m ∧ toDouble (x / unit * unit + unit : ℤ) = .finite x) := by
  obtain hle | hge := multiple_cases (x := x) hunit hm
  · exact Or.inl ⟨hle, toDouble_between hle (Int.ediv_mul_le x hunit.ne') hread hx⟩
  · exact Or.inr ⟨hge, toDouble_between (Int.lt_ediv_add_one_mul_self x hunit |>.le.trans_eq
      (by ring)) hge hx hread⟩

theorem near_eq_none {unit : ℤ} (hunit : 0 < unit) (hx : toDouble x = .finite x)
    (h : near x unit = none) (hm : unit ∣ m) : toDouble m ≠ .finite x := by
  intro hread
  unfold near at h
  dsimp only at h
  obtain ⟨-, hdown⟩ | ⟨-, hup⟩ := near_cases hunit hx hm hread
  · rw [if_pos hdown] at h
    split_ifs at h
  · rw [if_pos hup] at h
    split_ifs at h

/-- What is found is a nearest multiple that reads as `x`. -/
theorem near_eq_some {unit : ℤ} (hunit : 0 < unit) (hx : toDouble x = .finite x)
    (h : near x unit = some n) :
    toDouble n = .finite x ∧ unit ∣ n ∧ ∀ m : ℤ, unit ∣ m → toDouble m = .finite x →
      (n - x).natAbs ≤ (m - x).natAbs ∧
        ((n - x).natAbs = (m - x).natAbs → m = n ∨ 2 * unit ∣ n) := by
  have hbelow : x / unit * unit ≤ x := Int.ediv_mul_le x hunit.ne'
  have habove : x < x / unit * unit + unit :=
    (Int.lt_ediv_add_one_mul_self x hunit).trans_eq (by ring)
  have hdvd : unit ∣ x / unit * unit := dvd_mul_left unit _
  have hdvdUp : unit ∣ x / unit * unit + unit := dvd_add hdvd (dvd_refl unit)
  have hcases (m : ℤ) := near_cases (m := m) hunit hx
  unfold near at h
  dsimp only at h
  have hparity : 2 * unit ∣ x / unit * unit ∨ 2 * unit ∣ x / unit * unit + unit := by
    rw [← add_one_mul, mul_dvd_mul_iff_right hunit.ne', mul_dvd_mul_iff_right hunit.ne']
    omega
  generalize x / unit * unit = down at *
  split_ifs at h with hdown hup hnear hnear' heven hup
  · cases h
    refine ⟨hdown, hdvd, fun m hm hread => ?_⟩
    obtain ⟨hle, -⟩ | ⟨hge, -⟩ := hcases m hm hread <;> omega
  · cases h
    refine ⟨hup, hdvdUp, fun m hm hread => ?_⟩
    obtain ⟨hle, -⟩ | ⟨hge, -⟩ := hcases m hm hread <;> omega
  · cases h
    refine ⟨hdown, hdvd, fun m hm hread => ⟨?_, fun _ => Or.inr heven⟩⟩
    obtain ⟨hle, -⟩ | ⟨hge, -⟩ := hcases m hm hread <;> omega
  · cases h
    refine ⟨hup, hdvdUp, fun m hm hread => ⟨?_, fun _ => Or.inr (hparity.resolve_left heven)⟩⟩
    obtain ⟨hle, -⟩ | ⟨hge, -⟩ := hcases m hm hread <;> omega
  · cases h
    refine ⟨hdown, hdvd, fun m hm hread => ?_⟩
    obtain ⟨hle, -⟩ | ⟨-, hother⟩ := hcases m hm hread
    · omega
    · exact absurd hother hup
  · cases h
    refine ⟨hup, hdvdUp, fun m hm hread => ?_⟩
    obtain ⟨-, hother⟩ | ⟨hge, -⟩ := hcases m hm hread
    · exact absurd hother hdown
    · omega

/-- One power of ten after the other, from above: by induction on the number of zeros. -/
theorem isShortest_shortestFrom (hx : toDouble x = .finite x) (e : ℕ)
    (h : ∀ m : ℤ, m ≠ 0 → 10 ^ (e + 1) ∣ m → toDouble m ≠ .finite x) :
    IsShortest x (shortestFrom x e) := by
  induction e with
  | zero =>
      refine ⟨0, hx, one_dvd x, h, fun m _ _ => ?_, fun m _ _ hdist => Or.inl ?_⟩
      · show (x - x).natAbs ≤ (m - x).natAbs
        omega
      · rw [shortestFrom] at hdist ⊢
        omega
  | succ e ih =>
      have hunit : (0 : ℤ) < 10 ^ (e + 1) := by positivity
      rw [shortestFrom]
      cases hnear : near x (10 ^ (e + 1)) with
      | none => exact ih fun m _ hm => near_eq_none hunit hx hnear hm
      | some n =>
          obtain ⟨hreads, hzeros, hbest⟩ := near_eq_some hunit hx hnear
          exact ⟨e + 1, hreads, hzeros, h, fun m hm hread => (hbest m hm hread).1,
            fun m hm hread => (hbest m hm hread).2⟩

/-- **`shortest` is the decimal that is printed.** -/
theorem isShortest_shortest (hx : toDouble x = .finite x) : IsShortest x (shortest x) := by
  refine isShortest_shortestFrom hx _ fun m hm hdvd => toDouble_ne_of_double hm ?_
  have hlt : x.natAbs < 2 ^ (Nat.log2 x.natAbs + 1) := Nat.lt_log2_self
  have hpow : 2 ^ (Nat.log2 x.natAbs + 1) ≤ 10 ^ (Nat.log2 x.natAbs + 1) :=
    Nat.pow_le_pow_left (by omega) _
  have hle : 10 ^ (Nat.log2 x.natAbs + 1 + 1) ≤ m.natAbs := by
    apply Nat.le_of_dvd (by omega)
    have hnat := Int.natAbs_dvd_natAbs.mpr hdvd
    rwa [Int.natAbs_pow] at hnat
  rw [pow_succ] at hle
  omega

/-- Below `2 ^ 53` the digits of the double are printed. -/
theorem isShortest_self (h : x.natAbs < 2 ^ 53) : IsShortest x x := by
  have hprinted := isShortest_shortest (toDouble_small h)
  rwa [eq_of_toDouble_small h hprinted.reads] at hprinted

end SocketServer.Js

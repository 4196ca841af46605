import SocketServer.Library.Double
import SocketServer.Library.Text
import Mathlib.Data.List.TakeWhile

/-!
# Printed numbers

A natural number is printed by its decimal digits.  `number_toDigits` reads it back with
`Number(s)`: the result is the double nearest to it, which is the number itself up to `2 ^ 53`
(`toDouble_nat`).
-/

namespace SocketServer.Js

open SocketServer.Text

/-! ### Small integers are doubles -/

/-- Every natural number up to `2 ^ 53` is a double. -/
theorem toDouble_nat {n : ℕ} (h : n ≤ 2 ^ 53) : toDouble (n : ℚ) = .finite n := by
  rw [← Int.cast_natCast]
  obtain rfl | hlt := h.eq_or_lt
  · decide +kernel
  · exact toDouble_small hlt

/-! ### Digits -/

theorem digitValue_digit {c : Char} (hc : c.isDigit = true) :
    utf16Char c = [unit c] ∧ digitValue 10 (unit c) = some (c.toNat - 48) ∧
      isSpace (unit c) = false := by
  have hall : ∀ n < 58, (Char.ofNat n).isDigit = true →
      utf16Char (Char.ofNat n) = [unit (Char.ofNat n)] ∧
        digitValue 10 (unit (Char.ofNat n)) = some ((Char.ofNat n).toNat - 48) ∧
        isSpace (unit (Char.ofNat n)) = false := by decide +kernel
  have hlt : c.toNat < 58 := Nat.lt_succ_of_le (Char.isDigit_iff_toNat.mp hc).2
  have hspec := hall c.toNat hlt
  rw [Char.ofNat_toNat] at hspec
  exact hspec hc

theorem utf16_digits {cs : List Char} (h : ∀ c ∈ cs, c.isDigit = true) :
    utf16 cs = cs.map unit := by
  induction cs with
  | nil => rfl
  | cons c cs ih =>
      rw [utf16_cons, (digitValue_digit (h c List.mem_cons_self)).1,
        ih fun d hd => h d (List.mem_cons_of_mem c hd)]
      rfl

/-- The value of digits, after those of `acc`. -/
theorem foldl_digits {cs : List Char} (h : ∀ c ∈ cs, c.isDigit = true) (acc : ℕ) :
    (cs.map unit).foldl (fun acc u => acc.bind fun n => (digitValue 10 u).map fun d => n * 10 + d)
      (some acc) = some (Nat.ofDigitChars 10 cs acc) := by
  induction cs generalizing acc with
  | nil =>
      rw [Nat.ofDigitChars_nil]
      rfl
  | cons c cs ih =>
      rw [List.map_cons, List.foldl_cons, (digitValue_digit (h c List.mem_cons_self)).2.1,
        Nat.ofDigitChars_cons, Nat.mul_comm]
      exact ih (fun d hd => h d (List.mem_cons_of_mem c hd)) _

theorem digitsValue_digits {cs : List Char} (hne : cs ≠ []) (h : ∀ c ∈ cs, c.isDigit = true) :
    digitsValue 10 (utf16 cs) = some (Nat.ofDigitChars 10 cs 0) := by
  rw [utf16_digits h, digitsValue, if_neg (by simpa using hne), foldl_digits h]

/-! ### Reading digits -/

section Read

variable {s : JsString} {n : ℕ}

/-- A digit is neither white space nor one of the letters and signs that `Number(s)` looks for. -/
theorem digit_spec {u : UInt16} (h : isDecimalDigit u = true) :
    isSpace u = false ∧ ∀ c : Char, c ∈ ['-', '+', 'I', 'x', 'X', 'o', 'O', 'b', 'B'] →
      u ≠ unit c := by
  have hrange : 48 ≤ u.toNat ∧ u.toNat ≤ 57 := by
    by_contra hout
    have hlarge : ¬(if 65 ≤ u.toNat ∧ u.toNat ≤ 70 then u.toNat - 55
        else if 97 ≤ u.toNat ∧ u.toNat ≤ 102 then u.toNat - 87 else 10) < 10 := by
      split
      · omega
      · split <;> omega
    simp only [isDecimalDigit, digitValue, if_neg hout, if_neg hlarge] at h
    cases h
  constructor
  · simp only [isSpace, Bool.or_eq_false_iff, Bool.and_eq_false_iff, decide_eq_false_iff_not]
    omega
  · intro c hc heq
    have hall : ∀ c ∈ ['-', '+', 'I', 'x', 'X', 'o', 'O', 'b', 'B'],
        ¬(48 ≤ (unit c).toNat ∧ (unit c).toNat ≤ 57) :=
      fun c hc => of_decide_eq_true (List.all_eq_true.mp
        (show (['-', '+', 'I', 'x', 'X', 'o', 'O', 'b', 'B'].all fun c =>
          decide ¬(48 ≤ (unit c).toNat ∧ (unit c).toNat ≤ 57)) = true from by decide) c hc)
    rw [heq] at hrange
    exact hall c hc hrange

theorem signedDecimal_digits (hne : s ≠ []) (h : ∀ u ∈ s, isDecimalDigit u = true)
    (hv : digitsValue 10 s = some n) : signedDecimal s = toDouble n := by
  obtain ⟨u, rest, rfl⟩ := List.exists_cons_of_ne_nil hne
  obtain ⟨-, hletters⟩ := digit_spec (h u List.mem_cons_self)
  have hsigned : signed (u :: rest) = (false, u :: rest) := by
    rw [signed, if_neg (hletters '-' (by decide)), if_neg (hletters '+' (by decide))]
  have hinfinity : u :: rest ≠ js "Infinity" := by
    intro heq
    have hhead : js "Infinity" = unit 'I' :: js "nfinity" := by decide
    rw [hhead] at heq
    exact hletters 'I' (by decide) (List.cons.inj heq).1
  have hdecimal : decimal (u :: rest) = some (n : ℚ) := by
    have htake : (u :: rest).takeWhile isDecimalDigit = u :: rest := List.takeWhile_eq_self_iff.mpr h
    have hdrop : (u :: rest).dropWhile isDecimalDigit = [] := List.dropWhile_eq_nil_iff.mpr h
    simp only [decimal, htake, hdrop, fraction, List.append_nil, hv, Option.bind_some, exponent,
      Option.map_some, List.length_nil]
    norm_num
  rw [signedDecimal, hsigned, if_neg hinfinity, hdecimal]
  rfl

/-- **Reading digits.**  `Number(s)` of decimal digits is the double nearest to their value. -/
theorem number_digits (hne : s ≠ []) (h : ∀ u ∈ s, isDecimalDigit u = true)
    (hv : digitsValue 10 s = some n) : number s = toDouble n := by
  have htrim : trim s = s := by
    have hkeep : ∀ t : JsString, (∀ u ∈ t, isDecimalDigit u = true) → t.dropWhile isSpace = t := by
      intro t ht
      cases t with
      | nil => rfl
      | cons u rest =>
          rw [List.dropWhile_cons_of_neg]
          rw [(digit_spec (ht u List.mem_cons_self)).1]
          exact Bool.false_ne_true
    rw [trim, hkeep s h, hkeep s.reverse fun u hu => h u (List.mem_reverse.mp hu),
      List.reverse_reverse]
  rw [number, htrim]
  obtain ⟨u, tail, rfl⟩ := List.exists_cons_of_ne_nil hne
  cases tail with
  | nil => exact signedDecimal_digits hne h hv
  | cons v rest =>
      have hv' := (digit_spec (h v (List.mem_cons_of_mem u List.mem_cons_self))).2
      have hbase : ∀ a b : Char, a ∈ ['-', '+', 'I', 'x', 'X', 'o', 'O', 'b', 'B'] →
          b ∈ ['-', '+', 'I', 'x', 'X', 'o', 'O', 'b', 'B'] →
          ¬(u = unit '0' ∧ (v = unit a ∨ v = unit b)) := by
        rintro a b ha hb ⟨-, hx | hx⟩
        · exact hv' a ha hx
        · exact hv' b hb hx
      dsimp only
      rw [if_neg (hbase 'x' 'X' (by decide) (by decide)),
        if_neg (hbase 'o' 'O' (by decide) (by decide)),
        if_neg (hbase 'b' 'B' (by decide) (by decide))]
      exact signedDecimal_digits hne h hv

end Read

/-- **A printed number is read back.** -/
theorem number_toDigits (n : ℕ) : number (utf16 (Nat.toDigits 10 n)) = toDouble n := by
  have hdigit : ∀ c ∈ Nat.toDigits 10 n, c.isDigit = true := fun c hc =>
    Nat.isDigit_of_mem_toDigits (by decide) (by decide) hc
  have hne : Nat.toDigits 10 n ≠ [] := Nat.toDigits_ne_nil
  refine number_digits ?_ ?_ ?_
  · rw [utf16_digits hdigit]
    exact fun hnil => hne (List.map_eq_nil_iff.mp hnil)
  · rw [utf16_digits hdigit]
    intro u hu
    obtain ⟨c, hc, rfl⟩ := List.mem_map.mp hu
    rw [isDecimalDigit, (digitValue_digit (hdigit c hc)).2.1]
    rfl
  · rw [digitsValue_digits hne hdigit, Nat.ofDigitChars_ten_toDigits]

end SocketServer.Js

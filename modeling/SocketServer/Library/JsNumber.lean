import SocketServer.Library.Text
import Mathlib.Data.List.DropRight
import Mathlib.Data.Rat.Floor
import Mathlib.Tactic.NormNum

/-!
# JavaScript strings and numbers: trimming, splitting, `Number(s)`

* `isSpace` is the white space of ECMAScript (`WhiteSpace` and `LineTerminator`), the set behind
  `trim`, `\s` and the conversion of strings to numbers;
* `JsNumber` is a double without the sign of its zero: not a number, an infinity, or a rational;
  `toDouble` rounds an exact value to it, halves to even;
* `number` is `Number(s)`: decimal literals with their exponents, the radix prefixes, `Infinity`,
  and zero for the empty string;
* `isInteger` and `isSafeInteger` are the methods of `Number`.
-/

namespace SocketServer.Js

open SocketServer.Text

/-- A code unit written as a character. -/
def unit (c : Char) : UInt16 := UInt16.ofNat c.toNat

/-- A scalar value below the surrogates is a code unit of no other character. -/
theorem mem_of_unit_mem_utf16 {cs : List Char} {c : Char} (hc : c.toNat < 0xD800)
    (h : unit c ∈ utf16 cs) : c ∈ cs := by
  obtain ⟨d, hd, hunit⟩ := List.mem_flatMap.mp h
  have hnat : (unit c).toNat = c.toNat := toNat_ofNat16 (by omega)
  have hrange := toNat_lt d
  unfold utf16Char at hunit
  split at hunit
  · rename_i hsmall
    have heq : unit c = UInt16.ofNat d.toNat := List.mem_singleton.mp hunit
    rw [heq, toNat_ofNat16 hsmall] at hnat
    rw [← Char.toNat_inj.mp hnat]
    exact hd
  · -- both halves of a pair are surrogates
    simp only [List.mem_cons, List.not_mem_nil, or_false] at hunit
    rcases hunit with heq | heq
    · rw [heq, toNat_ofNat16 (by omega)] at hnat
      omega
    · rw [heq, toNat_ofNat16 (by omega)] at hnat
      omega

/-! ### White space -/

def isSpace (u : UInt16) : Bool :=
  let n := u.toNat
  (9 ≤ n && n ≤ 13) || n = 0x20 || n = 0xA0 || n = 0x1680 || (0x2000 ≤ n && n ≤ 0x200A) ||
    n = 0x2028 || n = 0x2029 || n = 0x202F || n = 0x205F || n = 0x3000 || n = 0xFEFF

/-- `s.trim()`. -/
def trim (s : JsString) : JsString := ((s.dropWhile isSpace).reverse.dropWhile isSpace).reverse

/-- `s.split(c)` for a separator of one code unit. -/
def split (c : Char) (s : JsString) : List JsString := s.splitOn (unit c)

/-- What is trimmed stays. -/
theorem mem_of_mem_trim {s : JsString} {u : UInt16} (h : u ∈ trim s) : u ∈ s := by
  rw [trim, List.mem_reverse] at h
  have hinner := (List.dropWhile_sublist isSpace).subset h
  exact (List.dropWhile_sublist isSpace).subset (List.mem_reverse.mp hinner)

/-- A trimmed text has no white space at its ends. -/
theorem trim_trim (s : JsString) : trim (trim s) = trim s := by
  have hdrop : s.dropWhile isSpace = (s.dropWhile isSpace).dropWhile isSpace :=
    (List.dropWhile_idempotent isSpace s).symm
  have hstart : trim s <+: s.dropWhile isSpace := List.rdropWhile_prefix isSpace _
  have hkeep : (trim s).dropWhile isSpace = trim s := by
    rw [List.dropWhile_eq_self_iff]
    intro hpos hspace
    have hfirst := hstart.getElem hpos
    exact List.dropWhile_eq_self_iff.mp hdrop.symm (hpos.trans_le hstart.length_le)
      (hfirst ▸ hspace)
  show ((trim s).dropWhile isSpace).rdropWhile isSpace = trim s
  rw [hkeep]
  exact List.rdropWhile_idempotent isSpace _

/-- No piece holds the separator. -/
theorem separator_not_mem {c : Char} {s piece : JsString} (h : piece ∈ split c s) :
    unit c ∉ piece := by
  induction s generalizing piece with
  | nil =>
      rw [split, List.splitOn_nil, List.mem_singleton] at h
      rw [h]
      exact List.not_mem_nil
  | cons u s ih =>
      rw [split, List.splitOn_cons_eq_if_modifyHead] at h
      split at h
      · obtain rfl | hlater := List.mem_cons.mp h
        · exact List.not_mem_nil
        · exact ih hlater
      · rename_i hne
        cases hpieces : s.splitOn (unit c) with
        | nil => exact absurd hpieces (List.splitOn_ne_nil _ s)
        | cons first rest =>
            rw [hpieces, List.modifyHead_cons] at h
            have hmem : ∀ p ∈ first :: rest, unit c ∉ p := by
              intro p hp
              refine ih ?_
              rw [split, hpieces]
              exact hp
            obtain rfl | hlater := List.mem_cons.mp h
            · intro hc
              obtain heq | hfirst := List.mem_cons.mp hc
              · exact hne (beq_iff_eq.mpr heq.symm)
              · exact hmem first List.mem_cons_self hfirst
            · exact hmem piece (List.mem_cons_of_mem first hlater)

/-! ### Numbers -/

inductive JsNumber where
  | nan
  | infinite (negative : Bool)
  | finite (value : ℚ)
  deriving DecidableEq

/-- The integer nearest to a rational, an even one at a half. -/
def roundHalfEven (q : ℚ) : ℤ :=
  let rest := q - q.floor
  if rest < 1 / 2 then q.floor
  else if 1 / 2 < rest then q.floor + 1
  else if q.floor % 2 = 0 then q.floor else q.floor + 1

/-- `2 ^ e` for an exponent of either sign. -/
def pow2 (e : ℤ) : ℚ := if 0 ≤ e then 2 ^ e.toNat else 1 / 2 ^ (-e).toNat

/-- The largest `e` with `2 ^ e ≤ |q|`. -/
def binaryExponent (q : ℚ) : ℤ :=
  let e : ℤ := (Nat.log2 q.num.natAbs : ℤ) - (Nat.log2 q.den : ℤ)
  if pow2 e ≤ |q| then e else e - 1

/-- The double nearest to an exact value. -/
def toDouble (q : ℚ) : JsNumber :=
  if q = 0 then .finite 0
  else
    let ulp := pow2 (max (binaryExponent q) (-1022) - 52)
    let rounded : ℚ := roundHalfEven (q / ulp) * ulp
    if pow2 1024 ≤ |rounded| then .infinite (decide (q < 0)) else .finite rounded

/-- `Number.isInteger(x)`. -/
def JsNumber.isInteger : JsNumber → Bool
  | .finite q => q.den = 1
  | _ => false

/-- `Number.isSafeInteger(x)`. -/
def JsNumber.isSafeInteger : JsNumber → Bool
  | .finite q => q.den = 1 && q.num.natAbs ≤ 2 ^ 53 - 1
  | _ => false

/-- A positive integer is a natural number. -/
theorem eq_natCast_of_isInteger {q : ℚ} (h : (JsNumber.finite q).isInteger = true) (hpos : 0 < q) :
    q = (q.num.toNat : ℚ) ∧ 0 < q.num.toNat := by
  have hnum : 0 < q.num := Rat.num_pos.mpr hpos
  have hcast : (q.num.toNat : ℤ) = q.num := Int.toNat_of_nonneg hnum.le
  have hwhole : (q.num : ℚ) = q := Rat.coe_int_num_of_den_eq_one (of_decide_eq_true h)
  refine ⟨?_, by omega⟩
  rw [← Int.cast_natCast, hcast, hwhole]

theorem isInteger_natCast (n : ℕ) : (JsNumber.finite (n : ℚ)).isInteger = true := by
  rw [JsNumber.isInteger, Rat.den_natCast]
  rfl

theorem isSafeInteger_iff {q : ℚ} : (JsNumber.finite q).isSafeInteger = true ↔
    (JsNumber.finite q).isInteger = true ∧ q.num.natAbs < 2 ^ 53 := by
  rw [JsNumber.isSafeInteger, JsNumber.isInteger, Bool.and_eq_true, decide_eq_true_eq,
    decide_eq_true_eq]
  omega

/-- **The safe integers above zero** are the natural numbers from 1 to `2 ^ 53 - 1`. -/
theorem isSafeInteger_natCast {n : ℕ} :
    (JsNumber.finite (n : ℚ)).isSafeInteger = true ↔ n < 2 ^ 53 := by
  rw [isSafeInteger_iff, and_iff_right (isInteger_natCast n), Rat.num_natCast, Int.natAbs_natCast]

/-! ### `Number(s)` -/

/-- The value of a digit in a radix up to 16. -/
def digitValue (radix : ℕ) (u : UInt16) : Option ℕ :=
  let n := u.toNat
  let d := if 48 ≤ n ∧ n ≤ 57 then n - 48
    else if 65 ≤ n ∧ n ≤ 70 then n - 55
    else if 97 ≤ n ∧ n ≤ 102 then n - 87
    else radix
  if d < radix then some d else none

/-- The value of a list of digits; `none` when one of them is no digit or there is none. -/
def digitsValue (radix : ℕ) (s : JsString) : Option ℕ :=
  if s = [] then none
  else s.foldl (fun acc u => acc.bind fun n => (digitValue radix u).map fun d => n * radix + d)
    (some 0)

def isDecimalDigit (u : UInt16) : Bool := (digitValue 10 u).isSome

/-- An optional sign: whether it is a minus, and the rest. -/
def signed : JsString → Bool × JsString
  | u :: rest => if u = unit '-' then (true, rest) else if u = unit '+' then (false, rest)
      else (false, u :: rest)
  | [] => (false, [])

/-- `ExponentPart`, or nothing. -/
def exponent : JsString → Option ℤ
  | [] => some 0
  | u :: rest =>
      if u = unit 'e' ∨ u = unit 'E' then
        (digitsValue 10 (signed rest).2).map fun n => if (signed rest).1 then -n else n
      else none

/-- The fraction after the integer digits: its digits and the rest. -/
def fraction : JsString → JsString × JsString
  | u :: rest => if u = unit '.' then (rest.takeWhile isDecimalDigit, rest.dropWhile isDecimalDigit)
      else ([], u :: rest)
  | [] => ([], [])

/-- `StrUnsignedDecimalLiteral` other than `Infinity`, as an exact value. -/
def decimal (s : JsString) : Option ℚ :=
  let whole := s.takeWhile isDecimalDigit
  let frac := fraction (s.dropWhile isDecimalDigit)
  (digitsValue 10 (whole ++ frac.1)).bind fun n => (exponent frac.2).map fun e =>
    (n : ℚ) / 10 ^ frac.1.length * (if 0 ≤ e then 10 ^ e.toNat else 1 / 10 ^ (-e).toNat)

/-- `StrDecimalLiteral`. -/
def signedDecimal (s : JsString) : JsNumber :=
  if (signed s).2 = js "Infinity" then .infinite (signed s).1
  else match decimal (signed s).2 with
    | none => .nan
    | some q => toDouble (if (signed s).1 then -q else q)

/-- `Number(s)` of a string. -/
def number (s : JsString) : JsNumber :=
  match trim s with
  | [] => .finite 0
  | [u] => signedDecimal [u]
  | u :: v :: rest =>
      let radix (r : ℕ) : JsNumber :=
        match digitsValue r rest with
        | none => .nan
        | some n => toDouble n
      if u = unit '0' ∧ (v = unit 'x' ∨ v = unit 'X') then radix 16
      else if u = unit '0' ∧ (v = unit 'o' ∨ v = unit 'O') then radix 8
      else if u = unit '0' ∧ (v = unit 'b' ∨ v = unit 'B') then radix 2
      else signedDecimal (u :: v :: rest)

example : number (js " 0x1F\n") = .finite 31 ∧ number (js "-2.5e1") = .finite (-25) ∧
    number (js "1_000") = .nan := by decide +kernel

end SocketServer.Js

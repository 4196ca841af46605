import Mathlib.Data.List.Basic
import Mathlib.Data.Char

/-!
# JavaScript strings and UTF-8

A JavaScript string is a list of UTF-16 code units, surrogates possibly unpaired; a Go string and
a Node `Buffer` are lists of bytes.  Between the two stand lists of Unicode scalar values
(`Char`).

* `utf16` writes scalar values as code units, `toUSV` reads code units back, an unpaired surrogate
  becoming U+FFFD (the WebIDL `USVString` conversion that every UTF-8 encoder of Node makes
  first); `toUSV_utf16` says that well-formed text survives;
* `utf8` is UTF-8 (core's `String.utf8EncodeChar`, scalar by scalar), and `byteLength` is
  `Buffer.byteLength`;
* `decodeUtf8` is the decoder of the WHATWG Encoding Standard, a machine fed one byte at a time
  that answers ill-formed input with U+FFFD; `decodeUtf8_utf8` says that it undoes `utf8`;
* `latin1` reads bytes as a server reads a header; `eq_latin1_of_toBytes` says that the UTF-8 bytes of
  the result tell it from every other string.
-/

namespace SocketServer.Text

abbrev Bytes := List UInt8

abbrev JsString := List UInt16

/-! ### UTF-16 -/

/-- The code units of a scalar value. -/
def utf16Char (c : Char) : JsString :=
  if c.toNat < 0x10000 then [UInt16.ofNat c.toNat]
  else [UInt16.ofNat (0xD800 + (c.toNat - 0x10000) / 0x400),
    UInt16.ofNat (0xDC00 + (c.toNat - 0x10000) % 0x400)]

/-- The JavaScript string of a list of scalar values. -/
def utf16 (cs : List Char) : JsString := cs.flatMap utf16Char

/-- A JavaScript string literal. -/
def js (s : String) : JsString := utf16 s.toList

def isHighSurrogate (u : UInt16) : Bool := 0xD800 ≤ u.toNat && u.toNat < 0xDC00

def isLowSurrogate (u : UInt16) : Bool := 0xDC00 ≤ u.toNat && u.toNat < 0xE000

/-- The scalar value of a surrogate pair. -/
def pairChar (high low : UInt16) : Char :=
  Char.ofNat (0x10000 + (high.toNat - 0xD800) * 0x400 + (low.toNat - 0xDC00))

/-- The scalar value of a code unit on its own, U+FFFD for a surrogate. -/
def unitChar (u : UInt16) : Char :=
  if isHighSurrogate u || isLowSurrogate u then '\uFFFD' else Char.ofNat u.toNat

/-- The scalar values of a JavaScript string. -/
def toUSV : JsString → List Char
  | [] => []
  | [u] => [unitChar u]
  | u :: v :: rest =>
      if isHighSurrogate u && isLowSurrogate v then pairChar u v :: toUSV rest
      else unitChar u :: toUSV (v :: rest)

@[simp] theorem utf16_nil : utf16 [] = [] := rfl

theorem utf16_cons (c : Char) (cs : List Char) : utf16 (c :: cs) = utf16Char c ++ utf16 cs := rfl

theorem utf16_append (cs ds : List Char) : utf16 (cs ++ ds) = utf16 cs ++ utf16 ds :=
  List.flatMap_append

theorem toNat_ofNat16 {n : ℕ} (h : n < 65536) : (UInt16.ofNat n).toNat = n :=
  UInt16.toNat_ofNat_of_lt' h

theorem toNat_lt (c : Char) : c.toNat < 0xD800 ∨ (0xDFFF < c.toNat ∧ c.toNat < 0x110000) :=
  c.valid

/-- A code unit outside the range of the surrogates. -/
theorem not_surrogate {u : UInt16} (h : u.toNat < 0xD800 ∨ 0xDFFF < u.toNat) :
    isHighSurrogate u = false ∧ isLowSurrogate u = false := by
  simp only [isHighSurrogate, isLowSurrogate, Bool.and_eq_false_iff, decide_eq_false_iff_not]
  omega

/-- A code unit that starts no pair is read on its own. -/
theorem toUSV_cons_of_not_high {u : UInt16} (h : isHighSurrogate u = false) (rest : JsString) :
    toUSV (u :: rest) = unitChar u :: toUSV rest := by
  cases rest with
  | nil => rfl
  | cons v rest => rw [toUSV, h, Bool.false_and, if_neg Bool.false_ne_true]

/-- Reading the code units of a scalar value gives that value back. -/
theorem toUSV_utf16Char (c : Char) (rest : JsString) :
    toUSV (utf16Char c ++ rest) = c :: toUSV rest := by
  have hc := toNat_lt c
  unfold utf16Char
  split
  · rename_i hlow
    have hu : (UInt16.ofNat c.toNat).toNat = c.toNat := toNat_ofNat16 hlow
    obtain ⟨hhigh, hlows⟩ := not_surrogate (u := UInt16.ofNat c.toNat) (by omega)
    rw [List.singleton_append, toUSV_cons_of_not_high hhigh, unitChar, hhigh, hlows,
      Bool.or_false, if_neg Bool.false_ne_true, hu, Char.ofNat_toNat]
  · rename_i hlow
    have hu : (UInt16.ofNat (0xD800 + (c.toNat - 0x10000) / 0x400)).toNat
        = 0xD800 + (c.toNat - 0x10000) / 0x400 := toNat_ofNat16 (by omega)
    have hv : (UInt16.ofNat (0xDC00 + (c.toNat - 0x10000) % 0x400)).toNat
        = 0xDC00 + (c.toNat - 0x10000) % 0x400 := toNat_ofNat16 (by omega)
    have hpair : (isHighSurrogate (UInt16.ofNat (0xD800 + (c.toNat - 0x10000) / 0x400)) &&
        isLowSurrogate (UInt16.ofNat (0xDC00 + (c.toNat - 0x10000) % 0x400))) = true := by
      simp only [isHighSurrogate, isLowSurrogate, hu, hv, Bool.and_eq_true, decide_eq_true_eq]
      omega
    have hval : 0x10000 + (0xD800 + (c.toNat - 0x10000) / 0x400 - 0xD800) * 0x400
        + (0xDC00 + (c.toNat - 0x10000) % 0x400 - 0xDC00) = c.toNat := by omega
    rw [List.cons_append, List.singleton_append, toUSV, if_pos hpair, pairChar, hu, hv, hval,
      Char.ofNat_toNat]

/-- **Well-formed text survives the conversion to scalar values.** -/
theorem toUSV_utf16 (cs : List Char) : toUSV (utf16 cs) = cs := by
  induction cs with
  | nil => rfl
  | cons c cs ih => rw [utf16_cons, toUSV_utf16Char, ih]

theorem toNat_charOfNat {n : ℕ} (h : n < 0xD800 ∨ (0xDFFF < n ∧ n < 0x110000)) :
    (Char.ofNat n).toNat = n := by
  rw [Char.ofNat, dif_pos h]
  rfl

/-- A code unit that is no surrogate is the text of its scalar value. -/
theorem utf16Char_unitChar {u : UInt16} (hhigh : isHighSurrogate u = false)
    (hlow : isLowSurrogate u = false) : utf16Char (unitChar u) = [u] := by
  have hlt := u.toNat_lt
  have hback : (Char.ofNat u.toNat).toNat = u.toNat := by
    simp only [isHighSurrogate, isLowSurrogate, Bool.and_eq_false_iff,
      decide_eq_false_iff_not] at hhigh hlow
    exact toNat_charOfNat (by omega)
  rw [unitChar, hhigh, hlow, Bool.or_false, if_neg Bool.false_ne_true, utf16Char, hback,
    if_pos hlt, UInt16.ofNat_toNat]

/-- A surrogate pair is the text of its scalar value. -/
theorem utf16Char_pairChar {u v : UInt16} (hhigh : isHighSurrogate u = true)
    (hlow : isLowSurrogate v = true) : utf16Char (pairChar u v) = [u, v] := by
  simp only [isHighSurrogate, isLowSurrogate, Bool.and_eq_true, decide_eq_true_eq] at hhigh hlow
  have hback : (pairChar u v).toNat
      = 0x10000 + (u.toNat - 0xD800) * 0x400 + (v.toNat - 0xDC00) := toNat_charOfNat (by omega)
  rw [utf16Char, hback, if_neg (by omega),
    show 0xD800 + (0x10000 + (u.toNat - 0xD800) * 0x400 + (v.toNat - 0xDC00) - 0x10000) / 0x400
      = u.toNat from by omega,
    show 0xDC00 + (0x10000 + (u.toNat - 0xD800) * 0x400 + (v.toNat - 0xDC00) - 0x10000) % 0x400
      = v.toNat from by omega, UInt16.ofNat_toNat, UInt16.ofNat_toNat]

/-- A string whose scalar values hold no U+FFFD had no unpaired surrogate. -/
theorem utf16_toUSV {s : JsString} (h : '\uFFFD' ∉ toUSV s) : utf16 (toUSV s) = s := by
  have hunit : ∀ {u : UInt16}, unitChar u ≠ '\uFFFD' → utf16Char (unitChar u) = [u] := by
    intro u hu
    have hnone : (isHighSurrogate u || isLowSurrogate u) = false := by
      refine Bool.eq_false_iff.mpr fun hsurrogate => hu ?_
      rw [unitChar, hsurrogate, if_pos rfl]
    exact utf16Char_unitChar (Bool.or_eq_false_iff.mp hnone).1 (Bool.or_eq_false_iff.mp hnone).2
  induction s using toUSV.induct with
  | case1 => rfl
  | case2 u =>
      rw [toUSV, List.mem_singleton] at h
      rw [toUSV, utf16_cons, hunit (Ne.symm h)]
      rfl
  | case3 u v rest hpair ih =>
      rw [toUSV, if_pos hpair] at h ⊢
      rw [utf16_cons, ih fun hrest => h (List.mem_cons_of_mem _ hrest),
        utf16Char_pairChar (Bool.and_eq_true_iff.mp hpair).1 (Bool.and_eq_true_iff.mp hpair).2]
      rfl
  | case4 u v rest hpair ih =>
      rw [toUSV, if_neg hpair] at h ⊢
      rw [utf16_cons, ih fun hrest => h (List.mem_cons_of_mem _ hrest),
        hunit fun heq => h (heq ▸ List.mem_cons_self)]
      rfl

/-! ### UTF-8 -/

/-- The UTF-8 bytes of a list of scalar values. -/
def utf8 (cs : List Char) : Bytes := cs.flatMap String.utf8EncodeChar

/-- `Buffer.from(s)`, the bytes of a string sent as UTF-8. -/
def toBytes (s : JsString) : Bytes := utf8 (toUSV s)

/-- `Buffer.byteLength(s)`. -/
def byteLength (s : JsString) : ℕ := (toBytes s).length

@[simp] theorem utf8_nil : utf8 [] = [] := rfl

theorem utf8_cons (c : Char) (cs : List Char) :
    utf8 (c :: cs) = String.utf8EncodeChar c ++ utf8 cs := rfl

theorem utf8_append (cs ds : List Char) : utf8 (cs ++ ds) = utf8 cs ++ utf8 ds :=
  List.flatMap_append

theorem toBytes_utf16 (cs : List Char) : toBytes (utf16 cs) = utf8 cs := by
  rw [toBytes, toUSV_utf16]

/-- The bytes still owed for a sequence that has begun: how many, the bits read so far, and the
range the next one has to lie in. -/
structure Pending where
  needed : ℕ
  codePoint : ℕ
  lower : ℕ
  upper : ℕ
  deriving DecidableEq, Repr

/-- The first byte of a sequence: the scalar values it yields, and what it leaves pending. -/
def firstByte (b : ℕ) : List Char × Option Pending :=
  if b < 0x80 then ([Char.ofNat b], none)
  else if 0xC2 ≤ b ∧ b ≤ 0xDF then ([], some ⟨1, b % 0x20, 0x80, 0xBF⟩)
  else if 0xE0 ≤ b ∧ b ≤ 0xEF then
    ([], some ⟨2, b % 0x10, if b = 0xE0 then 0xA0 else 0x80, if b = 0xED then 0x9F else 0xBF⟩)
  else if 0xF0 ≤ b ∧ b ≤ 0xF4 then
    ([], some ⟨3, b % 0x8, if b = 0xF0 then 0x90 else 0x80, if b = 0xF4 then 0x8F else 0xBF⟩)
  else (['\uFFFD'], none)

/-- One byte.  A byte outside the pending range ends the sequence with U+FFFD and is read again
as a first byte. -/
def feed : Option Pending → ℕ → List Char × Option Pending
  | none, b => firstByte b
  | some p, b =>
      if p.lower ≤ b ∧ b ≤ p.upper then
        if p.needed = 1 then ([Char.ofNat (p.codePoint * 64 + b % 64)], none)
        else ([], some ⟨p.needed - 1, p.codePoint * 64 + b % 64, 0x80, 0xBF⟩)
      else ('\uFFFD' :: (firstByte b).1, (firstByte b).2)

/-- The decoder, from a machine state. -/
def decodeFrom : Option Pending → Bytes → List Char
  | none, [] => []
  | some _, [] => ['\uFFFD']
  | p, b :: bs => (feed p b.toNat).1 ++ decodeFrom (feed p b.toNat).2 bs

/-- The scalar values of a byte sequence read as UTF-8. -/
def decodeUtf8 (bs : Bytes) : List Char := decodeFrom none bs

/-- `buffer.toString("utf8")`. -/
def utf8ToString (bs : Bytes) : JsString := utf16 (decodeUtf8 bs)

theorem decodeFrom_cons (p : Option Pending) (b : UInt8) (bs : Bytes) :
    decodeFrom p (b :: bs) = (feed p b.toNat).1 ++ decodeFrom (feed p b.toNat).2 bs := by
  cases p <;> rfl

/-- A first byte that yields no value. -/
theorem decodeFrom_first {b : UInt8} {p : Pending} (bs : Bytes)
    (h : firstByte b.toNat = ([], some p)) :
    decodeFrom none (b :: bs) = decodeFrom (some p) bs := by
  rw [decodeFrom_cons, feed, h, List.nil_append]

/-- A byte in the middle of a sequence. -/
theorem decodeFrom_middle {p : Pending} {b : UInt8} (bs : Bytes) (hl : p.lower ≤ b.toNat)
    (hu : b.toNat ≤ p.upper) (hn : p.needed ≠ 1) :
    decodeFrom (some p) (b :: bs)
      = decodeFrom (some ⟨p.needed - 1, p.codePoint * 64 + b.toNat % 64, 0x80, 0xBF⟩) bs := by
  rw [decodeFrom_cons, feed, if_pos ⟨hl, hu⟩, if_neg hn, List.nil_append]

/-- The last byte of a sequence. -/
theorem decodeFrom_last {p : Pending} {b : UInt8} (bs : Bytes) (hl : p.lower ≤ b.toNat)
    (hu : b.toNat ≤ p.upper) (hn : p.needed = 1) :
    decodeFrom (some p) (b :: bs)
      = Char.ofNat (p.codePoint * 64 + b.toNat % 64) :: decodeFrom none bs := by
  rw [decodeFrom_cons, feed, if_pos ⟨hl, hu⟩, if_pos hn, List.singleton_append]

theorem toNat_ofNat8 {n : ℕ} (h : n < 256) : (UInt8.ofNat n).toNat = n :=
  UInt8.toNat_ofNat_of_lt' h

/-- Decoding the bytes of a scalar value gives that value back.  The cases are the lengths of the
encoding; each byte of a longer one is a first, a middle or a last byte of the machine. -/
theorem decodeFrom_utf8EncodeChar (c : Char) (bs : Bytes) :
    decodeFrom none (String.utf8EncodeChar c ++ bs) = c :: decodeFrom none bs := by
  have hc := toNat_lt c
  have hv : c.val.toNat = c.toNat := rfl
  unfold String.utf8EncodeChar
  simp only [hv]
  split
  · rename_i h1
    have hb : (UInt8.ofNat c.toNat).toNat = c.toNat := toNat_ofNat8 (by omega)
    rw [List.singleton_append, decodeFrom_cons, feed, hb, firstByte, if_pos (by omega),
      Char.ofNat_toNat]
    rfl
  split
  · rename_i h1 h2
    have hb₁ : (UInt8.ofNat (c.toNat / 64 % 32 + 192)).toNat = c.toNat / 64 % 32 + 192 :=
      toNat_ofNat8 (by omega)
    have hb₂ : (UInt8.ofNat (c.toNat % 64 + 128)).toNat = c.toNat % 64 + 128 :=
      toNat_ofNat8 (by omega)
    have hfirst : firstByte (UInt8.ofNat (c.toNat / 64 % 32 + 192)).toNat
        = ([], some ⟨1, c.toNat / 64, 0x80, 0xBF⟩) := by
      rw [hb₁, firstByte, if_neg (by omega), if_pos (by omega)]
      rw [show (c.toNat / 64 % 32 + 192) % 32 = c.toNat / 64 from by omega]
    rw [List.cons_append, decodeFrom_first _ hfirst, List.singleton_append,
      decodeFrom_last _ (by rw [hb₂]; dsimp only; omega) (by rw [hb₂]; dsimp only; omega) rfl, hb₂]
    rw [show c.toNat / 64 * 64 + (c.toNat % 64 + 128) % 64 = c.toNat from by omega,
      Char.ofNat_toNat]
  split
  · rename_i h1 h2 h3
    have hb₁ : (UInt8.ofNat (c.toNat / 4096 % 16 + 224)).toNat = c.toNat / 4096 % 16 + 224 :=
      toNat_ofNat8 (by omega)
    have hb₂ : (UInt8.ofNat (c.toNat / 64 % 64 + 128)).toNat = c.toNat / 64 % 64 + 128 :=
      toNat_ofNat8 (by omega)
    have hb₃ : (UInt8.ofNat (c.toNat % 64 + 128)).toNat = c.toNat % 64 + 128 :=
      toNat_ofNat8 (by omega)
    have hfirst : firstByte (UInt8.ofNat (c.toNat / 4096 % 16 + 224)).toNat
        = ([], some ⟨2, c.toNat / 4096, if c.toNat / 4096 % 16 + 224 = 0xE0 then 0xA0 else 0x80,
            if c.toNat / 4096 % 16 + 224 = 0xED then 0x9F else 0xBF⟩) := by
      rw [hb₁, firstByte, if_neg (by omega), if_neg (by omega), if_pos (by omega)]
      rw [show (c.toNat / 4096 % 16 + 224) % 16 = c.toNat / 4096 from by omega]
    rw [List.cons_append, decodeFrom_first _ hfirst, List.cons_append,
      decodeFrom_middle _ (by rw [hb₂]; dsimp only; split <;> omega)
        (by rw [hb₂]; dsimp only; split <;> omega) (by simp),
      List.singleton_append,
      decodeFrom_last _ (by rw [hb₃]; dsimp only; omega) (by rw [hb₃]; dsimp only; omega) rfl,
      hb₂, hb₃]
    rw [show (c.toNat / 4096 * 64 + (c.toNat / 64 % 64 + 128) % 64) * 64
        + (c.toNat % 64 + 128) % 64 = c.toNat from by omega, Char.ofNat_toNat]
  · rename_i h1 h2 h3
    have hb₁ : (UInt8.ofNat (c.toNat / 262144 % 8 + 240)).toNat = c.toNat / 262144 % 8 + 240 :=
      toNat_ofNat8 (by omega)
    have hb₂ : (UInt8.ofNat (c.toNat / 4096 % 64 + 128)).toNat = c.toNat / 4096 % 64 + 128 :=
      toNat_ofNat8 (by omega)
    have hb₃ : (UInt8.ofNat (c.toNat / 64 % 64 + 128)).toNat = c.toNat / 64 % 64 + 128 :=
      toNat_ofNat8 (by omega)
    have hb₄ : (UInt8.ofNat (c.toNat % 64 + 128)).toNat = c.toNat % 64 + 128 :=
      toNat_ofNat8 (by omega)
    have hfirst : firstByte (UInt8.ofNat (c.toNat / 262144 % 8 + 240)).toNat
        = ([], some ⟨3, c.toNat / 262144, if c.toNat / 262144 % 8 + 240 = 0xF0 then 0x90 else 0x80,
            if c.toNat / 262144 % 8 + 240 = 0xF4 then 0x8F else 0xBF⟩) := by
      rw [hb₁, firstByte, if_neg (by omega), if_neg (by omega), if_neg (by omega),
        if_pos (by omega)]
      rw [show (c.toNat / 262144 % 8 + 240) % 8 = c.toNat / 262144 from by omega]
    rw [List.cons_append, decodeFrom_first _ hfirst, List.cons_append,
      decodeFrom_middle _ (by rw [hb₂]; dsimp only; split <;> omega)
        (by rw [hb₂]; dsimp only; split <;> omega) (by simp),
      List.cons_append,
      decodeFrom_middle _ (by rw [hb₃]; dsimp only; omega) (by rw [hb₃]; dsimp only; omega)
        (by simp),
      List.singleton_append,
      decodeFrom_last _ (by rw [hb₄]; dsimp only; omega) (by rw [hb₄]; dsimp only; omega) rfl,
      hb₂, hb₃, hb₄]
    rw [show ((c.toNat / 262144 * 64 + (c.toNat / 4096 % 64 + 128) % 64) * 64
        + (c.toNat / 64 % 64 + 128) % 64) * 64 + (c.toNat % 64 + 128) % 64 = c.toNat from by omega,
      Char.ofNat_toNat]

/-- **UTF-8 decoding undoes encoding.** -/
theorem decodeUtf8_utf8 (cs : List Char) : decodeUtf8 (utf8 cs) = cs := by
  induction cs with
  | nil => rfl
  | cons c cs ih =>
      rw [decodeUtf8, utf8_cons, decodeFrom_utf8EncodeChar]
      exact congrArg (c :: ·) ih

/-- Text sent as UTF-8 and read back is the text of its scalar values. -/
theorem utf8ToString_utf8 (cs : List Char) : utf8ToString (utf8 cs) = utf16 cs := by
  rw [utf8ToString, decodeUtf8_utf8]

theorem utf8_injective : Function.Injective utf8 := Function.LeftInverse.injective decodeUtf8_utf8

/-- Text without U+FFFD has the bytes of one string only. -/
theorem toBytes_eq_utf8 {s : JsString} {cs : List Char} (h : '\uFFFD' ∉ cs) :
    toBytes s = utf8 cs ↔ s = utf16 cs := by
  constructor
  · intro heq
    have husv : toUSV s = cs := utf8_injective heq
    have hback := utf16_toUSV (husv.symm ▸ h)
    rw [← hback, husv]
  · rintro rfl
    exact toBytes_utf16 cs

/-- The bytes of a string that was decoded from bytes. -/
theorem toBytes_utf8ToString (bs : Bytes) : toBytes (utf8ToString bs) = utf8 (decodeUtf8 bs) :=
  toBytes_utf16 _

/-! ### Latin-1 -/

/-- The string of a byte sequence with one code unit for each byte, as a server reads a header. -/
def latin1 (bytes : Bytes) : JsString := bytes.map fun b => UInt16.ofNat b.toNat

theorem toUSV_latin1 (bytes : Bytes) :
    toUSV (latin1 bytes) = bytes.map fun b => Char.ofNat b.toNat := by
  induction bytes with
  | nil => rfl
  | cons b bytes ih =>
      have hb := b.toNat_lt
      have hu : (UInt16.ofNat b.toNat).toNat = b.toNat := toNat_ofNat16 (by omega)
      obtain ⟨hhigh, hlow⟩ := not_surrogate (u := UInt16.ofNat b.toNat) (by omega)
      rw [latin1, List.map_cons, toUSV_cons_of_not_high hhigh, unitChar, hhigh, hlow,
        Bool.or_false, if_neg Bool.false_ne_true, hu, List.map_cons]
      exact congrArg _ ih

/-- **A header has the bytes of no other string**, not even of one with unpaired surrogates. -/
theorem eq_latin1_of_toBytes {bytes : Bytes} {s : JsString}
    (h : toBytes (latin1 bytes) = toBytes s) : latin1 bytes = s := by
  have husv : toUSV (latin1 bytes) = toUSV s := utf8_injective h
  have hnone : '\uFFFD' ∉ toUSV (latin1 bytes) := by
    rw [toUSV_latin1]
    intro hmem
    obtain ⟨b, -, hb⟩ := List.mem_map.mp hmem
    have hlt := b.toNat_lt
    have hback : (Char.ofNat b.toNat).toNat = b.toNat := toNat_charOfNat (by omega)
    rw [hb] at hback
    exact absurd hback (by simp; omega)
  rw [← utf16_toUSV hnone, husv, utf16_toUSV (husv ▸ hnone)]

end SocketServer.Text

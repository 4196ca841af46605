import SocketServer.Library.Text

/-!
# Base64

The encoder over an alphabet of 64 characters, with a padding character or without, and a lenient
decoder.

* `encode` goes through the bytes three at a time; `encode_length_padded` says how long its output
  is and `mem_encode` which characters it consists of;
* `decode` collects the digits of its input, skipping everything else up to the first padding
  character, as Node's `Buffer.from` does; `decode_encode` says that it undoes `encode`.

`standard` and `url` are the two alphabets of RFC 4648.
-/

namespace SocketServer.Base64

open SocketServer.Text

/-- The character of a digit below 62. -/
def alphanumeric (n : ℕ) : Char :=
  if n < 26 then Char.ofNat (65 + n)
  else if n < 52 then Char.ofNat (97 + (n - 26))
  else Char.ofNat (48 + (n - 52))

/-- The alphabet of `base64`. -/
def standard (n : ℕ) : Char := if n < 62 then alphanumeric n else if n = 62 then '+' else '/'

/-- The alphabet of `base64url`. -/
def url (n : ℕ) : Char := if n < 62 then alphanumeric n else if n = 62 then '-' else '_'

/-! ### Encoding -/

/-- The four digits of three bytes. -/
def digits (a b c : UInt8) : List ℕ :=
  [a.toNat / 4, a.toNat % 4 * 16 + b.toNat / 16, b.toNat % 16 * 4 + c.toNat / 64, c.toNat % 64]

/-- The base64 text of a byte sequence; `pad` is what one missing digit is written as. -/
def encode (alphabet : ℕ → Char) (pad : List Char) : Bytes → List Char
  | a :: b :: c :: rest => (digits a b c).map alphabet ++ encode alphabet pad rest
  | [a, b] => ((digits a b 0).take 3).map alphabet ++ pad
  | [a] => ((digits a 0 0).take 2).map alphabet ++ (pad ++ pad)
  | [] => []

variable {alphabet : ℕ → Char}

theorem digits_lt (a b c : UInt8) : ∀ d ∈ digits a b c, d < 64 := by
  have ha := a.toNat_lt
  have hb := b.toNat_lt
  have hc := c.toNat_lt
  intro d hd
  simp only [digits, List.mem_cons, List.not_mem_nil, or_false] at hd
  rcases hd with rfl | rfl | rfl | rfl <;> omega

/-- With one padding character for each missing digit, the length is a multiple of four. -/
theorem encode_length_padded (p : Char) (bs : Bytes) :
    (encode alphabet [p] bs).length = (bs.length + 2) / 3 * 4 := by
  fun_induction encode alphabet [p] bs with
  | case1 a b c rest ih =>
      simp only [List.length_append, List.length_map, ih, digits, List.length_cons, List.length_nil]
      omega
  | case2 a b => simp [digits]
  | case3 a => simp [digits]
  | case4 => rfl

/-! ### Decoding -/

/-- The bytes of a list of digits; a digit left over on its own is dropped. -/
def ofDigits : List ℕ → Bytes
  | d₀ :: d₁ :: d₂ :: d₃ :: rest =>
      UInt8.ofNat (d₀ * 4 + d₁ / 16) :: UInt8.ofNat (d₁ % 16 * 16 + d₂ / 4) ::
        UInt8.ofNat (d₂ % 4 * 64 + d₃) :: ofDigits rest
  | [d₀, d₁, d₂] => [UInt8.ofNat (d₀ * 4 + d₁ / 16), UInt8.ofNat (d₁ % 16 * 16 + d₂ / 4)]
  | [d₀, d₁] => [UInt8.ofNat (d₀ * 4 + d₁ / 16)]
  | _ => []

/-- The digit a code unit stands for; both alphabets are read. -/
def digit (u : UInt16) : Option ℕ :=
  let n := u.toNat
  if 65 ≤ n ∧ n < 91 then some (n - 65)
  else if 97 ≤ n ∧ n < 123 then some (n - 97 + 26)
  else if 48 ≤ n ∧ n < 58 then some (n - 48 + 52)
  else if n = 43 ∨ n = 45 then some 62
  else if n = 47 ∨ n = 95 then some 63
  else none

/-- A lenient decoder: what is neither a digit nor padding is skipped. -/
def decode (s : JsString) : Bytes :=
  ofDigits ((s.takeWhile (· ≠ 61)).filterMap digit)

/-- A list of digits cut into groups of four, the last of them possibly shorter. -/
theorem ofDigits_append_group (a b c : UInt8) (ds : List ℕ) :
    ofDigits (digits a b c ++ ds) = a :: b :: c :: ofDigits ds := by
  have ha := a.toNat_lt
  have hb := b.toNat_lt
  have hc := c.toNat_lt
  rw [digits, List.cons_append, List.cons_append, List.cons_append, List.cons_append,
    List.nil_append, ofDigits]
  rw [show a.toNat / 4 * 4 + (a.toNat % 4 * 16 + b.toNat / 16) / 16 = a.toNat from by omega,
    show (a.toNat % 4 * 16 + b.toNat / 16) % 16 * 16 + (b.toNat % 16 * 4 + c.toNat / 64) / 4
      = b.toNat from by omega,
    show (b.toNat % 16 * 4 + c.toNat / 64) % 4 * 64 + c.toNat % 64 = c.toNat from by omega]
  simp only [UInt8.ofNat_toNat]

/-- A text is the digits of its bytes and, at its end, padding. -/
theorem encode_eq_digits (alphabet : ℕ → Char) (pad : List Char) (bs : Bytes) :
    ∃ (ds : List ℕ) (k : ℕ), (∀ d ∈ ds, d < 64) ∧ ofDigits ds = bs ∧ k ≤ 2 ∧
      encode alphabet pad bs = ds.map alphabet ++ (List.replicate k pad).flatten := by
  fun_induction encode alphabet pad bs with
  | case1 a b c rest ih =>
      obtain ⟨ds, k, hlt, hof, hk, heq⟩ := ih
      refine ⟨digits a b c ++ ds, k, ?_, by rw [ofDigits_append_group, hof], hk,
        by rw [heq, List.map_append, List.append_assoc]⟩
      intro d hd
      rcases List.mem_append.mp hd with hnew | hold
      · exact digits_lt a b c d hnew
      · exact hlt d hold
  | case2 a b =>
      have ha := a.toNat_lt
      have hb := b.toNat_lt
      refine ⟨(digits a b 0).take 3, 1,
        fun d hd => digits_lt a b 0 d (List.mem_of_mem_take hd), ?_, by omega, by simp⟩
      simp only [digits, List.take_succ_cons, List.take_zero, ofDigits]
      rw [show a.toNat / 4 * 4 + (a.toNat % 4 * 16 + b.toNat / 16) / 16 = a.toNat from by omega,
        show (a.toNat % 4 * 16 + b.toNat / 16) % 16 * 16 +
          (b.toNat % 16 * 4 + (0 : UInt8).toNat / 64) / 4 = b.toNat from by simp; omega]
      simp only [UInt8.ofNat_toNat]
  | case3 a =>
      have ha := a.toNat_lt
      refine ⟨(digits a 0 0).take 2, 2,
        fun d hd => digits_lt a 0 0 d (List.mem_of_mem_take hd), ?_, le_rfl, by simp⟩
      simp only [digits, List.take_succ_cons, List.take_zero, ofDigits]
      rw [show a.toNat / 4 * 4 + (a.toNat % 4 * 16 + (0 : UInt8).toNat / 16) / 16 = a.toNat
        from by simp; omega]
      simp only [UInt8.ofNat_toNat]
  | case4 => exact ⟨[], 0, by simp, rfl, by omega, by simp⟩

/-- The characters of the text are digits or padding. -/
theorem mem_encode {pad : List Char} {bs : Bytes} {c : Char}
    (h : c ∈ encode alphabet pad bs) : (∃ d < 64, c = alphabet d) ∨ c ∈ pad := by
  obtain ⟨ds, k, hlt, -, -, heq⟩ := encode_eq_digits alphabet pad bs
  rw [heq, List.mem_append, List.mem_map, List.mem_flatten] at h
  rcases h with ⟨d, hd, rfl⟩ | ⟨l, hl, hc⟩
  · exact Or.inl ⟨d, hlt d hd, rfl⟩
  · exact Or.inr (List.eq_of_mem_replicate hl ▸ hc)

/-- What makes the decoder undo the encoder for an alphabet: it reads its digits, and the padding
is the padding character or nothing. -/
structure Readable (alphabet : ℕ → Char) (pad : List Char) : Prop where
  ascii : ∀ d < 64, (alphabet d).toNat < 0x10000
  digit : ∀ d < 64, digit (UInt16.ofNat (alphabet d).toNat) = some d
  notPad : ∀ d < 64, UInt16.ofNat (alphabet d).toNat ≠ 61
  pad : pad = [] ∨ pad = ['=']

theorem readable_standard : Readable standard ['='] where
  ascii := by decide
  digit := by decide
  notPad := by decide
  pad := Or.inr rfl

theorem readable_url : Readable url [] where
  ascii := by decide
  digit := by decide
  notPad := by decide
  pad := Or.inl rfl

/-- The digits that the decoder finds in the text of some digits and padding. -/
theorem decode_digits {pad : List Char} (h : Readable alphabet pad) (ds : List ℕ)
    (hlt : ∀ d ∈ ds, d < 64) (k : ℕ) :
    decode (utf16 (ds.map alphabet ++ (List.replicate k pad).flatten)) = ofDigits ds := by
  have htail : (utf16 (List.replicate k pad).flatten).takeWhile (· ≠ 61) = [] := by
    rcases h.pad with rfl | rfl
    · simp
    · cases k with
      | zero => rfl
      | succ k => rfl
  have hdigits : ∀ tail : JsString, tail.takeWhile (· ≠ 61) = [] →
      ((utf16 (ds.map alphabet) ++ tail).takeWhile (· ≠ 61)).filterMap digit = ds := by
    intro tail hnil
    induction ds with
    | nil =>
        rw [List.map_nil, utf16_nil, List.nil_append, hnil]
        rfl
    | cons d ds ih =>
        have hd : d < 64 := hlt d List.mem_cons_self
        have hunit : utf16Char (alphabet d) = [UInt16.ofNat (alphabet d).toNat] :=
          if_pos (h.ascii d hd)
        rw [List.map_cons, utf16_cons, hunit, List.append_assoc, List.singleton_append,
          List.takeWhile_cons_of_pos (by simpa using h.notPad d hd), List.filterMap_cons,
          h.digit d hd]
        exact congrArg (d :: ·) (ih fun e he => hlt e (List.mem_cons_of_mem d he))
  rw [utf16_append, decode, hdigits _ htail]

/-- **Decoding undoes encoding.** -/
theorem decode_encode {pad : List Char} (h : Readable alphabet pad) (bs : Bytes) :
    decode (utf16 (encode alphabet pad bs)) = bs := by
  obtain ⟨ds, k, hlt, hof, -, heq⟩ := encode_eq_digits alphabet pad bs
  rw [heq, decode_digits h ds hlt k, hof]

end SocketServer.Base64

import SocketServer.Library.Base64

/-!
# Go strings

A Go string is a list of bytes.

* `trimSpace` is `strings.TrimSpace`: it removes the UTF-8 encodings of white space at both ends;
  `trimSpace_of_ends` says when nothing is removed, `trimSpace_split` that what is removed is text;
* `rawURLEncode` and `rawURLDecode` are `base64.RawURLEncoding`.  The decoder skips line breaks and
  does not look at the bits left over at the end; `rawURLDecode_encode` says that it undoes the
  encoder.
-/

namespace SocketServer.Go

open SocketServer.Text

/-! ### White space -/

/-- The runes of `unicode.IsSpace`. -/
def spaceRunes : List Char :=
  ['\t', '\n', '\x0B', '\x0C', '\r', ' ', '\u0085', '\u00A0', '\u1680', '\u2000', '\u2001', '\u2002',
    '\u2003', '\u2004', '\u2005', '\u2006', '\u2007', '\u2008', '\u2009', '\u200A', '\u2028', '\u2029',
    '\u202F', '\u205F', '\u3000']

/-- The length of the first of the given encodings that a string starts with, zero for none. -/
def spaceLength (spaces : List Bytes) (s : Bytes) : ℕ :=
  ((spaces.find? fun space => space.isPrefixOf s).map List.length).getD 0

/-- The string without the encodings at its start; `skip` bytes of one of them are still to go. -/
def trimStart (spaces : List Bytes) : ℕ → Bytes → Bytes
  | _, [] => []
  | skip + 1, _ :: rest => trimStart spaces skip rest
  | 0, b :: rest =>
      match spaceLength spaces (b :: rest) with
      | 0 => b :: rest
      | length + 1 => trimStart spaces length rest

/-- `strings.TrimSpace`. -/
def trimSpace (s : Bytes) : Bytes :=
  let spaces := spaceRunes.map String.utf8EncodeChar
  (trimStart (spaces.map List.reverse) 0 (trimStart spaces 0 s).reverse).reverse

/-- The first bytes of the encodings, and the last ones. -/
def isSpaceByte (b : UInt8) : Bool :=
  (spaceRunes.map String.utf8EncodeChar).any fun space =>
    space.head? = some b || space.getLast? = some b

theorem trimStart_of_head {spaces : List Bytes} {s : Bytes}
    (hnonempty : ∀ space ∈ spaces, space ≠ [])
    (h : ∀ b, s.head? = some b → ∀ space ∈ spaces, space.head? ≠ some b) :
    trimStart spaces 0 s = s := by
  cases s with
  | nil => rfl
  | cons b rest =>
      have hnone : spaces.find? (fun space => space.isPrefixOf (b :: rest)) = none := by
        rw [List.find?_eq_none]
        intro space hspace hstart
        obtain ⟨tail, htail⟩ := List.isPrefixOf_iff_prefix.mp hstart
        cases space with
        | nil => exact hnonempty [] hspace rfl
        | cons c space =>
            cases htail
            exact h b rfl _ hspace rfl
      rw [trimStart, spaceLength, hnone]
      rfl

/-- A string that starts and ends with bytes that no white space has is left as it is. -/
theorem trimSpace_of_ends {s : Bytes} (h : ∀ b ∈ s, isSpaceByte b = false) : trimSpace s = s := by
  have hbyte : ∀ b, isSpaceByte b = false → ∀ space ∈ spaceRunes.map String.utf8EncodeChar,
      space.head? ≠ some b ∧ space.getLast? ≠ some b := by
    intro b hb space hspace
    have hnot := List.any_eq_false.mp hb space hspace
    simpa using hnot
  have hlong : ∀ space ∈ spaceRunes.map String.utf8EncodeChar, space ≠ [] := by
    intro space hspace
    obtain ⟨c, -, rfl⟩ := List.mem_map.mp hspace
    exact String.utf8EncodeChar_ne_nil
  have hstart : trimStart (spaceRunes.map String.utf8EncodeChar) 0 s = s := by
    refine trimStart_of_head hlong fun b hb space hspace => ?_
    exact (hbyte b (h b (List.mem_of_mem_head? hb)) space hspace).1
  have hend : trimStart ((spaceRunes.map String.utf8EncodeChar).map List.reverse) 0 s.reverse
      = s.reverse := by
    refine trimStart_of_head ?_ fun b hb space hspace => ?_
    · intro space hspace
      obtain ⟨forward, hforward, rfl⟩ := List.mem_map.mp hspace
      exact fun hnil => hlong forward hforward (List.reverse_eq_nil_iff.mp hnil)
    · obtain ⟨forward, hforward, rfl⟩ := List.mem_map.mp hspace
      rw [List.head?_reverse]
      exact (hbyte b (h b (List.mem_reverse.mp (List.mem_of_mem_head? hb))) forward hforward).2
  rw [trimSpace, hstart, hend, List.reverse_reverse]

theorem trimStart_skip (spaces : List Bytes) (skip : ℕ) (s : Bytes) :
    trimStart spaces skip s = trimStart spaces 0 (s.drop skip) := by
  induction s generalizing skip with
  | nil => rw [List.drop_nil, trimStart, trimStart]
  | cons b rest ih =>
      cases skip with
      | zero => rfl
      | succ skip => rw [trimStart, List.drop_succ_cons, ih]

/-- A length that is not zero is that of an encoding at the start. -/
theorem start_of_spaceLength {spaces : List Bytes} {s : Bytes} {n : ℕ}
    (h : spaceLength spaces s = n + 1) :
    ∃ space ∈ spaces, space.length = n + 1 ∧ s = space ++ s.drop (n + 1) := by
  rw [spaceLength] at h
  cases hfind : spaces.find? fun space => space.isPrefixOf s with
  | none =>
      rw [hfind] at h
      cases h
  | some space =>
      rw [hfind] at h
      have hlength : space.length = n + 1 := h
      have hstart := List.find?_some hfind
      obtain ⟨tail, rfl⟩ := List.isPrefixOf_iff_prefix.mp hstart
      exact ⟨space, List.mem_of_find?_eq_some hfind, hlength, by rw [← hlength, List.drop_left]⟩

/-- What is removed at the start is a run of encodings.  The induction is on the length of the
string, since one encoding takes several bytes. -/
theorem trimStart_split (spaces : List Bytes) (s : Bytes) :
    ∃ removed : List Bytes, (∀ space ∈ removed, space ∈ spaces) ∧
      s = removed.flatten ++ trimStart spaces 0 s := by
  induction hn : s.length using Nat.strong_induction_on generalizing s with
  | _ n ih =>
      cases s with
      | nil => exact ⟨[], by simp, rfl⟩
      | cons b rest =>
          cases hlength : spaceLength spaces (b :: rest) with
          | zero =>
              refine ⟨[], by simp, ?_⟩
              rw [trimStart, hlength]
              rfl
          | succ k =>
              obtain ⟨space, hspace, hsize, hsplit⟩ := start_of_spaceLength hlength
              have hshorter : (rest.drop k).length < n := by
                rw [List.length_drop]
                rw [List.length_cons] at hn
                omega
              obtain ⟨removed, hremoved, hrest⟩ := ih _ hshorter (rest.drop k) rfl
              have htrim : trimStart spaces 0 (b :: rest) = trimStart spaces 0 (rest.drop k) := by
                rw [trimStart, hlength]
                exact trimStart_skip spaces k rest
              refine ⟨space :: removed, List.forall_mem_cons.mpr ⟨hspace, hremoved⟩, ?_⟩
              rw [htrim, List.flatten_cons, List.append_assoc, ← hrest]
              exact hsplit

theorem utf8_of_encodings {encodings : List Bytes} {runes : List Char}
    (h : ∀ encoding ∈ encodings, encoding ∈ runes.map String.utf8EncodeChar) :
    ∃ cs, encodings.flatten = utf8 cs := by
  induction encodings with
  | nil => exact ⟨[], rfl⟩
  | cons encoding encodings ih =>
      obtain ⟨hencoding, hrest⟩ := List.forall_mem_cons.mp h
      obtain ⟨c, -, rfl⟩ := List.mem_map.mp hencoding
      obtain ⟨cs, hcs⟩ := ih hrest
      exact ⟨c :: cs, by rw [List.flatten_cons, hcs, utf8_cons]⟩

/-- **What trimming removes** is well-formed text at either end. -/
theorem trimSpace_split (s : Bytes) : ∃ before after : List Char,
    s = utf8 before ++ trimSpace s ++ utf8 after := by
  let spaces := spaceRunes.map String.utf8EncodeChar
  obtain ⟨front, hfront, hstart⟩ := trimStart_split spaces s
  obtain ⟨back, hback, hend⟩ :=
    trimStart_split (spaces.map List.reverse) (trimStart spaces 0 s).reverse
  obtain ⟨before, hbefore⟩ := utf8_of_encodings hfront
  have hforward : ∀ space ∈ (back.map List.reverse).reverse, space ∈ spaces := by
    intro space hspace
    obtain ⟨backward, hbackward, rfl⟩ := List.mem_map.mp (List.mem_reverse.mp hspace)
    obtain ⟨forward, hspaces, rfl⟩ := List.mem_map.mp (hback backward hbackward)
    rwa [List.reverse_reverse]
  obtain ⟨after, hafter⟩ := utf8_of_encodings hforward
  refine ⟨before, after, ?_⟩
  have hrest : trimStart spaces 0 s = trimSpace s ++ utf8 after := by
    rw [← hafter, ← List.reverse_flatten, trimSpace, ← List.reverse_append, ← hend,
      List.reverse_reverse]
  rw [List.append_assoc, ← hrest, ← hbefore]
  exact hstart

/-! ### `base64.RawURLEncoding` -/

/-- `EncodeToString`. -/
def rawURLEncode (bytes : Bytes) : Bytes := utf8 (Base64.encode Base64.url [] bytes)

/-- The digit that a byte stands for. -/
def urlDigit (b : UInt8) : Option ℕ :=
  let n := b.toNat
  if 65 ≤ n ∧ n < 91 then some (n - 65)
  else if 97 ≤ n ∧ n < 123 then some (n - 97 + 26)
  else if 48 ≤ n ∧ n < 58 then some (n - 48 + 52)
  else if n = 45 then some 62
  else if n = 95 then some 63
  else none

/-- The digits of a text; `none` when some byte is no digit. -/
def urlDigits : Bytes → Option (List ℕ)
  | [] => some []
  | b :: rest => (urlDigit b).bind fun d => (urlDigits rest).map (d :: ·)

/-- `DecodeString`. -/
def rawURLDecode (s : Bytes) : Option Bytes :=
  (urlDigits (s.filter fun b => b ≠ 13 ∧ b ≠ 10)).bind fun digits =>
    if digits.length % 4 = 1 then none else some (Base64.ofDigits digits)

/-- A letter of the alphabet is one byte, a digit, and neither white space nor a dot. -/
theorem url_byte {d : ℕ} (hd : d < 64) : ∃ b, String.utf8EncodeChar (Base64.url d) = [b] ∧
    urlDigit b = some d ∧ (b ≠ 13 ∧ b ≠ 10) ∧ b ≠ 46 ∧ isSpaceByte b = false := by
  have hall : ∀ d < 64, String.utf8EncodeChar (Base64.url d) = [UInt8.ofNat (Base64.url d).toNat] ∧
      urlDigit (UInt8.ofNat (Base64.url d).toNat) = some d ∧
      (UInt8.ofNat (Base64.url d).toNat ≠ 13 ∧ UInt8.ofNat (Base64.url d).toNat ≠ 10) ∧
      UInt8.ofNat (Base64.url d).toNat ≠ 46 ∧
      isSpaceByte (UInt8.ofNat (Base64.url d).toNat) = false := by decide +kernel
  exact ⟨_, hall d hd⟩

theorem urlDigits_of_digits {digits : List ℕ} (h : ∀ d ∈ digits, d < 64) :
    urlDigits ((utf8 (digits.map Base64.url)).filter fun b => b ≠ 13 ∧ b ≠ 10) = some digits := by
  induction digits with
  | nil => rfl
  | cons d digits ih =>
      obtain ⟨b, hencode, hdigit, hkept, -⟩ := url_byte (h d List.mem_cons_self)
      have hrest := ih fun e he => h e (List.mem_cons_of_mem d he)
      rw [List.map_cons, utf8_cons, hencode, List.singleton_append, List.filter_cons,
        if_pos (decide_eq_true hkept), urlDigits, hdigit, hrest]
      rfl

theorem encode_length_mod (bytes : Bytes) :
    (Base64.encode Base64.url [] bytes).length % 4 ≠ 1 := by
  fun_induction Base64.encode Base64.url [] bytes with
  | case1 a b c rest ih =>
      rw [List.length_append, List.length_map, Base64.digits]
      simp only [List.length_cons, List.length_nil]
      omega
  | case2 a b => simp [Base64.digits]
  | case3 a => simp [Base64.digits]
  | case4 => simp

/-- **Decoding undoes encoding.** -/
theorem rawURLDecode_encode (bytes : Bytes) : rawURLDecode (rawURLEncode bytes) = some bytes := by
  obtain ⟨digits, k, hlt, hbytes, -, htext⟩ := Base64.encode_eq_digits Base64.url [] bytes
  rw [show (List.replicate k ([] : List Char)).flatten = [] from by simp, List.append_nil] at htext
  have hlength := encode_length_mod bytes
  rw [htext, List.length_map] at hlength
  rw [rawURLDecode, rawURLEncode, htext, urlDigits_of_digits hlt, Option.bind_some, if_neg hlength,
    hbytes]

/-- The bytes of a text are no white space and no dots. -/
theorem mem_rawURLEncode {bytes : Bytes} {b : UInt8} (h : b ∈ rawURLEncode bytes) :
    b ≠ 46 ∧ isSpaceByte b = false := by
  obtain ⟨c, hc, hb⟩ := List.mem_flatMap.mp h
  obtain ⟨d, hd, rfl⟩ | hpad := Base64.mem_encode hc
  · obtain ⟨b', hencode, -, -, hdot, hspace⟩ := url_byte hd
    rw [hencode, List.mem_singleton] at hb
    exact hb ▸ ⟨hdot, hspace⟩
  · exact absurd hpad List.not_mem_nil

end SocketServer.Go

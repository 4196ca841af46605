import SocketServer.Library.Text

/-!
# `encodeURIComponent` and the path of a URL

Every code point outside the unreserved set is written as the percent-encoded bytes of its UTF-8
form; an unpaired surrogate is a `URIError`.  Text of unreserved characters is left as it is
(`encodeURIComponent_unreserved`), and every encoding is decoded to its text
(`decodeURIComponent_encode`), so that texts are encoded differently.

The URL parser takes the segments `.` and `..` out of a path (`resolveDots`).  A percent sign is
never left as it is, so only these two texts are encoded as such segments (`not_dot_of_encode`).
-/

namespace SocketServer.Js

open SocketServer.Text

/-- The code points of a string; `none` when a surrogate is unpaired. -/
def wellFormed : JsString → Option (List Char)
  | [] => some []
  | [u] => if isHighSurrogate u || isLowSurrogate u then none else some [unitChar u]
  | u :: v :: rest =>
      if isHighSurrogate u && isLowSurrogate v then (wellFormed rest).map (pairChar u v :: ·)
      else if isHighSurrogate u || isLowSurrogate u then none
      else (wellFormed (v :: rest)).map (unitChar u :: ·)

/-- `A-Z a-z 0-9 - _ . ! ~ * ' ( )`. -/
def isUnreserved (c : Char) : Bool :=
  let n := c.toNat
  (65 ≤ n && n ≤ 90) || (97 ≤ n && n ≤ 122) || (48 ≤ n && n ≤ 57) ||
    [45, 95, 46, 33, 126, 42, 39, 40, 41].contains n

/-- A hexadecimal digit, in upper case. -/
def upperHexDigit (n : ℕ) : Char := if n < 10 then Char.ofNat (48 + n) else Char.ofNat (55 + n)

def percentEncode (b : UInt8) : List Char :=
  ['%', upperHexDigit (b.toNat / 16), upperHexDigit (b.toNat % 16)]

def encodeCodePoint (c : Char) : List Char :=
  if isUnreserved c then [c] else (String.utf8EncodeChar c).flatMap percentEncode

/-- `encodeURIComponent(s)`; `none` is the `URIError`. -/
def encodeURIComponent (s : JsString) : Option JsString :=
  (wellFormed s).map fun cs => utf16 (cs.flatMap encodeCodePoint)

/-- A code unit that is an unreserved character. -/
def isUnreservedUnit (u : UInt16) : Bool := u.toNat < 128 && isUnreserved (Char.ofNat u.toNat)

theorem isUnreservedUnit_spec {u : UInt16} (h : isUnreservedUnit u = true) :
    isHighSurrogate u = false ∧ isLowSurrogate u = false ∧ isUnreserved (unitChar u) = true ∧
      utf16Char (unitChar u) = [u] := by
  simp only [isUnreservedUnit, Bool.and_eq_true, decide_eq_true_eq] at h
  obtain ⟨hlt, hunreserved⟩ := h
  obtain ⟨hhigh, hlow⟩ := not_surrogate (u := u) (by omega)
  have hchar : unitChar u = Char.ofNat u.toNat := by
    rw [unitChar, hhigh, hlow, Bool.or_false, if_neg Bool.false_ne_true]
  exact ⟨hhigh, hlow, hchar ▸ hunreserved, utf16Char_unitChar hhigh hlow⟩

/-- **Unreserved text is its own encoding.** -/
theorem encodeURIComponent_unreserved {s : JsString} (h : ∀ u ∈ s, isUnreservedUnit u = true) :
    encodeURIComponent s = some s := by
  have hboth : ∃ cs, wellFormed s = some cs ∧ utf16 (cs.flatMap encodeCodePoint) = s := by
    induction s with
    | nil => exact ⟨[], rfl, rfl⟩
    | cons u rest ih =>
        obtain ⟨hhigh, hlow, hunreserved, hunit⟩ := isUnreservedUnit_spec (h u List.mem_cons_self)
        obtain ⟨cs, hcs, htext⟩ := ih fun v hv => h v (List.mem_cons_of_mem u hv)
        refine ⟨unitChar u :: cs, ?_, ?_⟩
        · cases rest with
          | nil =>
              cases hcs
              rw [wellFormed, hhigh, hlow, Bool.or_false, if_neg Bool.false_ne_true]
          | cons v rest =>
              rw [wellFormed, hhigh, hlow, Bool.false_and, Bool.or_false,
                if_neg Bool.false_ne_true, if_neg Bool.false_ne_true, hcs, Option.map_some]
        · rw [List.flatMap_cons, utf16_append, encodeCodePoint, if_pos hunreserved, htext,
            utf16_cons, hunit]
          rfl
  obtain ⟨cs, hcs, htext⟩ := hboth
  rw [encodeURIComponent, hcs, Option.map_some, htext]

/-! ### Decoding -/

/-- The value of an upper-case hexadecimal digit. -/
def upperHexValue (c : Char) : ℕ := if c.toNat < 58 then c.toNat - 48 else c.toNat - 55

/-- The bytes of percent-encoded ASCII text. -/
def percentDecode : List Char → Bytes
  | [] => []
  | [c] => [UInt8.ofNat c.toNat]
  | [c, d] => [UInt8.ofNat c.toNat, UInt8.ofNat d.toNat]
  | c :: d :: e :: rest =>
      if c = '%' then UInt8.ofNat (upperHexValue d * 16 + upperHexValue e) :: percentDecode rest
      else UInt8.ofNat c.toNat :: percentDecode (d :: e :: rest)

/-- `decodeURIComponent(s)` of what `encodeURIComponent` writes. -/
def decodeURIComponent (s : JsString) : JsString := utf8ToString (percentDecode (toUSV s))

theorem isUnreserved_spec {c : Char} (h : isUnreserved c = true) :
    String.utf8EncodeChar c = [UInt8.ofNat c.toNat] ∧ c.toNat < 128 ∧ c ≠ '%' ∧ c ≠ '/' := by
  have hall : ∀ n < 128, isUnreserved (Char.ofNat n) = true →
      String.utf8EncodeChar (Char.ofNat n) = [UInt8.ofNat (Char.ofNat n).toNat] ∧
        (Char.ofNat n).toNat < 128 ∧ Char.ofNat n ≠ '%' ∧ Char.ofNat n ≠ '/' := by decide +kernel
  have hlt : c.toNat < 128 := by
    simp only [isUnreserved, Bool.or_eq_true, Bool.and_eq_true, decide_eq_true_eq,
      List.contains_iff_mem, List.mem_cons, List.not_mem_nil, or_false] at h
    omega
  have hspec := hall c.toNat hlt
  rw [Char.ofNat_toNat] at hspec
  exact hspec h

theorem percentDecode_unreserved {c : Char} (h : c ≠ '%') (rest : List Char) :
    percentDecode (c :: rest) = UInt8.ofNat c.toNat :: percentDecode rest := by
  cases rest with
  | nil => rfl
  | cons d rest =>
      cases rest with
      | nil => rfl
      | cons e rest => rw [percentDecode, if_neg h]

theorem percentDecode_percentEncode (b : UInt8) (rest : List Char) :
    percentDecode (percentEncode b ++ rest) = b :: percentDecode rest := by
  have hdigit : ∀ n < 16, upperHexValue (upperHexDigit n) = n := by decide
  have hlt := b.toNat_lt
  have hvalue : upperHexValue (upperHexDigit (b.toNat / 16)) * 16 +
      upperHexValue (upperHexDigit (b.toNat % 16)) = b.toNat := by
    rw [hdigit _ (by omega), hdigit _ (by omega)]
    omega
  show percentDecode ('%' :: upperHexDigit (b.toNat / 16) :: upperHexDigit (b.toNat % 16) :: rest) = _
  rw [percentDecode, if_pos rfl, hvalue, UInt8.ofNat_toNat]

theorem percentDecode_bytes (bytes : Bytes) (rest : List Char) :
    percentDecode (bytes.flatMap percentEncode ++ rest) = bytes ++ percentDecode rest := by
  induction bytes with
  | nil => rfl
  | cons b bytes ih =>
      rw [List.flatMap_cons, List.append_assoc, percentDecode_percentEncode, ih]
      rfl

/-- **The bytes of an encoding** are those of its text in UTF-8. -/
theorem percentDecode_encode (cs : List Char) :
    percentDecode (cs.flatMap encodeCodePoint) = utf8 cs := by
  induction cs with
  | nil => rfl
  | cons c cs ih =>
      rw [List.flatMap_cons, encodeCodePoint, utf8_cons]
      split
      · rename_i hunreserved
        obtain ⟨hbytes, -, hpercent, -⟩ := isUnreserved_spec hunreserved
        rw [hbytes, List.singleton_append, percentDecode_unreserved hpercent, ih]
        rfl
      · rw [percentDecode_bytes, ih]

/-- The code points of a string are those of its text. -/
theorem utf16_of_wellFormed {s : JsString} {cs : List Char} (h : wellFormed s = some cs) :
    utf16 cs = s := by
  induction s using wellFormed.induct generalizing cs with
  | case1 =>
      cases h
      rfl
  | case2 u hsurrogate =>
      rw [wellFormed, if_pos hsurrogate] at h
      cases h
  | case3 u hsingle =>
      rw [wellFormed, if_neg hsingle] at h
      cases h
      obtain ⟨hhigh, hlow⟩ := Bool.or_eq_false_iff.mp (Bool.eq_false_iff.mpr hsingle)
      rw [utf16_cons, utf16Char_unitChar hhigh hlow]
      rfl
  | case4 u v rest hpair ih =>
      rw [wellFormed, if_pos hpair] at h
      obtain ⟨tail, htail, rfl⟩ := Option.map_eq_some_iff.mp h
      obtain ⟨hhigh, hlow⟩ := Bool.and_eq_true_iff.mp hpair
      rw [utf16_cons, utf16Char_pairChar hhigh hlow, ih htail]
      rfl
  | case5 u v rest hpair hsurrogate =>
      rw [wellFormed, if_neg hpair, if_pos hsurrogate] at h
      cases h
  | case6 u v rest hpair hsingle ih =>
      rw [wellFormed, if_neg hpair, if_neg hsingle] at h
      obtain ⟨tail, htail, rfl⟩ := Option.map_eq_some_iff.mp h
      obtain ⟨hhigh, hlow⟩ := Bool.or_eq_false_iff.mp (Bool.eq_false_iff.mpr hsingle)
      rw [utf16_cons, utf16Char_unitChar hhigh hlow, ih htail]
      rfl

/-- **Every encoding is decoded to its text.** -/
theorem decodeURIComponent_encode {s encoded : JsString} (h : encodeURIComponent s = some encoded) :
    decodeURIComponent encoded = s := by
  obtain ⟨cs, hcs, rfl⟩ := Option.map_eq_some_iff.mp h
  rw [decodeURIComponent, toUSV_utf16, percentDecode_encode, utf8ToString_utf8,
    utf16_of_wellFormed hcs]

/-- The characters of an encoding: unreserved ones, and those of percent-encoded bytes. -/
theorem slash_not_mem_encode {s encoded : JsString} (h : encodeURIComponent s = some encoded) :
    ∃ text, encoded = utf16 text ∧ '/' ∉ text := by
  obtain ⟨cs, -, rfl⟩ := Option.map_eq_some_iff.mp h
  refine ⟨_, rfl, ?_⟩
  intro hslash
  obtain ⟨c, -, hmem⟩ := List.mem_flatMap.mp hslash
  rw [encodeCodePoint] at hmem
  split at hmem
  · rename_i hunreserved
    obtain ⟨-, -, -, hne⟩ := isUnreserved_spec hunreserved
    exact hne (List.mem_singleton.mp hmem).symm
  · obtain ⟨b, -, hb⟩ := List.mem_flatMap.mp hmem
    have hdigit : ∀ n < 16, '/' ≠ upperHexDigit n := by decide
    have hlt := b.toNat_lt
    simp only [percentEncode, List.mem_cons, List.not_mem_nil, or_false] at hb
    obtain hpercent | hhigh | hlow := hb
    · exact absurd hpercent (by decide)
    · exact hdigit _ (by omega) hhigh
    · exact hdigit _ (by omega) hlow

/-! ### Dot segments -/

/-- The spellings of a dot in a path. -/
def dotForms : List JsString := [js ".", js "%2e", js "%2E"]

def isSingleDot (segment : JsString) : Bool := dotForms.contains segment

def isDoubleDot (segment : JsString) : Bool :=
  (dotForms.flatMap fun first => dotForms.map (first ++ ·)).contains segment

/-- The segments of a path after the URL parser, of which `read` (the last one first) has been read:
`.` is left out, and `..` with the segment before it.  At the end of a path both leave an empty
segment. -/
def resolveDots : List JsString → List JsString → List JsString
  | read, [] => read.reverse
  | read, segment :: rest =>
      if isDoubleDot segment then
        resolveDots (if rest = [] then [] :: read.tail else read.tail) rest
      else if isSingleDot segment then resolveDots (if rest = [] then [] :: read else read) rest
      else resolveDots (segment :: read) rest

/-- A path without such segments is left as it is. -/
theorem resolveDots_of_none {segments : List JsString} (read : List JsString)
    (h : ∀ s ∈ segments, isSingleDot s = false ∧ isDoubleDot s = false) :
    resolveDots read segments = read.reverse ++ segments := by
  induction segments generalizing read with
  | nil => rw [resolveDots, List.append_nil]
  | cons s rest ih =>
      obtain ⟨hsingle, hdouble⟩ := h s List.mem_cons_self
      rw [resolveDots, hsingle, hdouble, if_neg Bool.false_ne_true, if_neg Bool.false_ne_true,
        ih _ fun t ht => h t (List.mem_cons_of_mem s ht), List.reverse_cons, List.append_assoc]
      rfl

theorem not_dot_of_encode {s encoded : JsString} (h : encodeURIComponent s = some encoded)
    (hsingle : s ≠ js ".") (hdouble : s ≠ js "..") :
    isSingleDot encoded = false ∧ isDoubleDot encoded = false := by
  have hdecode := decodeURIComponent_encode h
  rw [← hdecode] at h hsingle hdouble
  have hforms : (∀ e ∈ dotForms, encodeURIComponent (decodeURIComponent e) = some e →
        decodeURIComponent e = js ".") ∧
      ∀ e ∈ dotForms.flatMap fun first => dotForms.map (first ++ ·),
        encodeURIComponent (decodeURIComponent e) = some e → decodeURIComponent e = js ".." := by
    decide +kernel
  constructor
  · refine Bool.eq_false_iff.mpr fun hform => hsingle ?_
    exact hforms.1 encoded (List.contains_iff_mem.mp hform) h
  · refine Bool.eq_false_iff.mpr fun hform => hdouble ?_
    exact hforms.2 encoded (List.contains_iff_mem.mp hform) h

end SocketServer.Js

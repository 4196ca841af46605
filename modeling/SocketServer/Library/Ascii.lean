import SocketServer.Library.GoStrings
import SocketServer.Library.JsNumber

/-!
# ASCII text in Go and in JavaScript

The same variable of the environment reaches a Go program as its bytes and a Node program as the
string they decode to.  While the bytes are ASCII the two have one code unit for each byte, and the
string functions agree:

* `utf8ToString_ascii`: decoding is `latin1`;
* `trim_latin1`: `trim` removes what `strings.TrimSpace` removes, the six white space characters of
  ASCII, although the two sets differ beyond it;
* `split_latin1`: splitting does not depend on the alphabet.

In the other direction, the bytes of any string: `mem_of_mem_toBytes` finds the code unit that an
ASCII byte comes from, and `toBytes_dot` takes two texts with a dot between them apart.
-/

namespace SocketServer.Text

open SocketServer.Js SocketServer.Go

/-- A string of bytes below 128. -/
def Ascii (bytes : Bytes) : Prop := ∀ b ∈ bytes, b.toNat < 128

theorem Ascii.of_cons {b : UInt8} {bytes : Bytes} (h : Ascii (b :: bytes)) :
    b.toNat < 128 ∧ Ascii bytes :=
  List.forall_mem_cons.mp h

theorem Ascii.of_sublist {bytes rest : Bytes} (h : Ascii bytes) (hrest : rest.Sublist bytes) :
    Ascii rest :=
  fun b hb => h b (hrest.subset hb)

theorem Ascii.reverse {bytes : Bytes} (h : Ascii bytes) : Ascii bytes.reverse :=
  fun b hb => h b (List.mem_reverse.mp hb)

/-! ### Decoding -/

theorem latin1_injective : Function.Injective latin1 := by
  refine List.map_injective_iff.mpr fun b c h => ?_
  have hb := b.toNat_lt
  have hc := c.toNat_lt
  have hnat : (UInt16.ofNat b.toNat).toNat = (UInt16.ofNat c.toNat).toNat := congrArg _ h
  rw [toNat_ofNat16 (by omega), toNat_ofNat16 (by omega)] at hnat
  exact UInt8.toNat_inj.mp hnat

/-- **Decoding ASCII** changes nothing but the type of its units. -/
theorem utf8ToString_ascii {bytes : Bytes} (h : Ascii bytes) :
    utf8ToString bytes = latin1 bytes := by
  induction bytes with
  | nil => rfl
  | cons b bytes ih =>
      obtain ⟨hb, hrest⟩ := h.of_cons
      have hchar : (Char.ofNat b.toNat).toNat = b.toNat := toNat_charOfNat (by omega)
      have hfirst : feed none b.toNat = ([Char.ofNat b.toNat], none) := if_pos hb
      have hunit : utf16Char (Char.ofNat b.toNat) = [UInt16.ofNat b.toNat] := by
        rw [utf16Char, hchar, if_pos (by omega)]
      rw [utf8ToString, decodeUtf8, decodeFrom_cons, hfirst, List.singleton_append, utf16_cons,
        hunit]
      exact congrArg (UInt16.ofNat b.toNat :: ·) (ih hrest)

/-! ### Splitting -/

theorem splitOn_map {α β : Type} [BEq α] [BEq β] [LawfulBEq α] [LawfulBEq β] {f : α → β}
    (hf : Function.Injective f) (separator : α) (xs : List α) :
    (xs.map f).splitOn (f separator) = (xs.splitOn separator).map (List.map f) := by
  induction xs with
  | nil => rfl
  | cons x xs ih =>
      rw [List.map_cons, List.splitOn_cons_eq_if_modifyHead, List.splitOn_cons_eq_if_modifyHead, ih]
      by_cases hx : x = separator
      · subst hx
        rw [if_pos (beq_self_eq_true _), if_pos (beq_self_eq_true _)]
        rfl
      · rw [if_neg (fun h => hx (hf (eq_of_beq h))), if_neg (fun h => hx (eq_of_beq h))]
        cases xs.splitOn separator <;> rfl

/-- What a piece of a list holds, the list holds. -/
theorem mem_of_mem_splitOn {α : Type} [BEq α] {separator x : α} {xs piece : List α}
    (hpiece : piece ∈ xs.splitOn separator) (hx : x ∈ piece) : x ∈ xs := by
  induction xs generalizing piece with
  | nil =>
      rw [List.splitOn_nil, List.mem_singleton] at hpiece
      exact hpiece ▸ hx
  | cons y xs ih =>
      rw [List.splitOn_cons_eq_if_modifyHead] at hpiece
      split at hpiece
      · obtain rfl | hlater := List.mem_cons.mp hpiece
        · cases hx
        · exact List.mem_cons_of_mem y (ih hlater hx)
      · cases hsplit : xs.splitOn separator with
        | nil => exact absurd hsplit (List.splitOn_ne_nil separator xs)
        | cons first later =>
            rw [hsplit] at hpiece ih
            obtain rfl | hlater := List.mem_cons.mp hpiece
            · obtain rfl | hfirst := List.mem_cons.mp hx
              · exact List.mem_cons_self
              · exact List.mem_cons_of_mem y (ih List.mem_cons_self hfirst)
            · exact List.mem_cons_of_mem y (ih (List.mem_cons_of_mem first hlater) hx)

theorem Ascii.of_piece {bytes piece : Bytes} {separator : UInt8} (h : Ascii bytes)
    (hpiece : piece ∈ bytes.splitOn separator) : Ascii piece :=
  fun b hb => h b (mem_of_mem_splitOn hpiece hb)

theorem split_latin1 (bytes : Bytes) :
    split ',' (latin1 bytes) = (bytes.splitOn 44).map latin1 := by
  have hinjective : Function.Injective fun b : UInt8 => UInt16.ofNat b.toNat :=
    List.map_injective_iff.mp latin1_injective
  exact splitOn_map hinjective 44 bytes

/-! ### Trimming -/

/-- The white space of ASCII. -/
def isAsciiSpace (b : UInt8) : Bool := (spaceRunes.map String.utf8EncodeChar).contains [b]

/-- An encoding that is one byte, or starts with a byte that no ASCII string has. -/
def shortOrHigh : Bytes → Bool
  | [] => false
  | b :: rest => rest.isEmpty || 128 ≤ b.toNat

/-- Only an encoding of one byte starts an ASCII string. -/
theorem eq_singleton_of_start {space bytes : Bytes} {b : UInt8} (hspace : shortOrHigh space = true)
    (hb : b.toNat < 128) (hstart : space.isPrefixOf (b :: bytes) = true) : space = [b] := by
  obtain ⟨tail, htail⟩ := List.isPrefixOf_iff_prefix.mp hstart
  cases space with
  | nil => cases hspace
  | cons c rest =>
      cases htail
      rw [shortOrHigh, Bool.or_eq_true, decide_eq_true_eq] at hspace
      obtain hshort | hhigh := hspace
      · rw [List.isEmpty_iff.mp hshort]
      · omega

theorem trimStart_ascii {spaces : List Bytes} {bytes : Bytes}
    (hspaces : ∀ space ∈ spaces, shortOrHigh space = true) (h : Ascii bytes) :
    trimStart spaces 0 bytes = bytes.dropWhile fun b => spaces.contains [b] := by
  induction bytes with
  | nil => rfl
  | cons b bytes ih =>
      obtain ⟨hb, hrest⟩ := h.of_cons
      by_cases hmem : [b] ∈ spaces
      · have hlength : spaceLength spaces (b :: bytes) = 1 := by
          cases hfind : spaces.find? fun space => space.isPrefixOf (b :: bytes) with
          | none =>
              have hnot := List.find?_eq_none.mp hfind [b] hmem
              exact absurd (by simp [List.isPrefixOf]) hnot
          | some space =>
              have hstart := List.find?_some hfind
              have hspace :=
                eq_singleton_of_start (hspaces space (List.mem_of_find?_eq_some hfind)) hb hstart
              rw [spaceLength, hfind, hspace]
              rfl
        rw [trimStart, hlength, List.dropWhile_cons, if_pos (List.contains_iff_mem.mpr hmem)]
        exact ih hrest
      · have hlength : spaceLength spaces (b :: bytes) = 0 := by
          have hnone : spaces.find? (fun space => space.isPrefixOf (b :: bytes)) = none := by
            refine List.find?_eq_none.mpr fun space hspace hstart => hmem ?_
            exact eq_singleton_of_start (hspaces space hspace) hb hstart ▸ hspace
          rw [spaceLength, hnone]
          rfl
        rw [trimStart, hlength, List.dropWhile_cons,
          if_neg fun h => hmem (List.contains_iff_mem.mp h)]

/-- On ASCII the encodings read from the back are the same. -/
theorem trimSpace_ascii {bytes : Bytes} (h : Ascii bytes) :
    trimSpace bytes
      = ((bytes.dropWhile isAsciiSpace).reverse.dropWhile isAsciiSpace).reverse := by
  have hforward : ∀ space ∈ spaceRunes.map String.utf8EncodeChar, shortOrHigh space = true :=
    List.all_eq_true.mp (by decide +kernel)
  have hbackward : ∀ space ∈ (spaceRunes.map String.utf8EncodeChar).map List.reverse,
      shortOrHigh space = true :=
    List.all_eq_true.mp (by decide +kernel)
  have hsame : ∀ b : UInt8, ((spaceRunes.map String.utf8EncodeChar).map List.reverse).contains [b]
      = isAsciiSpace b := by
    intro b
    rw [isAsciiSpace, Bool.eq_iff_iff, List.contains_iff_mem, List.contains_iff_mem]
    exact List.mem_map_of_injective List.reverse_injective (a := [b])
  have hrest : Ascii (bytes.dropWhile isAsciiSpace).reverse :=
    (h.of_sublist (List.dropWhile_sublist _)).reverse
  rw [trimSpace, trimStart_ascii hforward h]
  show (trimStart _ 0 (bytes.dropWhile isAsciiSpace).reverse).reverse = _
  rw [trimStart_ascii hbackward hrest, funext hsame]

/-- Both languages take the same ASCII characters for white space. -/
theorem isSpace_latin1 {b : UInt8} (hb : b.toNat < 128) :
    isSpace (UInt16.ofNat b.toNat) = isAsciiSpace b := by
  have hall : ∀ n < 128, isSpace (UInt16.ofNat n) = isAsciiSpace (UInt8.ofNat n) := by
    decide +kernel
  have hone := hall b.toNat hb
  rwa [UInt8.ofNat_toNat] at hone

theorem dropWhile_latin1 {bytes : Bytes} (h : Ascii bytes) :
    (latin1 bytes).dropWhile isSpace = latin1 (bytes.dropWhile isAsciiSpace) := by
  induction bytes with
  | nil => rfl
  | cons b bytes ih =>
      obtain ⟨hb, hrest⟩ := h.of_cons
      rw [latin1, List.map_cons, List.dropWhile_cons, List.dropWhile_cons, isSpace_latin1 hb]
      split
      · exact ih hrest
      · rfl

/-- **Trimming ASCII** gives the same text in both languages. -/
theorem trim_latin1 {bytes : Bytes} (h : Ascii bytes) :
    trim (latin1 bytes) = latin1 (trimSpace bytes) := by
  have hreverse : ∀ bytes : Bytes, (latin1 bytes).reverse = latin1 bytes.reverse :=
    fun bytes => List.map_reverse.symm
  have hrest : Ascii (bytes.dropWhile isAsciiSpace).reverse :=
    (h.of_sublist (List.dropWhile_sublist _)).reverse
  rw [trim, dropWhile_latin1 h, hreverse, dropWhile_latin1 hrest, hreverse, trimSpace_ascii h]

/-! ### ASCII characters in the bytes of a string -/

/-- A byte below 128 is a character of its own. -/
theorem toNat_of_mem_utf8EncodeChar {c : Char} {b : UInt8} (hb : b.toNat < 128)
    (h : b ∈ String.utf8EncodeChar c) : c.toNat = b.toNat := by
  have hc := toNat_lt c
  have hv : c.val.toNat = c.toNat := rfl
  have hlow : ∀ {n : ℕ}, n < 256 → b = UInt8.ofNat n → b.toNat = n := by
    intro n hn heq
    rw [heq]
    exact toNat_ofNat8 hn
  -- every byte of a longer encoding is at least 128
  have hhigh : ∀ {n : ℕ}, 128 ≤ n → n < 256 → b ≠ UInt8.ofNat n := by
    intro n hlarge hn heq
    have hsame := hlow hn heq
    omega
  unfold String.utf8EncodeChar at h
  simp only [hv] at h
  split at h
  · exact (hlow (by omega) (List.mem_singleton.mp h)).symm
  split at h
  · simp only [List.mem_cons, List.not_mem_nil, or_false] at h
    obtain h | h := h <;> exact absurd h (hhigh (by omega) (by omega))
  split at h
  · simp only [List.mem_cons, List.not_mem_nil, or_false] at h
    obtain h | h | h := h <;> exact absurd h (hhigh (by omega) (by omega))
  · simp only [List.mem_cons, List.not_mem_nil, or_false] at h
    obtain h | h | h | h := h <;> exact absurd h (hhigh (by omega) (by omega))

/-- A scalar value below the surrogates is a code unit of its own. -/
theorem mem_of_mem_toUSV {s : JsString} {c : Char} (hc : c.toNat < 0xD800) (h : c ∈ toUSV s) :
    UInt16.ofNat c.toNat ∈ s := by
  have hunit : ∀ {u : UInt16}, c = unitChar u → UInt16.ofNat c.toNat = u := by
    intro u heq
    subst heq
    rw [unitChar] at hc ⊢
    split at hc
    · exact absurd hc (by decide)
    · rename_i hnone
      rw [if_neg hnone, toNat_charOfNat, UInt16.ofNat_toNat]
      have hlt := u.toNat_lt
      simp only [isHighSurrogate, isLowSurrogate, Bool.or_eq_true, Bool.and_eq_true,
        decide_eq_true_eq] at hnone
      omega
  induction s using toUSV.induct with
  | case1 => cases h
  | case2 u =>
      rw [toUSV, List.mem_singleton] at h
      exact List.mem_singleton.mpr (hunit h)
  | case3 u v rest hpair ih =>
      rw [toUSV, if_pos hpair] at h
      obtain hfirst | hrest := List.mem_cons.mp h
      · obtain ⟨hhigh, hlow⟩ := (Bool.and_eq_true _ _).mp hpair
        simp only [isHighSurrogate, isLowSurrogate, Bool.and_eq_true, decide_eq_true_eq]
          at hhigh hlow
        rw [hfirst, pairChar, toNat_charOfNat (by omega)] at hc
        omega
      · exact List.mem_cons_of_mem u (List.mem_cons_of_mem v (ih hrest))
  | case4 u v rest hpair ih =>
      rw [toUSV, if_neg hpair] at h
      obtain hfirst | hrest := List.mem_cons.mp h
      · exact hunit hfirst ▸ List.mem_cons_self
      · exact List.mem_cons_of_mem u (ih hrest)

/-- **An ASCII byte of a string** is one of its code units. -/
theorem mem_of_mem_toBytes {s : JsString} {b : UInt8} (hb : b.toNat < 128) (h : b ∈ toBytes s) :
    UInt16.ofNat b.toNat ∈ s := by
  obtain ⟨c, hc, hbyte⟩ := List.mem_flatMap.mp h
  have hsame := toNat_of_mem_utf8EncodeChar hb hbyte
  exact hsame ▸ mem_of_mem_toUSV (by omega) hc

/-- A code unit that is no low surrogate starts a string of its own. -/
theorem toUSV_append {u : UInt16} (hu : isLowSurrogate u = false) (s t : JsString) :
    toUSV (s ++ u :: t) = toUSV s ++ toUSV (u :: t) := by
  induction s using toUSV.induct with
  | case1 => rfl
  | case2 v =>
      have hcons : toUSV (v :: u :: t) = unitChar v :: toUSV (u :: t) := by
        rw [toUSV, hu, Bool.and_false, if_neg Bool.false_ne_true]
      exact hcons
  | case3 v w rest hpair ih =>
      show toUSV (v :: w :: (rest ++ u :: t)) = _
      rw [toUSV, if_pos hpair, ih, toUSV, if_pos hpair]
      rfl
  | case4 v w rest hpair ih =>
      show toUSV (v :: w :: (rest ++ u :: t)) = _
      rw [toUSV, if_neg hpair, ← List.cons_append, ih, toUSV, if_neg hpair]
      rfl

/-- Texts with a dot between them. -/
theorem toBytes_dot (s t : JsString) :
    toBytes (s ++ js "." ++ t) = toBytes s ++ 46 :: toBytes t := by
  have hdot : isLowSurrogate (unit '.') = false := by decide
  have hhigh : isHighSurrogate (unit '.') = false := by decide
  have hchar : utf8 [unitChar (unit '.')] = [46] := by decide
  have hjoin : s ++ js "." ++ t = s ++ unit '.' :: t := by
    rw [List.append_assoc]
    rfl
  rw [hjoin, toBytes, toUSV_append hdot, toUSV_cons_of_not_high hhigh, utf8_append,
    ← List.singleton_append, utf8_append, hchar]
  rfl

theorem toBytes_ne_nil {s : JsString} (h : s ≠ []) : toBytes s ≠ [] := by
  have hutf8 : ∀ (c : Char) (cs : List Char), utf8 (c :: cs) ≠ [] := fun c cs hnil =>
    String.utf8EncodeChar_ne_nil (List.append_eq_nil_iff.mp hnil).1
  cases s with
  | nil => exact absurd rfl h
  | cons u s =>
      cases s with
      | nil => exact hutf8 _ _
      | cons v s =>
          rw [toBytes, toUSV]
          split
          · exact hutf8 _ _
          · exact hutf8 _ _

end SocketServer.Text

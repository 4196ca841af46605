import SocketServer.Collaboration.Storage

/-!
# The canonical form of a stored state

A state is stored as padded base64 and read back by `decodeCanonicalBase64`
(`collaboration/src/storage.ts`), which filters three times: by a bound on the length of the text, by
the shape of the text, and by encoding the result again.  The first two only spare work, the third
decides.

* `hasBase64Shape_toBase64`: the shape admits every text the encoder writes;
* `decodeCanonicalBase64_toBase64`: the decoder accepts the encoder's output within the limit;
* `canonical_state_iff`: and it accepts nothing else.
-/

namespace SocketServer.Collaboration

open SocketServer.Text SocketServer.Js SocketServer.Checks

/-! ### Base64 text -/

theorem isPlain_base64 {bytes : Bytes} {c : Char}
    (h : c ∈ Base64.encode Base64.standard ['='] bytes) : isPlain c = true := by
  have hdigits : ∀ d < 64, isPlain (Base64.standard d) = true := by decide
  rcases Base64.mem_encode h with ⟨d, hd, rfl⟩ | hpad
  · exact hdigits d hd
  · rw [List.mem_singleton.mp hpad]
    rfl

theorem toBase64_length (bytes : Bytes) : (toBase64 bytes).length = base64Length bytes.length := by
  rw [toBase64, utf16_length_plain _ fun c hc => isPlain_base64 hc, Base64.encode_length_padded,
    base64Length]

/-- The bound on the length of the text admits every state within the limit. -/
theorem toBase64_length_le {bytes : Bytes} {maxBytes : ℕ} (h : bytes.length ≤ maxBytes) :
    (toBase64 bytes).length ≤ base64Length maxBytes := by
  rw [toBase64_length, base64Length, base64Length]
  exact Nat.mul_le_mul_right 4 (Nat.div_le_div_right (Nat.add_le_add_right h 2))

/-- Base64 text is written into JSON as it is. -/
theorem escapedLength_toBase64 (bytes : Bytes) :
    escapedLength (toBase64 bytes) = base64Length bytes.length := by
  rw [escapedLength, toBase64, escape_plain _ fun c hc => isPlain_base64 hc,
    utf8_length_plain _ fun c hc => isPlain_base64 hc, Base64.encode_length_padded, base64Length]

/-- Digits followed by at most two padding characters have the shape, if the length is right. -/
theorem hasBase64Shape_append {value : JsString} (k : ℕ) (hk : k ≤ 2)
    (hvalue : ∀ u ∈ value, isAlphabet u = true)
    (hlength : (value ++ List.replicate k (unit '=')).length % 4 = 0) :
    hasBase64Shape (value ++ List.replicate k (unit '=')) = true := by
  have hpad : unit '=' ∉ value := by
    intro hmem
    have hfalse : isAlphabet (unit '=') = false := by decide
    rw [hvalue _ hmem] at hfalse
    cases hfalse
  -- a text ends in more padding than it has only if a digit is padding
  have hends : ∀ j, List.replicate j (unit '=') <:+ value ++ List.replicate k (unit '=') ↔
      j ≤ k := by
    intro j
    constructor
    · intro hsuffix
      by_contra hlt
      have hmore : List.replicate (k + 1) (unit '=') <:+
          value ++ List.replicate k (unit '=') := by
        obtain ⟨n, rfl⟩ : ∃ n, j = n + (k + 1) := ⟨j - (k + 1), by omega⟩
        refine List.IsSuffix.trans ?_ hsuffix
        rw [List.replicate_add n]
        exact List.suffix_append _ _
      rw [List.replicate_succ, ← List.singleton_append] at hmore
      obtain ⟨pre, hpre⟩ := hmore
      rw [← List.append_assoc] at hpre
      have hlast := List.append_inj_left' hpre rfl
      exact hpad (hlast ▸ List.mem_append_right pre (List.mem_singleton_self _))
    · intro hle
      obtain ⟨n, rfl⟩ : ∃ n, k = n + j := ⟨k - j, by omega⟩
      rw [List.replicate_add n, ← List.append_assoc]
      exact List.suffix_append _ _
  have htwo : (js "==").isSuffixOf (value ++ List.replicate k (unit '=')) = decide (2 ≤ k) := by
    rw [Bool.eq_iff_iff, List.isSuffixOf_iff_suffix, decide_eq_true_eq]
    exact hends 2
  have hone : (js "=").isSuffixOf (value ++ List.replicate k (unit '=')) = decide (1 ≤ k) := by
    rw [Bool.eq_iff_iff, List.isSuffixOf_iff_suffix, decide_eq_true_eq]
    exact hends 1
  have hpadding : (if 2 ≤ k then 2 else if 1 ≤ k then 1 else 0) = k := by
    split
    · omega
    · split <;> omega
  unfold hasBase64Shape
  rw [htwo, hone, if_neg (by omega)]
  simp only [decide_eq_true_eq, hpadding, Bool.and_eq_true, List.all_eq_true]
  rw [List.length_append, List.length_replicate, Nat.add_sub_cancel, List.take_left,
    List.drop_left]
  exact ⟨hvalue, fun u hu => List.eq_of_mem_replicate hu⟩

theorem hasBase64Shape_toBase64 (bytes : Bytes) : hasBase64Shape (toBase64 bytes) = true := by
  obtain ⟨ds, k, hlt, -, hk, heq⟩ :=
    Base64.encode_eq_digits Base64.standard ['='] bytes
  have hdigits : ∀ d < 64, utf16Char (Base64.standard d) = [unit (Base64.standard d)] ∧
      isAlphabet (unit (Base64.standard d)) = true := by decide
  have htext : toBase64 bytes
      = ds.map (fun d => unit (Base64.standard d)) ++ List.replicate k (unit '=') := by
    rw [toBase64, heq, utf16_append]
    refine congrArg₂ (· ++ ·) ?_ ?_
    · rw [utf16, List.flatMap_map, List.map_eq_flatMap]
      exact List.flatMap_congr fun d hd => (hdigits d (hlt d hd)).1
    · clear heq
      induction k with
      | zero => rfl
      | succ k ih =>
          rw [List.replicate_succ, List.flatten_cons, utf16_append, List.replicate_succ]
          exact congrArg (unit '=' :: ·) (ih (by omega))
  have hlength := toBase64_length bytes
  rw [htext] at hlength ⊢
  refine hasBase64Shape_append k hk ?_ ?_
  · intro u hu
    obtain ⟨d, hd, rfl⟩ := List.mem_map.mp hu
    exact (hdigits d (hlt d hd)).2
  · rw [hlength, base64Length]
    omega

/-- **The decoder accepts the encoder's output within the limit.** -/
theorem decodeCanonicalBase64_toBase64 (runtime : Runtime) {state : Bytes} {maxBytes : ℕ}
    (hbase64 : runtime.fromBase64 (toBase64 state) = state) (hsize : state.length ≤ maxBytes) :
    decodeCanonicalBase64 runtime (toBase64 state) maxBytes = .ok state := by
  unfold decodeCanonicalBase64
  split
  · rename_i hempty
    have hlength := toBase64_length state
    rw [hempty, List.length_nil, base64Length] at hlength
    rw [List.length_eq_zero_iff.mp (show state.length = 0 from by omega)]
  · have hlength := toBase64_length_le hsize
    simp only [bind_eq_ok, rejectIf_eq_ok, hasBase64Shape_toBase64, hbase64]
    exact ⟨(), not_lt.mpr hlength, (), by simp, (), not_lt.mpr hsize, (), by simp, rfl⟩

/-! ### The decoder -/

/-- What the decoder returns is within the limit, and the text is its encoding. -/
theorem decodeCanonicalBase64_eq_ok {runtime : Runtime} {value : JsString} {bytes : Bytes}
    {maxBytes : ℕ} (h : decodeCanonicalBase64 runtime value maxBytes = .ok bytes) :
    value = toBase64 bytes ∧ bytes.length ≤ maxBytes := by
  unfold decodeCanonicalBase64 at h
  split at h
  · rename_i hempty
    cases h
    exact ⟨hempty, Nat.zero_le maxBytes⟩
  · simp only [bind_eq_ok, rejectIf_eq_ok] at h
    obtain ⟨-, -, -, -, -, hsize, -, hsame, hreturn⟩ := h
    cases hreturn
    exact ⟨(not_not.mp hsame).symm, not_lt.mp hsize⟩

/-- **The decoder accepts exactly the encoder's output within the limit**, the bound on the length
rejects no encoding within the limit, and the shape rejects no encoding at all. -/
theorem canonical_state_iff (runtime : Runtime)
    (hbase64 : ∀ bytes, runtime.fromBase64 (toBase64 bytes) = bytes) (maxBytes : ℕ) :
    (∀ value bytes, decodeCanonicalBase64 runtime value maxBytes = .ok bytes ↔
      value = toBase64 bytes ∧ bytes.length ≤ maxBytes) ∧
    (∀ bytes : Bytes, bytes.length ≤ maxBytes → (toBase64 bytes).length ≤ base64Length maxBytes) ∧
    (∀ bytes, hasBase64Shape (toBase64 bytes) = true) := by
  refine ⟨fun value bytes => ⟨decodeCanonicalBase64_eq_ok, ?_⟩, fun bytes hsize => ?_,
    hasBase64Shape_toBase64⟩
  · rintro ⟨rfl, hsize⟩
    exact decodeCanonicalBase64_toBase64 runtime (hbase64 bytes) hsize
  · exact toBase64_length_le hsize

/-- Node's decoders and nothing else. -/
def decodersRuntime : Runtime where
  jsonParse _ := none
  fromBase64 := Base64.decode
  fromBase64url := Base64.decode
  hmacSha256 _ _ := []
  parseURL _ _ := none
  acceptsUpdate _ := true

/-- Two bytes and their text; the same bytes with a spare bit set under the padding are rejected. -/
theorem canonical_state_iff_two_bytes :
    decodeCanonicalBase64 decodersRuntime (js "AQI=") 2 = .ok [1, 2] ∧
      ∀ bytes, decodeCanonicalBase64 decodersRuntime (js "AQJ=") 2 ≠ .ok bytes := by
  have hiff := (canonical_state_iff decodersRuntime
    (Base64.decode_encode Base64.readable_standard) 2).1
  refine ⟨(hiff (js "AQI=") [1, 2]).mpr ⟨by decide, by decide⟩, fun bytes h => ?_⟩
  have htext : js "AQJ=" = toBase64 bytes := ((hiff (js "AQJ=") bytes).mp h).1
  have hbytes : [1, 2] = bytes := by
    rw [← Base64.decode_encode Base64.readable_standard bytes]
    exact congrArg Base64.decode htext
  subst hbytes
  exact absurd htext (by decide)

end SocketServer.Collaboration

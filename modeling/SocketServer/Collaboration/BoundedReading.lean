import SocketServer.Collaboration.Storage
import SocketServer.Library.Runs

/-!
# Reading a response within a bound

`readBoundedJSON` (`collaboration/src/storage.ts`) looks at the declared length first and then keeps
the chunks of the body one by one, with a running total.

* `keepChunk` is one turn of the loop and `kept_step` its invariant: the total is that of the chunks
  kept, and within the limit; `readChunks_run` says that the loop takes these turns;
* `readWhole` is what the outcome depends on, the whole body; `readBoundedJSON_eq` says that however
  the body is cut, the outcome is that;
* `response_reading_bounded`: the consequences for every header, body and cut.
-/

namespace SocketServer.Collaboration

open SocketServer.Text SocketServer.Js SocketServer.Checks

/-! ### The loop -/

/-- One turn of the loop, on the total and the chunks kept so far. -/
def keepChunk (maxBytes : ℕ) (kept : ℕ × List Bytes) (chunk : Bytes) : Option (ℕ × List Bytes) :=
  if maxBytes < kept.1 + chunk.length then none
  else some (kept.1 + chunk.length, kept.2 ++ [chunk])

/-- The loop takes its turns until one of them throws. -/
theorem readChunks_run (maxBytes bytes : ℕ) (chunks rest : List Bytes) :
    readChunks maxBytes bytes chunks rest =
      require ((Runs.run (keepChunk maxBytes) (bytes, chunks) rest).map (·.2))
        "core-api Document state response exceeded the resource limit" := by
  induction rest generalizing bytes chunks with
  | nil => rfl
  | cons chunk rest ih =>
      rw [readChunks, Runs.run_cons, keepChunk]
      split
      · rfl
      · exact ih _ _

/-- The total is that of the chunks kept, and within the limit. -/
def KeptWithin (maxBytes : ℕ) (kept : ℕ × List Bytes) : Prop :=
  kept.1 = kept.2.flatten.length ∧ kept.1 ≤ maxBytes

/-- **One turn.** -/
theorem kept_step {maxBytes : ℕ} {kept kept' : ℕ × List Bytes} {chunk : Bytes}
    (h : KeptWithin maxBytes kept) (hstep : keepChunk maxBytes kept chunk = some kept') :
    KeptWithin maxBytes kept' := by
  rw [keepChunk] at hstep
  split at hstep
  · cases hstep
  · rename_i hfits
    cases hstep
    refine ⟨?_, not_lt.mp hfits⟩
    rw [List.flatten_append, List.length_append, List.flatten_singleton, h.1]

/-- Never do the chunks kept go beyond the limit. -/
theorem kept_throughout (maxBytes : ℕ) (body : List Bytes) :
    Runs.Throughout (keepChunk maxBytes) (fun kept => kept.2.flatten.length ≤ maxBytes) (0, [])
      body := by
  have hfirst : KeptWithin maxBytes (0, []) := ⟨rfl, Nat.zero_le _⟩
  have hmeets : Runs.Meets (keepChunk maxBytes) (fun _ _ => True) (0, []) body :=
    Runs.meets_of_each (keepChunk maxBytes) (fun _ _ _ => trivial) (0, [])
  refine Runs.throughout_of_meets (keepChunk maxBytes) ?_ ?_ hfirst hmeets
  · intro kept h
    exact h.1 ▸ h.2
  · intro kept chunk kept' h _ hstep
    exact kept_step h hstep

/-- The loop over the chunks returns them all if they fit together, and throws if they do not. -/
theorem readChunks_eq {maxBytes bytes : ℕ} {chunks rest : List Bytes} (h : bytes ≤ maxBytes) :
    readChunks maxBytes bytes chunks rest =
      if bytes + rest.flatten.length ≤ maxBytes then .ok (chunks ++ rest)
      else .error "core-api Document state response exceeded the resource limit" := by
  induction rest generalizing bytes chunks with
  | nil =>
      rw [readChunks, List.flatten_nil, List.length_nil, Nat.add_zero, if_pos h, List.append_nil]
  | cons chunk rest ih =>
      rw [readChunks, List.flatten_cons, List.length_append]
      split
      · rw [if_neg (by omega)]
      · rename_i hfits
        rw [ih (by omega), List.append_assoc, List.singleton_append, Nat.add_assoc]

/-! ### The outcome -/

/-- The outcome for a whole body. -/
def readWhole (runtime : Runtime) (declared : JsNumber) (body : Bytes) (maxBytes : ℕ) :
    Except String Json :=
  if exceeds declared maxBytes = true ∨ maxBytes < body.length then
    .error "core-api Document state response exceeded the resource limit"
  else require (runtime.jsonParse (utf8ToString body))
    "core-api returned an invalid Document state response"

/-- **However the body is cut**, the outcome is that of the whole body. -/
theorem readBoundedJSON_eq (runtime : Runtime) {response : Response} {chunks : List Bytes}
    (hbody : response.body = some chunks) (maxBytes : ℕ) :
    readBoundedJSON runtime response maxBytes =
      readWhole runtime (declaredLength response) chunks.flatten maxBytes := by
  have hchunks := @readChunks_eq maxBytes 0 [] chunks (Nat.zero_le maxBytes)
  rw [Nat.zero_add, List.nil_append] at hchunks
  rw [readBoundedJSON, readWhole, hbody]
  by_cases hdeclared : exceeds (declaredLength response) maxBytes = true
  · rw [rejectIf_of hdeclared, if_pos (Or.inl hdeclared)]
    rfl
  · rw [rejectIf_of_not hdeclared]
    show (do
      let read ← readChunks maxBytes 0 [] chunks
      require (runtime.jsonParse (utf8ToString read.flatten))
        "core-api returned an invalid Document state response") = _
    by_cases hsize : chunks.flatten.length ≤ maxBytes
    · rw [hchunks, if_pos hsize, if_neg fun h => h.elim hdeclared (not_lt.mpr hsize)]
      rfl
    · rw [hchunks, if_neg hsize, if_pos (Or.inr (not_le.mp hsize))]
      rfl

theorem exceeds_eq_false {declared : JsNumber} {maxBytes : ℕ} :
    exceeds declared maxBytes = false ↔ ∀ n, declared = .finite n → n ≤ maxBytes := by
  cases declared with
  | finite value =>
      constructor
      · intro h n hn
        cases hn
        exact not_lt.mp (of_decide_eq_false h)
      · intro h
        exact decide_eq_false (not_lt.mpr (h value rfl))
  | nan => exact ⟨fun _ _ => nofun, fun _ => rfl⟩
  | infinite negative => exact ⟨fun _ _ => nofun, fun _ => rfl⟩

theorem readWhole_eq_ok {runtime : Runtime} {declared : JsNumber} {body : Bytes} {maxBytes : ℕ}
    {value : Json} : readWhole runtime declared body maxBytes = .ok value ↔
      (∀ n, declared = .finite n → n ≤ maxBytes) ∧ body.length ≤ maxBytes ∧
        runtime.jsonParse (utf8ToString body) = some value := by
  rw [← exceeds_eq_false, readWhole]
  split
  · rename_i hexceeds
    constructor
    · exact nofun
    · intro h
      obtain ⟨hdeclared, hsize, -⟩ := h
      rcases hexceeds with habove | hlarge
      · exact absurd (hdeclared.symm.trans habove) Bool.false_ne_true
      · omega
  · rename_i hfits
    obtain ⟨hdeclared, hsize⟩ := not_or.mp hfits
    rw [require_eq_ok, and_iff_right (Bool.not_eq_true _ ▸ hdeclared),
      and_iff_right (not_lt.mp hsize)]

/-- **Reading a response is bounded and does not depend on how its body is cut.**  In no turn of the
loop do the chunks kept go beyond the limit; the outcome is the parse of the whole body exactly when
the declared length is no finite number above the limit, the whole body is within it and the body is
valid JSON; and two cuts of one body, under one header, have the same outcome. -/
theorem response_reading_bounded (runtime : Runtime) (maxBytes status : ℕ)
    (contentLength : Option JsString) (chunks : List Bytes) :
    (readChunks maxBytes 0 [] chunks =
        require ((Runs.run (keepChunk maxBytes) (0, []) chunks).map (·.2))
          "core-api Document state response exceeded the resource limit" ∧
      Runs.Throughout (keepChunk maxBytes) (fun kept => kept.2.flatten.length ≤ maxBytes) (0, [])
        chunks) ∧
    (∀ value, readBoundedJSON runtime ⟨status, contentLength, some chunks⟩ maxBytes = .ok value ↔
      (∀ n, declaredLength ⟨status, contentLength, some chunks⟩ = .finite n → n ≤ maxBytes) ∧
      chunks.flatten.length ≤ maxBytes ∧
      runtime.jsonParse (utf8ToString chunks.flatten) = some value) ∧
    ∀ chunks', chunks'.flatten = chunks.flatten →
      readBoundedJSON runtime ⟨status, contentLength, some chunks'⟩ maxBytes =
        readBoundedJSON runtime ⟨status, contentLength, some chunks⟩ maxBytes := by
  refine ⟨⟨readChunks_run maxBytes 0 [] chunks, kept_throughout maxBytes chunks⟩,
    fun value => ?_, fun chunks' hcut => ?_⟩
  · rw [readBoundedJSON_eq runtime rfl, readWhole_eq_ok]
  · rw [readBoundedJSON_eq runtime rfl, readBoundedJSON_eq runtime rfl, hcut]
    rfl

end SocketServer.Collaboration

import SocketServer.Chat.Handlers

/-!
# The request log

`requestLog` and `responseWriter` (`cmd/server/main.go`): a wrapper around the server's
`http.ResponseWriter` that notes a status and a number of bytes.  `Wire` is what `net/http` makes
of the calls that reach it: the first final status is sent, an informational one (1xx but 101) does
not count as such, a body or a flush sends 200 if nothing was sent yet, and after a hijack nothing
is sent any more.

The wrapper notes the status of the first `WriteHeader`, or 200 at the first `Write`.
`logged_iff` says for which calls that is the status sent.
-/

namespace SocketServer.Chat

open SocketServer.Text

/-- A status code that `WriteHeader` takes; on others it panics. -/
abbrev StatusCode := { n : ℕ // 100 ≤ n ∧ n ≤ 999 }

/-- The calls of a handler on its writer. -/
inductive Call where
  | writeHeader (status : StatusCode)
  | write (body : Bytes)
  | flush
  | hijack

/-! ### The server's writer -/

/-- The status sent, the bytes of the body taken, and whether the connection was hijacked. -/
structure Wire where
  status : Option ℕ
  body : ℕ
  hijacked : Bool

def informational (status : ℕ) : Bool := 100 ≤ status ∧ status ≤ 199 ∧ status ≠ 101

def bodyAllowed (status : ℕ) : Bool := ¬(100 ≤ status ∧ status ≤ 199) ∧ status ≠ 204 ∧ status ≠ 304

/-- The status line goes out, unless one has. -/
def Wire.commit (w : Wire) (status : ℕ) : Wire :=
  if w.hijacked ∨ w.status.isSome then w else { w with status := some status }

def Wire.writeHeader (w : Wire) (status : ℕ) : Wire :=
  if informational status then w else w.commit status

/-- The number of bytes taken, and the writer afterwards. -/
def Wire.write (w : Wire) (body : Bytes) : ℕ × Wire :=
  if w.hijacked then (0, w)
  else if (w.commit 200).status.all bodyAllowed then
    (body.length, { w.commit 200 with body := w.body + body.length })
  else (0, w.commit 200)

/-- The status that a client has been sent when the handler has returned: 200 if it did nothing,
and none on a connection taken over before. -/
def Wire.sent (w : Wire) : Option ℕ := if w.hijacked then w.status else some (w.status.getD 200)

/-! ### The wrapper -/

/-- `responseWriter`. -/
structure ResponseWriter where
  inner : Wire
  status : ℕ
  bytes : ℕ

def ResponseWriter.new : ResponseWriter := ⟨⟨none, 0, false⟩, 0, 0⟩

def ResponseWriter.writeHeader (w : ResponseWriter) (status : ℕ) : ResponseWriter :=
  { w with
    status := if w.status = 0 then status else w.status
    inner := w.inner.writeHeader status }

def ResponseWriter.write (w : ResponseWriter) (body : Bytes) : ResponseWriter :=
  { inner := (w.inner.write body).2
    status := if w.status = 0 then 200 else w.status
    bytes := w.bytes + (w.inner.write body).1 }

def ResponseWriter.flush (w : ResponseWriter) : ResponseWriter :=
  { w with inner := w.inner.commit 200 }

def ResponseWriter.hijack (w : ResponseWriter) : ResponseWriter :=
  { w with inner := { w.inner with hijacked := true } }

def ResponseWriter.call (w : ResponseWriter) : Call → ResponseWriter
  | .writeHeader status => w.writeHeader status
  | .write body => w.write body
  | .flush => w.flush
  | .hijack => w.hijack

/-- The status that `requestLog` logs. -/
def ResponseWriter.logged (w : ResponseWriter) : ℕ := if w.status = 0 then 200 else w.status

/-- The writer after a handler's calls. -/
def afterCalls (calls : List Call) : ResponseWriter :=
  calls.foldl ResponseWriter.call ResponseWriter.new

/-! ### Once a status is noted -/

/-- The status on the wire never changes. -/
theorem commit_status {w : Wire} {status : ℕ} (h : w.status.isSome = true) (other : ℕ) :
    w.status = some status → (w.commit other).status = some status := by
  intro hw
  rw [Wire.commit, if_pos (Or.inr h), hw]

theorem call_status {w : ResponseWriter} {status : ℕ} (h : w.inner.status = some status)
    (c : Call) : (w.call c).inner.status = some status := by
  have hsome : w.inner.status.isSome = true := by rw [h]; rfl
  have hcommit : ∀ other, (w.inner.commit other).status = some status := fun other =>
    commit_status hsome other h
  cases c with
  | writeHeader other =>
      show (w.inner.writeHeader other).status = some status
      unfold Wire.writeHeader
      split
      · exact h
      · exact hcommit _
  | write body =>
      show (w.inner.write body).2.status = some status
      unfold Wire.write
      split
      · exact h
      · split <;> exact hcommit 200
  | flush => exact hcommit 200
  | hijack => exact h

theorem call_noted {w : ResponseWriter} (h : w.status ≠ 0) (c : Call) :
    (w.call c).status = w.status := by
  cases c with
  | writeHeader other => exact if_neg h
  | write body => exact if_neg h
  | flush => rfl
  | hijack => rfl

/-- Both are settled: what is logged is what `w` has noted, what was sent is `status`. -/
theorem foldl_settled {w : ResponseWriter} {status : ℕ} (hwire : w.inner.status = some status)
    (hnoted : w.status ≠ 0) (calls : List Call) :
    (calls.foldl ResponseWriter.call w).inner.sent = some status ∧
      (calls.foldl ResponseWriter.call w).logged = w.status := by
  induction calls generalizing w with
  | nil =>
      refine ⟨?_, if_neg hnoted⟩
      show w.inner.sent = some status
      unfold Wire.sent
      split
      · exact hwire
      · rw [hwire]
        rfl
  | cons c calls ih =>
      have hstep := ih (call_status hwire c) (by rw [call_noted hnoted c]; exact hnoted)
      rw [call_noted hnoted c] at hstep
      exact hstep

/-- The wire has sent nothing yet but what is not informational. -/
def Wire.Final (w : Wire) : Prop := ∀ status, w.status = some status → informational status = false

theorem Wire.Final.commit {w : Wire} (h : w.Final) {status : ℕ}
    (hstatus : informational status = false) : (w.commit status).Final := by
  intro s hs
  unfold Wire.commit at hs
  split at hs
  · exact h s hs
  · cases hs
    exact hstatus

theorem Wire.Final.call {w : ResponseWriter} (h : w.inner.Final) (c : Call) :
    (w.call c).inner.Final := by
  have h200 : informational 200 = false := rfl
  cases c with
  | writeHeader status =>
      show (w.inner.writeHeader status).Final
      unfold Wire.writeHeader
      split
      · exact h
      · rename_i hinfo
        exact h.commit (by simpa using hinfo)
  | write body =>
      show (w.inner.write body).2.Final
      unfold Wire.write
      split
      · exact h
      · split <;> exact h.commit h200
  | flush => exact h.commit h200
  | hijack => exact h

/-- An informational status is noted but never sent as the answer. -/
theorem foldl_informational {w : ResponseWriter} (h : w.inner.Final)
    (hnoted : informational w.status = true) (calls : List Call) :
    (calls.foldl ResponseWriter.call w).inner.sent ≠
      some (calls.foldl ResponseWriter.call w).logged := by
  have hne : w.status ≠ 0 := by
    intro h0
    rw [h0] at hnoted
    cases hnoted
  induction calls generalizing w with
  | nil =>
      show w.inner.sent ≠ some w.logged
      rw [ResponseWriter.logged, if_neg hne]
      intro hsent
      unfold Wire.sent at hsent
      split at hsent
      · rw [h _ hsent] at hnoted
        cases hnoted
      · cases hw : w.inner.status with
        | none =>
            rw [hw, Option.getD_none, Option.some.injEq] at hsent
            rw [← hsent] at hnoted
            cases hnoted
        | some status =>
            rw [hw] at hsent
            cases hsent
            rw [h _ hw] at hnoted
            cases hnoted
  | cons c calls ih =>
      have hsame := call_noted hne c
      exact ih (h.call c) (by rw [hsame]; exact hnoted) (by rw [hsame]; exact hne)

/-- A connection taken over before an answer gets none. -/
theorem foldl_hijacked {w : ResponseWriter} (hhijacked : w.inner.hijacked = true)
    (hnone : w.inner.status = none) (calls : List Call) :
    (calls.foldl ResponseWriter.call w).inner.sent = none := by
  have hcommit : ∀ other, w.inner.commit other = w.inner := fun other =>
    if_pos (Or.inl hhijacked)
  induction calls generalizing w with
  | nil =>
      show w.inner.sent = none
      rw [Wire.sent, if_pos hhijacked, hnone]
  | cons c calls ih =>
      have hsame : (w.call c).inner = w.inner := by
        cases c with
        | writeHeader status =>
            show w.inner.writeHeader status = w.inner
            unfold Wire.writeHeader
            split
            · rfl
            · exact hcommit _
        | write body =>
            show (w.inner.write body).2 = w.inner
            rw [Wire.write, if_pos hhijacked]
        | flush => exact hcommit 200
        | hijack =>
            show ({ w.inner with hijacked := true } : Wire) = w.inner
            rw [← hhijacked]
      exact ih (by rw [hsame]; exact hhijacked) (by rw [hsame]; exact hnone)
        (by rw [hsame]; exact hcommit)

/-! ### When the log is right -/

/-- The calls after which the log shows the status sent; `flushed` is whether a flush has sent 200.
The first `WriteHeader` or `Write` decides. -/
def Faithful : Bool → List Call → Prop
  | _, [] => True
  | _, .write _ :: _ => True
  | flushed, .writeHeader status :: _ =>
      status.val = 200 ∨ flushed = false ∧ informational status = false
  | _, .flush :: calls => Faithful true calls
  | true, .hijack :: calls => Faithful true calls
  | false, .hijack :: _ => False

/-- A writer that has noted no status and sent at most a flush's 200. -/
structure Unnoted (flushed : Bool) (w : ResponseWriter) : Prop where
  status : w.status = 0
  wire : w.inner.status = if flushed then some 200 else none
  connected : flushed = false → w.inner.hijacked = false

theorem commit_unnoted {w : ResponseWriter} (h : Unnoted false w) (status : ℕ) :
    (w.inner.commit status).status = some status := by
  rw [Wire.commit, if_neg]
  rw [h.connected rfl, h.wire]
  simp

theorem write_unnoted {flushed : Bool} {w : ResponseWriter} (h : Unnoted flushed w) (body : Bytes) :
    (w.inner.write body).2.status = some 200 := by
  cases flushed with
  | true => exact call_status h.wire (.write body)
  | false =>
      unfold Wire.write
      rw [h.connected rfl]
      have hcommit := commit_unnoted h 200
      simp only [Bool.false_eq_true, if_false]
      split <;> exact hcommit

theorem faithful_foldl {flushed : Bool} {w : ResponseWriter} (h : Unnoted flushed w)
    (calls : List Call) :
    (calls.foldl ResponseWriter.call w).inner.sent =
      some (calls.foldl ResponseWriter.call w).logged ↔ Faithful flushed calls := by
  induction calls generalizing flushed w with
  | nil =>
      refine iff_of_true ?_ trivial
      show w.inner.sent = some w.logged
      rw [ResponseWriter.logged, if_pos h.status, Wire.sent, h.wire]
      cases flushed with
      | true => split <;> rfl
      | false => rw [h.connected rfl]; rfl
  | cons c calls ih =>
      rw [List.foldl_cons]
      cases c with
      | write body =>
          have hnoted : (w.write body).status = 200 := if_pos h.status
          obtain ⟨hsent, hlogged⟩ := @foldl_settled (w.write body) 200 (write_unnoted h body)
            (by rw [hnoted]; simp) calls
          exact iff_of_true (by rw [show w.call (.write body) = w.write body from rfl, hsent,
            hlogged, hnoted]) trivial
      | writeHeader status =>
          have hnoted : (w.writeHeader status).status = status := if_pos h.status
          have hne : (w.writeHeader status).status ≠ 0 := by
            have := status.property.1
            omega
          show (calls.foldl ResponseWriter.call (w.writeHeader status)).inner.sent =
            some (calls.foldl ResponseWriter.call (w.writeHeader status)).logged ↔ _
          cases flushed with
          | true =>
              -- the flush has sent 200, whatever the handler asks for now
              obtain ⟨hsent, hlogged⟩ := foldl_settled
                (call_status h.wire (.writeHeader status)) hne calls
              change (calls.foldl ResponseWriter.call (w.writeHeader status)).inner.sent = _ at hsent
              change (calls.foldl ResponseWriter.call (w.writeHeader status)).logged = _ at hlogged
              rw [hsent, hlogged]
              simp only [Faithful, Bool.true_eq_false, false_and, or_false, Option.some.injEq]
              exact (eq_comm).trans (by rw [← hnoted]; rfl)
          | false =>
              cases hinfo : informational status with
              | false =>
                  have hwire : (w.writeHeader status).inner.status = some status.val := by
                    show (w.inner.writeHeader status).status = _
                    rw [Wire.writeHeader, hinfo]
                    exact commit_unnoted h status
                  obtain ⟨hsent, hlogged⟩ := foldl_settled hwire hne calls
                  rw [hsent, hlogged, hnoted]
                  exact iff_of_true rfl (Or.inr ⟨rfl, hinfo⟩)
              | true =>
                  have hfinal : (w.writeHeader status).inner.Final := by
                    show (w.inner.writeHeader status).Final
                    rw [Wire.writeHeader, hinfo]
                    intro s hs
                    rw [if_pos rfl, h.wire] at hs
                    cases hs
                  refine iff_of_false (foldl_informational hfinal (by rw [hnoted, hinfo]) calls) ?_
                  rintro (h200 | ⟨-, hnot⟩)
                  · rw [h200] at hinfo
                    cases hinfo
                  · rw [hinfo] at hnot
                    cases hnot
      | flush =>
          refine @ih true _ ⟨h.status, ?_, nofun⟩
          show (w.inner.commit 200).status = some 200
          cases flushed with
          | true => exact commit_status (by rw [h.wire]; rfl) 200 h.wire
          | false => exact commit_unnoted h 200
      | hijack =>
          cases flushed with
          | true => exact ih ⟨h.status, h.wire, nofun⟩
          | false =>
              have hnone := @foldl_hijacked w.hijack rfl h.wire calls
              refine iff_of_false (fun hsent => ?_) id
              exact nomatch hnone.symm.trans hsent

theorem foldl_bytes {w : ResponseWriter} (h : w.bytes = w.inner.body) (calls : List Call) :
    (calls.foldl ResponseWriter.call w).bytes = (calls.foldl ResponseWriter.call w).inner.body := by
  have hcommit : ∀ status, (w.inner.commit status).body = w.inner.body := by
    intro status
    unfold Wire.commit
    split <;> rfl
  induction calls generalizing w with
  | nil => exact h
  | cons c calls ih =>
      have hstep : (w.call c).bytes = (w.call c).inner.body := by
        cases c with
        | writeHeader status =>
            show w.bytes = (w.inner.writeHeader status).body
            unfold Wire.writeHeader
            split
            · exact h
            · rw [hcommit, h]
        | write body =>
            show w.bytes + (w.inner.write body).1 = (w.inner.write body).2.body
            unfold Wire.write
            split
            · exact h
            · split
              · rw [h]
              · rw [hcommit]
                exact h
        | flush => exact h.trans (hcommit 200).symm
        | hijack => exact h
      refine ih hstep fun status => ?_
      unfold Wire.commit
      split <;> rfl

/-- **The request log shows what was sent, exactly when the calls are faithful.**  For every
sequence of calls that a handler makes on its writer: the bytes logged are those that the server
took, and the status logged is the one that the client was sent if and only if the first
`WriteHeader` or `Write` is not a `WriteHeader` that comes too late for its status or announces an
informational one, nor comes after the connection was taken over. -/
theorem logged_iff (calls : List Call) :
    (afterCalls calls).bytes = (afterCalls calls).inner.body ∧
      ((afterCalls calls).inner.sent = some (afterCalls calls).logged ↔ Faithful false calls) :=
  ⟨foldl_bytes rfl calls, faithful_foldl ⟨rfl, rfl, fun _ => rfl⟩ calls⟩

end SocketServer.Chat

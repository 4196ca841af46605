import Mathlib.Data.List.Basic

/-!
# Buffered channels of the Go runtime

A channel made by `make(chan β, cap)`: a FIFO buffer that never holds more than `cap` values and
a closed flag.  The three operations are the runtime's.

* `trySend` is a send that is ready to proceed or falls through (`select` with a `default`, or a
  blocking send seen from outside: `full` then means that the sender stays blocked).  On a closed
  channel it panics.
* `recv` takes the oldest value; on an empty channel it reports the close, or blocks.  Values
  buffered before the close are still delivered after it.
* `close` panics on a channel that is closed already.

The bound on the buffer is a field, so that no channel over its capacity can be built.
-/

namespace SocketServer.GoChannel

/-- A channel of capacity `cap`. -/
@[ext] structure Chan (β : Type*) (cap : ℕ) where
  buffer : List β
  closed : Bool
  fits : buffer.length ≤ cap

variable {β : Type*} {cap : ℕ}

/-- `make(chan β, cap)`. -/
def Chan.make (β : Type*) (cap : ℕ) : Chan β cap where
  buffer := []
  closed := false
  fits := Nat.zero_le cap

/-- What a send attempt comes to. -/
inductive SendResult (β : Type*) (cap : ℕ) where
  | sent (ch : Chan β cap)
  | full
  | panic

/-- A send attempt. -/
def Chan.trySend (ch : Chan β cap) (m : β) : SendResult β cap :=
  if ch.closed then .panic
  else if h : ch.buffer.length < cap then
    .sent { ch with buffer := ch.buffer ++ [m], fits := by simpa using Nat.succ_le_of_lt h }
  else .full

/-- What a receive comes to: a value, the news that the channel is closed and drained, or neither
(the receiver blocks). -/
inductive RecvResult (β : Type*) (cap : ℕ) where
  | value (m : β) (ch : Chan β cap)
  | closed
  | blocked

/-- A receive. -/
def Chan.recv (ch : Chan β cap) : RecvResult β cap :=
  match hb : ch.buffer with
  | m :: rest =>
      .value m { ch with
        buffer := rest
        fits := Nat.le_trans (Nat.le_succ rest.length) (by simpa [hb] using ch.fits) }
  | [] => if ch.closed then .closed else .blocked

/-- Closing a channel; `none` is the panic of a second close. -/
def Chan.close (ch : Chan β cap) : Option (Chan β cap) :=
  if ch.closed then none else some { ch with closed := true }

@[simp] theorem make_buffer : (Chan.make β cap).buffer = [] := rfl

@[simp] theorem make_closed : (Chan.make β cap).closed = false := rfl

/-- A send that goes through: the channel was open and had room, and gains the value at its end. -/
theorem trySend_eq_sent {ch ch' : Chan β cap} {m : β} (h : ch.trySend m = .sent ch') :
    ch.closed = false ∧ ch.buffer.length < cap ∧
      ch'.buffer = ch.buffer ++ [m] ∧ ch'.closed = false := by
  unfold Chan.trySend at h
  split at h
  · cases h
  · rename_i hopen
    split at h
    · rename_i hroom
      cases h
      exact ⟨by simpa using hopen, hroom, rfl, by simpa using hopen⟩
    · cases h

theorem trySend_eq_full {ch : Chan β cap} {m : β} (h : ch.trySend m = .full) :
    ch.closed = false ∧ ch.buffer.length = cap := by
  unfold Chan.trySend at h
  split at h
  · cases h
  · rename_i hopen
    split at h
    · cases h
    · rename_i hroom
      exact ⟨by simpa using hopen, Nat.le_antisymm ch.fits (by omega)⟩

theorem trySend_eq_panic {ch : Chan β cap} {m : β} (h : ch.trySend m = .panic) :
    ch.closed = true := by
  unfold Chan.trySend at h
  split at h
  · assumption
  · split at h <;> cases h

/-- A receive that yields a value takes the oldest one and leaves the flag alone. -/
theorem recv_eq_value {ch ch' : Chan β cap} {m : β} (h : ch.recv = .value m ch') :
    ch.buffer = m :: ch'.buffer ∧ ch'.closed = ch.closed := by
  unfold Chan.recv at h
  split at h
  · rename_i hb
    cases h
    exact ⟨hb, rfl⟩
  · split at h <;> cases h

/-- The close is reported only once the buffer is drained. -/
theorem recv_eq_closed {ch : Chan β cap} (h : ch.recv = .closed) :
    ch.buffer = [] ∧ ch.closed = true := by
  unfold Chan.recv at h
  split at h
  · cases h
  · rename_i hb
    split at h
    · exact ⟨hb, by assumption⟩
    · cases h

theorem close_eq_some {ch ch' : Chan β cap} (h : ch.close = some ch') :
    ch.closed = false ∧ ch'.buffer = ch.buffer ∧ ch'.closed = true := by
  unfold Chan.close at h
  split at h
  · cases h
  · rename_i hopen
    cases h
    exact ⟨by simpa using hopen, rfl, rfl⟩

theorem close_eq_none {ch : Chan β cap} (h : ch.close = none) : ch.closed = true := by
  unfold Chan.close at h
  split at h
  · assumption
  · cases h

end SocketServer.GoChannel

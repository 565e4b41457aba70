/-!
# Channels

A signal says that something may have changed. A channel holds signals until they are received, as
many as it has room for. It is closed when nobody can send any more and all its signals are
received.
-/

namespace Signpost.Signal

structure Channel where
  /-- How many signals there is room for. -/
  capacity : Nat
  held : Nat := 0
  /-- Whether someone can still send. -/
  sender : Bool := true
  /-- Whether someone can still receive. -/
  receiver : Bool := true
  deriving DecidableEq, Repr

/-- What becomes of a signal that is sent. -/
inductive Sent
  | accepted
  | full
  /-- Nobody can receive it. -/
  | closed
  /-- Nobody can send it. -/
  | noSender
  deriving DecidableEq, Repr

inductive Received
  | signal
  /-- There is no signal yet. -/
  | pending
  /-- There will be no signal any more. -/
  | closed
  /-- Nobody can receive. -/
  | noReceiver
  deriving DecidableEq, Repr

namespace Channel

/-- A channel that holds some signals from the beginning. -/
def holding (capacity signals : Nat) : Channel :=
  { capacity, held := min signals capacity }

def hasRoom (c : Channel) : Bool :=
  decide (c.held < c.capacity)

/-- Sends a signal if there is room. -/
def trySend (c : Channel) : Sent × Channel :=
  if !c.sender then (.noSender, c)
  else if !c.receiver then (.closed, c)
  else if c.hasRoom then (.accepted, { c with held := c.held + 1 })
  else (.full, c)

def receive (c : Channel) : Received × Channel :=
  if !c.receiver then (.noReceiver, c)
  else if 0 < c.held then (.signal, { c with held := c.held - 1 })
  else if c.sender then (.pending, c)
  else (.closed, c)

/-- Nobody sends any more. -/
def close (c : Channel) : Channel :=
  { c with sender := false }

/-- Nobody receives any more; what is held is lost. -/
def abandon (c : Channel) : Channel :=
  { c with receiver := false, held := 0 }

/-- What is left to do with a channel: each signal takes some steps, and so does the end. -/
def work (cost : Nat) (c : Channel) : Nat :=
  cost * c.held + if c.sender then 1 else 0

theorem work_close_le (cost : Nat) (c : Channel) : c.close.work cost ≤ c.work cost := by
  simp [work, close]

theorem work_close_lt {cost : Nat} {c : Channel} (h : c.sender = true) :
    c.close.work cost < c.work cost := by
  simp [work, close, h]

theorem work_abandon_le (cost : Nat) (c : Channel) : c.abandon.work cost ≤ c.work cost := by
  exact Nat.add_le_add_right (Nat.zero_le _) _

theorem work_of_receive {cost : Nat} {c rest : Channel} (h : c.receive = (.signal, rest)) :
    rest.work cost + cost = c.work cost := by
  unfold receive at h
  split at h
  · simp at h
  · split at h
    · rename_i held
      obtain rfl : { c with held := c.held - 1 } = rest := by simpa using h
      obtain ⟨n, hn⟩ := Nat.exists_eq_add_of_lt held
      simp [work, hn, Nat.mul_add]
      omega
    · split at h <;> simp at h

theorem work_of_trySend {cost : Nat} {c next : Channel} (h : c.trySend = (.accepted, next)) :
    next.work cost = c.work cost + cost := by
  unfold trySend at h
  split at h
  · simp at h
  · split at h
    · simp at h
    · split at h
      · obtain rfl : { c with held := c.held + 1 } = next := by simpa using h
        simp [work, Nat.mul_add]
        omega
      · simp at h

end Channel

end Signpost.Signal

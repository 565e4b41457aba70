import Signpost.Proofs.Feeds

/-!
# Channels with room for one signal

A provider sends its signals into a channel that has room for one. A signal that finds the room
taken is one with the signal that is there, so that at most one waits.
-/

namespace Signpost.Proofs
open Signal

/-- A channel with room for one signal that someone can receive. -/
structure OneSlot (c : Channel) : Prop where
  capacity : c.capacity = 1
  held : c.held ≤ 1
  receiver : c.receiver = true

/-- A channel with room for one signal that someone can still send into. -/
structure OpenSlot (c : Channel) : Prop extends OneSlot c where
  sender : c.sender = true

variable {c : Channel}

lemma oneSlot_holding : OneSlot (.holding 1 1) :=
  ⟨rfl, Nat.le_refl 1, rfl⟩

section Receiving

/-- Receiving takes a signal away if there is one. -/
lemma receive_of_receiver (receiver : c.receiver = true) :
    (if c.receive.1 = .signal then 1 else 0) + c.receive.2.held = c.held ∧
      c.receive.2 = { c with held := c.held - 1 } := by
  by_cases held : 0 < c.held
  · rw [receive_of_held receiver held]
    have sum : 1 + (c.held - 1) = c.held := by omega
    exact ⟨by simpa using sum, rfl⟩
  · obtain ⟨capacity, signals, sender, _⟩ := c
    obtain rfl : signals = 0 := Nat.eq_zero_of_not_pos held
    obtain rfl : _ = true := receiver
    cases sender with
    | true => exact ⟨rfl, rfl⟩
    | false => exact ⟨rfl, rfl⟩

lemma oneSlot_less (h : OneSlot c) : OneSlot { c with held := c.held - 1 } :=
  ⟨h.capacity, Nat.le_trans (Nat.sub_le _ _) h.held, h.receiver⟩

lemma oneSlot_receive (h : OneSlot c) : OneSlot c.receive.2 := by
  rw [(receive_of_receiver h.receiver).2]
  exact oneSlot_less h

end Receiving

section Sending

lemma sender_trySend (c : Channel) : c.trySend.2.sender = c.sender := by
  rcases trySend_cases c with ⟨-, hs⟩ | ⟨-, -, hs⟩ | ⟨-, -, -, hs⟩ | ⟨-, -, -, hs⟩ <;> rw [hs]

lemma oneSlot_trySend (h : OneSlot c) : OneSlot c.trySend.2 := by
  rcases trySend_cases c with ⟨-, hs⟩ | ⟨-, -, hs⟩ | ⟨-, -, room, hs⟩ | ⟨-, -, -, hs⟩ <;> rw [hs]
  · exact h
  · exact h
  · rw [h.capacity] at room
    exact ⟨h.capacity, Nat.succ_le_of_lt room, h.receiver⟩
  · exact h

lemma oneSlot_channelStep {after : Channel} (h : OneSlot c) (step : ChannelStep c after) :
    OneSlot after := by
  cases step with
  | same => exact h
  | close => exact ⟨h.capacity, h.held, h.receiver⟩
  | send => exact oneSlot_trySend h

lemma openSlot_trySend (h : OpenSlot c) : OpenSlot c.trySend.2 :=
  ⟨oneSlot_trySend h.toOneSlot, (sender_trySend c).trans h.sender⟩

/-- A signal that is sent into an open channel is in the channel then, or one with the signal that
is there. -/
lemma sent_of_openSlot (h : OpenSlot c) : c.trySend.1 = .accepted ∨ c.trySend.1 = .full := by
  rcases trySend_cases c with ⟨gone, -⟩ | ⟨-, gone, -⟩ | ⟨-, -, -, hs⟩ | ⟨-, -, -, hs⟩
  · rw [h.sender] at gone
    cases gone
  · rw [h.receiver] at gone
    cases gone
  · rw [hs]
    exact .inl rfl
  · rw [hs]
    exact .inr rfl

/-- A second signal changes nothing. -/
lemma trySend_of_taken (h : OneSlot c) (taken : c.held = 1) : c.trySend.2 = c := by
  rcases trySend_cases c with ⟨-, hs⟩ | ⟨-, -, hs⟩ | ⟨-, -, room, -⟩ | ⟨-, -, -, hs⟩
  · rw [hs]
  · rw [hs]
  · rw [h.capacity, taken] at room
    exact absurd room (Nat.lt_irrefl 1)
  · rw [hs]

end Sending

end Signpost.Proofs

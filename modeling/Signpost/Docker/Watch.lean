import Signpost.Docker.Daemon
import Signpost.Signal.Channel

/-!
# Watching the daemon

A watch reads the events of the daemon and sends a signal for each that may change the rules. When
the stream ends, it subscribes again after a while and sends a signal for what it may have missed.
Each step leaves less work while the time stands still.
-/

namespace Signpost.Docker

open Signpost.Signal (Channel)

/-- What a watch is doing. -/
inductive Stage
  | reading (s : Stream)
  /-- The stream goes on at a time. -/
  | silent (s : Stream) (due : Nat)
  /-- It waits for room for a signal and then goes on with the stream. -/
  | notifying (s : Stream)
  /-- It subscribes again at a time. -/
  | resting (due : Nat)
  | ended
  deriving DecidableEq, Repr

/-- The least time between the end of a stream and the next subscription, in milliseconds. -/
def leastRest : Nat := 1000

/-- The time between the end of a stream and the next subscription. -/
def rest (s : Settings.Docker) : Nat :=
  waited (max (Policy.ofSettings s.retrying).interval leastRest)

structure Watch where
  stage : Stage
  daemon : Daemon
  channel : Channel

namespace Watch

/-- Subscribes for the first time. There is a signal from the beginning. -/
def start (d : Daemon) : Watch :=
  let (stream, daemon) := d.subscribe
  { stage := .reading stream, daemon, channel := .holding 1 1 }

/-- Ends the watch and closes its channel. -/
def finish (w : Watch) : Watch :=
  { w with stage := .ended, channel := w.channel.close }

/-- Reads the next item of a stream. -/
def read? (s : Settings.Docker) (now : Nat) (w : Watch) : Stream → Option Watch
  | ⟨[], false⟩ => none
  | ⟨[], true⟩ => some { w with stage := .resting (now + rest s) }
  | ⟨.silence ms :: items, ends⟩ => some { w with stage := .silent ⟨items, ends⟩ (now + waited ms) }
  | ⟨.fault _ :: items, ends⟩ => some { w with stage := .reading ⟨items, ends⟩ }
  | ⟨.event e :: items, ends⟩ =>
    if e.isRelevant s then some { w with stage := .notifying ⟨items, ends⟩ }
    else some { w with stage := .reading ⟨items, ends⟩ }

/-- Sends the signal and goes on with the stream. Without a receiver the watch ends. -/
def notify? (w : Watch) (stream : Stream) : Option Watch :=
  match w.channel.trySend with
  | (.accepted, channel) => some { w with stage := .reading stream, channel }
  | (.full, _) => none
  | _ => some w.finish

/-- Subscribes again. -/
def resubscribe (w : Watch) : Watch :=
  let (stream, daemon) := w.daemon.subscribe
  { w with stage := .notifying stream, daemon }

/-- The step that a watch can take at the time `now`, if any. A request to stop comes first. -/
def step? (s : Settings.Docker) (now : Nat) (cancelled : Bool) (w : Watch) : Option Watch :=
  match w.stage with
  | .ended => none
  | stage =>
    if cancelled then some w.finish
    else
      match stage with
      | .reading stream => w.read? s now stream
      | .silent stream due => if due ≤ now then some { w with stage := .reading stream } else none
      | .notifying stream => w.notify? stream
      | .resting due => if due ≤ now then some w.resubscribe else none
      | .ended => none

end Watch

/-- How many steps a watch can take at most at the time `now`, if no stream has more than `items`
items. -/
def Stage.work (now items : Nat) : Stage → Nat
  | reading stream => 2 * stream.size + 2
  | silent stream _ => 2 * stream.size + 3
  | notifying stream => 2 * stream.size + 3
  | resting due => if due ≤ now then 2 * items + 4 else 1
  | ended => 0

namespace Watch

/-- What a step leaves as it was, and that less is left to do after it. What one signal takes, which
is up to `cost`, is part of what was to do before. -/
structure Less (now items cost : Nat) (before after : Watch) : Prop where
  daemon : after.daemon.size = before.daemon.size
  stage : after.stage.work now items < before.stage.work now items
  work : (cost + 1) * after.stage.work now items + after.channel.work cost <
    (cost + 1) * before.stage.work now items + before.channel.work cost

theorem less_finish {now items cost : Nat} {w : Watch} (h : 0 < w.stage.work now items) :
    Less now items cost w w.finish where
  daemon := rfl
  stage := h
  work := by
    have hclose := w.channel.work_close_le cost
    have hpos : 0 < (cost + 1) * w.stage.work now items := Nat.mul_pos (Nat.succ_pos cost) h
    change (cost + 1) * 0 + w.channel.close.work cost < _
    omega

/-- A step that leaves the channel as it is and takes away some work. -/
theorem less_of_stage {now items cost : Nat} {before after : Watch}
    (daemon : after.daemon.size = before.daemon.size) (channel : after.channel = before.channel)
    (stage : after.stage.work now items < before.stage.work now items) :
    Less now items cost before after where
  daemon
  stage
  work := by
    rw [channel]
    exact Nat.add_lt_add_right (Nat.mul_lt_mul_of_pos_left stage (Nat.succ_pos cost)) _

theorem less_read? {s : Settings.Docker} {now items cost : Nat} {w next : Watch} {stream : Stream}
    (hstage : w.stage = .reading stream) (h : w.read? s now stream = some next) :
    Less now items cost w next := by
  have hrest : now < now + rest s := by
    simp only [rest, waited, leastRest, longestWait]
    omega
  unfold read? at h
  split at h
  · simp at h
  · obtain rfl : _ = next := by simpa using h
    exact less_of_stage rfl rfl (by simp [hstage, Stage.work, Stream.size, Nat.not_le.2 hrest])
  · obtain rfl : _ = next := by simpa using h
    exact less_of_stage rfl rfl (by simp [hstage, Stage.work, Stream.size]; omega)
  · obtain rfl : _ = next := by simpa using h
    exact less_of_stage rfl rfl (by simp [hstage, Stage.work, Stream.size])
  · split at h
    · obtain rfl : _ = next := by simpa using h
      exact less_of_stage rfl rfl (by simp [hstage, Stage.work, Stream.size]; omega)
    · obtain rfl : _ = next := by simpa using h
      exact less_of_stage rfl rfl (by simp [hstage, Stage.work, Stream.size])

theorem less_notify? {now items cost : Nat} {w next : Watch} {stream : Stream}
    (hstage : w.stage = .notifying stream) (h : w.notify? stream = some next) :
    Less now items cost w next := by
  unfold notify? at h
  split at h
  · rename_i channel hsend
    obtain rfl : _ = next := by simpa using h
    have hchannel : channel.work cost = _ := Signal.Channel.work_of_trySend hsend
    refine ⟨rfl, by simp [hstage, Stage.work], ?_⟩
    simp only [hstage, Stage.work, hchannel, Nat.mul_add]
    omega
  · simp at h
  · obtain rfl : _ = next := by simpa using h
    exact less_finish (by simp [hstage, Stage.work])

/-- Each step leaves less to do. -/
theorem less_step? {s : Settings.Docker} {now items cost : Nat} {cancelled : Bool} {w next : Watch}
    (hitems : w.daemon.size ≤ items) (h : w.step? s now cancelled = some next) :
    Less now items cost w next := by
  unfold step? at h
  cases hstage : w.stage with
  | ended => simp [hstage] at h
  | reading stream =>
    cases cancelled with
    | true =>
      obtain rfl : w.finish = next := by simpa [hstage] using h
      exact less_finish (by simp [hstage, Stage.work])
    | false => exact less_read? hstage (by simpa [hstage] using h)
  | silent stream due =>
    cases cancelled with
    | true =>
      obtain rfl : w.finish = next := by simpa [hstage] using h
      exact less_finish (by simp [hstage, Stage.work])
    | false =>
      obtain ⟨_, rfl⟩ : due ≤ now ∧ _ = next := by simpa [hstage] using h
      exact less_of_stage rfl rfl (by simp [hstage, Stage.work])
  | notifying stream =>
    cases cancelled with
    | true =>
      obtain rfl : w.finish = next := by simpa [hstage] using h
      exact less_finish (by simp [hstage, Stage.work])
    | false => exact less_notify? hstage (by simpa [hstage] using h)
  | resting due =>
    cases cancelled with
    | true =>
      obtain rfl : w.finish = next := by simpa [hstage] using h
      exact less_finish (by simp only [hstage, Stage.work]; split <;> omega)
    | false =>
      obtain ⟨hdue, rfl⟩ : due ≤ now ∧ w.resubscribe = next := by simpa [hstage] using h
      have hstream := w.daemon.size_subscribe_fst_le
      exact less_of_stage rfl rfl (by
        simp only [hstage, Stage.work, hdue, if_true, resubscribe]
        omega)

end Watch

/-- When a watch goes on by itself, if it waits for a time. -/
def Stage.due? : Stage → Option Nat
  | silent _ due => some due
  | resting due => some due
  | _ => none

end Signpost.Docker

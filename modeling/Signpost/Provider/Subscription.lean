import Signpost.Docker.Watch
import Signpost.Files.Edit
import Signpost.Provider

/-!
# Subscriptions

A provider tells by signals that its rules may have changed. There is a signal from the beginning;
the channel is closed when the provider is told to stop.
-/

namespace Signpost

open Signpost.Signal (Channel)

/-- What keeps the signals of a provider going. -/
inductive Feed
  /-- All signals come from outside, and so does the end. -/
  | told
  /-- There are no more signals, only an end. -/
  | still
  /-- A change of a file gives a signal. -/
  | file (watch : Option Files.Watch)
  /-- The events of the daemon give signals. -/
  | docker (stage : Docker.Stage)
  deriving DecidableEq, Repr

/-- A provider with the channel of its signals. -/
structure Subscription where
  provider : Provider
  feed : Feed
  channel : Channel

namespace Subscription

/-- Subscribes to the signals of a provider. -/
def start (files : Files.Tree) : Provider → Subscription
  | .told t => ⟨.told t, .told, .holding t.capacity t.initial⟩
  | .static lines => ⟨.static lines, .still, .holding 1 1⟩
  | .file path =>
    ⟨.file path, .file (Files.Watch.start files path).toOption, .holding 1 1⟩
  | .docker s d =>
    let w := Docker.Watch.start d
    ⟨.docker s w.daemon, .docker w.stage, w.channel⟩

/-- Closes the channel of a provider that is told to stop. -/
def stop? (cancelled : Bool) (s : Subscription) : Option Subscription :=
  if cancelled && s.channel.sender then some { s with channel := s.channel.close } else none

/-- The step that a subscription can take at the time `now`, if any. -/
def step? (now : Nat) (cancelled : Bool) (s : Subscription) : Option Subscription :=
  match s.feed with
  | .told => none
  | .still => s.stop? cancelled
  | .file _ => s.stop? cancelled
  | .docker stage =>
    match s.provider with
    | .docker settings d =>
      match Docker.Watch.step? settings now cancelled ⟨stage, d, s.channel⟩ with
      | some w => some ⟨.docker settings w.daemon, .docker w.stage, w.channel⟩
      | none => none
    | _ => none

/-- Tells of a change of the files. A signal without room is one with the signal that waits. -/
def notice (files : Files.Tree) (e : Files.Edit) (s : Subscription) : Subscription :=
  match s.feed with
  | .file (some watch) =>
    if watch.notices files e then { s with channel := s.channel.trySend.2 } else s
  | _ => s

/-- When the subscription goes on by itself, if it waits for a time. -/
def due? (s : Subscription) : Option Nat :=
  match s.feed with
  | .docker stage => stage.due?
  | _ => none

end Subscription

/-- How many steps a feed can take by itself at the time `now`, if no stream has more than `items`
items. -/
def Feed.work (now items : Nat) : Feed → Nat
  | docker stage => stage.work now items
  | _ => 0

namespace Subscription

/-- What is left to do at the time `now`. A signal that is received takes `cost` steps. -/
def work (cost now items : Nat) (s : Subscription) : Nat :=
  (cost + 1) * s.feed.work now items + s.channel.work cost

/-- Each step leaves less to do. -/
theorem work_step?_lt {cost now items : Nat} {cancelled : Bool} {s next : Subscription}
    (hitems : s.provider.size ≤ items) (h : s.step? now cancelled = some next) :
    s.provider.Alike next.provider ∧ next.work cost now items < s.work cost now items := by
  have stop (hstop : s.stop? cancelled = some next) :
      s.provider.Alike next.provider ∧ next.work cost now items < s.work cost now items := by
    unfold stop? at hstop
    split at hstop
    · rename_i hopen
      obtain rfl : _ = next := by simpa using hstop
      simp only [Bool.and_eq_true] at hopen
      exact ⟨⟨rfl, rfl⟩, Nat.add_lt_add_left (Signal.Channel.work_close_lt hopen.2) _⟩
    · simp at hstop
  unfold step? at h
  split at h
  · simp at h
  · exact stop h
  · exact stop h
  · rename_i stage hfeed
    split at h
    · rename_i settings d hprovider
      split at h
      · rename_i w hw
        obtain rfl : _ = next := by simpa using h
        simp only [hprovider, Provider.size] at hitems
        have hless : Docker.Watch.Less now items cost _ _ := Docker.Watch.less_step? hitems hw
        refine ⟨⟨by simpa [hprovider, Provider.size] using hless.daemon, by
          simp [hprovider, Provider.attempts]⟩, ?_⟩
        simpa [work, hfeed, Feed.work] using hless.work
      · simp at h
    · simp at h

end Subscription

end Signpost

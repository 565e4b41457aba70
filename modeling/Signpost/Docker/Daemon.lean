import Signpost.Docker.Event
import Signpost.Docker.Retry
import Signpost.Total

/-!
# The daemon

What the container daemon answers, one request after the other.
-/

namespace Signpost.Docker

/-- What a stream of events brings. -/
inductive Item
  | event (e : Event)
  | fault (f : Fault)
  /-- Nothing for some time. -/
  | silence (ms : Nat)
  deriving DecidableEq, Repr

/-- A stream of events. After its items it ends or is silent for good. -/
structure Stream where
  items : List Item := []
  ends : Bool := false
  deriving DecidableEq, Repr

/-- How many items a stream has left. -/
def Stream.size (s : Stream) : Nat :=
  s.items.length

structure Daemon where
  /-- The answers to the requests for the containers; the last one is repeated. -/
  lists : List (Attempt (List Container)) := []
  /-- How many of these requests there were. -/
  asked : Nat := 0
  /-- The streams of the subscriptions; all further ones are silent. -/
  streams : List Stream := []
  /-- How many subscriptions there were. -/
  subscribed : Nat := 0

namespace Daemon

/-- The answer to a request for the containers, counted from zero. -/
def list (d : Daemon) (n : Nat) : Attempt (List Container) :=
  match d.lists[n]? with
  | some answer => answer
  | none => d.lists.getLast?.getD { result := .ok [] }

/-- The answer to the next request for the containers. -/
def ask (d : Daemon) : Attempt (List Container) × Daemon :=
  (d.list d.asked, { d with asked := d.asked + 1 })

/-- The stream of the next subscription. -/
def subscribe (d : Daemon) : Stream × Daemon :=
  (d.streams[d.subscribed]?.getD {}, { d with subscribed := d.subscribed + 1 })

/-- How many items the streams of all subscriptions have. -/
def size (d : Daemon) : Nat :=
  total Stream.size d.streams

theorem size_ask (d : Daemon) : d.ask.2.size = d.size := rfl

theorem size_subscribe_fst_le (d : Daemon) : d.subscribe.1.size ≤ d.size := by
  simp only [subscribe]
  cases h : d.streams[d.subscribed]? with
  | none => simp [Stream.size]
  | some stream => exact le_total h

/-- Whether the containers that do not run are asked for too. -/
def asksForAll : Bool := false

/-- Asks for the containers as often as the settings allow and makes their rules, if nothing else
asks in between. The request to stop comes after a wait, if at all. -/
def rules (d : Daemon) (s : Settings.Docker) (wait : Option Nat) : Outcome (List Rule) :=
  let requests : Operation (List Container) := { attempt := fun n => d.list (d.asked + n) }
  let outcome := Retry.run (Policy.ofSettings s.retrying) requests wait
  { outcome with result := Docker.rules s <$> outcome.result }

end Daemon

end Signpost.Docker

import Signpost.Clockwork
import Signpost.Provider.Subscription

/-!
# Listening to a provider

A subscription together with the time, the files and the one who receives its signals.
-/

namespace Signpost

structure Listener where
  now : Nat := 0
  files : Files.Tree := {}
  cancelled : Bool := false
  subscription : Subscription

namespace Listener

def start (files : Files.Tree) (p : Provider) : Listener :=
  { files, subscription := .start files p }

/-- The step that the provider takes by itself. -/
def step? (l : Listener) : Option Listener :=
  (l.subscription.step? l.now l.cancelled).map fun subscription => { l with subscription }

/-- What is left to do while the time stands still, if each signal is received. -/
def work (l : Listener) : Nat :=
  l.subscription.work 1 l.now l.subscription.provider.size

def clockwork : Clockwork Listener where
  step? := step?
  work := work
  now l := l.now
  setTime now l := { l with now }
  dues l := l.subscription.due?.toList

/-- Lets the provider go on while the time stands still. -/
def rest (l : Listener) : Listener :=
  clockwork.rest l

/-- Lets some time pass. -/
def advance (ms : Nat) (l : Listener) : Listener :=
  clockwork.advance ms l

def cancel (l : Listener) : Listener :=
  { l with cancelled := true }

/-- Receives no more. -/
def abandon (l : Listener) : Listener :=
  { l with subscription.channel := l.subscription.channel.abandon }

/-- Changes the files. -/
def edit (e : Files.Edit) (l : Listener) : Listener :=
  { l with files := e.apply l.files, subscription := l.subscription.notice l.files e }

/-- Receives a signal, if there is one. -/
def receive (l : Listener) : Signal.Received × Listener :=
  let (received, channel) := l.subscription.channel.receive
  (received, { l with subscription.channel := channel })

/-- Receives at most `limit` signals, one after the other; tells how many there were and how the
last attempt ended. -/
def receiveUpTo : (limit : Nat) → Listener → Nat × Signal.Received × Listener
  | 0, l => (0, .pending, l)
  | n + 1, l =>
    match l.rest.receive with
    | (.signal, l) =>
      let (count, received, l) := receiveUpTo n l
      (count + 1, received, l)
    | (received, l) => (0, received, l)

/-- Receives all signals that come while the time stands still. -/
def receiveAll (l : Listener) : Nat × Signal.Received × Listener :=
  receiveUpTo (l.work + 1) l

theorem work_step?_lt {l next : Listener} (h : l.step? = some next) : next.work < l.work := by
  simp only [step?, Option.map_eq_some_iff] at h
  obtain ⟨subscription, hstep, rfl⟩ := h
  obtain ⟨alike, hless⟩ := Subscription.work_step?_lt (Nat.le_refl _) hstep
  simpa only [work, alike.size] using hless

/-- At rest the provider has nothing left to do. -/
theorem step?_rest_eq_none (l : Listener) : l.rest.step? = none :=
  step?_settle_eq_none (fun _ _ => work_step?_lt) l.work l (Nat.le_refl _)

end Listener

end Signpost

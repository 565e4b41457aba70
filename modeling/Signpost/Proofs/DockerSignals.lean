import Signpost.Proofs.EventWatch
import Signpost.Proofs.Listening

/-!
# The signals of a daemon

A watch sends a signal from the beginning, one for each event that may change the rules, and one
each time that it subscribes again. Whoever is slow to receive them holds the watch up, but no
signal is lost: what the channel has accepted, together with the one that waits for room, is what
the events called for.
-/

namespace Signpost.Proofs

namespace Listening

variable {s : Settings.Docker} {d : Docker.Daemon} {l : Listener} {w : Docker.Watch}
  {earlier : List Deed} {before : Nat}

/-- What the watch of a listener does in a step. -/
def deeds (l : Listener) : Act → List Deed
  | .step =>
    match l.cancelled, l.subscription.feed with
    | false, .docker stage => stageDeeds l.now l.subscription.channel stage
    | _, _ => []
  | _ => []

def log (l : Listener) : List Act → List Deed
  | [] => []
  | a :: acts => deeds l a ++ log (step l a) acts

/-- How many signals the channel has accepted, with the one that is there from the beginning. -/
def accepted (log : List Deed) : Nat :=
  1 + log.count .sent

/-- How many signals wait for room in the channel. -/
def blocked (l : Listener) : Nat :=
  match l.subscription.feed with
  | .docker (.notifying _) => 1
  | _ => 0

/-- The subscription of a watch. -/
def watching (s : Settings.Docker) (w : Docker.Watch) : Subscription :=
  ⟨.docker s w.daemon, .docker w.stage, w.channel⟩

lemma step?_of_watching (watches : l.subscription = watching s w) :
    l.step? = (w.step? s l.now l.cancelled).map fun w =>
      { l with subscription := watching s w } := by
  simp only [Listener.step?, watches, Subscription.step?, watching]
  cases w.step? s l.now l.cancelled with
  | none => rfl
  | some next => rfl

lemma deeds_of_watching (watches : l.subscription = watching s w) (running : l.cancelled = false) :
    deeds l .step = stageDeeds l.now w.channel w.stage := by
  simp only [deeds, watches, watching, running]

lemma blocked_of_watching (watches : l.subscription = watching s w) :
    blocked l = (stageTurn w.stage).owed := by
  simp only [blocked, watches, watching]
  cases w.stage with
  | notifying => rfl
  | reading => rfl
  | silent => rfl
  | resting => rfl
  | ended => rfl

theorem watched_step {a : Act} (watches : l.subscription = watching s w)
    (h : Watched s d w earlier before) (alive : Alive (step l a)) :
    ∃ next, (step l a).subscription = watching s next ∧
      Watched s d next (earlier ++ deeds l a) (before + receives l a) := by
  obtain ⟨running, receiver⟩ := alive_of_step alive
  rw [watches] at receiver
  cases a with
  | step =>
    have hstep := step?_of_watching watches
    rw [deeds_of_watching watches running]
    rw [running] at hstep
    rcases watch_cases h.sender receiver with ⟨still, idle⟩ | ⟨next, moves, does⟩
    · rw [still] at hstep
      rw [step_of_none hstep, idle, List.append_nil]
      exact ⟨w, watches, h⟩
    · rw [moves] at hstep
      rw [step_of_some hstep]
      exact ⟨next, rfl, watched_watchStep h does⟩
  | receive =>
    obtain ⟨sum, channel⟩ := receive_of_receiver receiver
    refine ⟨{ w with channel := w.channel.receive.2 }, ?_, ?_⟩
    · simp only [step, Listener.receive, watches, watching]
    · obtain ⟨daemon, turn, read, sender, capacity, kept⟩ := h
      change (if w.channel.receive.1 = .signal then 1 else 0) + w.channel.receive.2.held =
        w.channel.held at sum
      change w.channel.receive.2 = { w.channel with held := w.channel.held - 1 } at channel
      simp only [deeds, List.append_nil, receives, Listener.receive, watches, watching]
      refine ⟨daemon, turn, read, ?_, ?_, ?_⟩
      · rw [channel]
        exact sender
      · rw [channel]
        exact capacity
      · change before + _ + w.channel.receive.2.held = _
        omega
  | pass ms => exact ⟨w, watches, by simpa [deeds, receives] using h⟩
  | edit e =>
    refine ⟨w, ?_, by simpa [deeds, receives] using h⟩
    simp only [step, Listener.edit, watches, Subscription.notice, watching]
  | cancel => exact absurd alive.running (by simp [step, Listener.cancel])
  | abandon =>
    exact absurd alive.receiver (by simp [step, Listener.abandon, Signal.Channel.abandon])

theorem watched_after {acts : List Act} (watches : l.subscription = watching s w)
    (h : Watched s d w earlier before) (alive : Alive (after l acts)) :
    ∃ next, (after l acts).subscription = watching s next ∧
      Watched s d next (earlier ++ log l acts) (before + received l acts) := by
  induction acts generalizing l w earlier before with
  | nil => exact ⟨w, watches, by simpa [log, received] using h⟩
  | cons a acts ih =>
    obtain ⟨next, watchesNext, hnext⟩ := watched_step watches h (alive_of_after alive)
    obtain ⟨last, watchesLast, hlast⟩ := ih watchesNext hnext alive
    refine ⟨last, watchesLast, ?_⟩
    simpa only [log, received, List.append_assoc, Nat.add_assoc] using hlast

/-- A watch that has room for its signal does not wait. -/
lemma owed_of_still {now : Nat} (still : w.step? s now false = none)
    (sender : w.channel.sender = true) (receiver : w.channel.receiver = true)
    (room : w.channel.held < w.channel.capacity) :
    (stageTurn w.stage).owed = 0 := by
  cases hstage : w.stage with
  | notifying stream =>
    have sent : w.channel.trySend.1 = .accepted := by
      simp [Signal.Channel.trySend, Signal.Channel.hasRoom, sender, receiver, room]
    rcases watch_cases sender receiver with ⟨-, idle⟩ | ⟨next, moves, -⟩
    · simp [hstage, stageDeeds, sent] at idle
    · rw [still] at moves
      cases moves
  | reading => rfl
  | silent => rfl
  | resting => rfl
  | ended => rfl

/-- No signal for the events of a daemon is lost or made up. -/
structure SignalsConserved (s : Settings.Docker) (d : Docker.Daemon) (first : Listener)
    (acts : List Act) : Prop where
  /-- A signal that was accepted is received or still in the channel. -/
  kept : received first acts + (after first acts).subscription.channel.held =
    accepted (log first acts)
  /-- There is the first signal, one for each item that concerns someone, and one for each time that
  the watch subscribed again; the last of them may wait for room. -/
  counted : accepted (log first acts) + blocked (after first acts) =
    1 + causes s (log first acts) + (log first acts).count .subscribed
  /-- The items are those of the streams, from the first one on. -/
  consumed : Proofs.consumed (log first acts) <+: script d (1 + (log first acts).count .subscribed)
  subscriptions : (after first acts).subscription.provider =
    .docker s { d with subscribed := d.subscribed + (1 + (log first acts).count .subscribed) }
  /-- Nothing else makes a signal; the watch subscribes again before it sends the signal for it. -/
  prompt : ∀ before rest, log first acts = before ++ .sent :: rest →
    ∃ earlier deed, before = earlier ++ [deed] ∧ CallsForSignal s deed
  /-- The signal comes before anything else is done. -/
  answered : ∀ before deed rest, log first acts = before ++ deed :: rest →
    CallsForSignal s deed → rest = [] ∨ ∃ later, rest = .sent :: later
  /-- Whoever goes on receiving gets all of them. -/
  delayed : ∃ more, OnlyReceives more ∧ received first (acts ++ more) =
    1 + causes s (log first (acts ++ more)) + (log first (acts ++ more)).count .subscribed

/-- The signals that were accepted, with the one that waits for room, are those that the events and
the subscriptions called for, however slowly they are received. -/
theorem docker_signals_conserved (files : Files.Tree) (s : Settings.Docker) (d : Docker.Daemon)
    (acts : List Act) (alive : Alive (after (.start files (.docker s d)) acts)) :
    SignalsConserved s d (.start files (.docker s d)) acts := by
  have watches : (Listener.start files (.docker s d)).subscription =
      watching s (Docker.Watch.start d) := rfl
  have counted {log : List Deed} {n : Nat} {w : Docker.Watch} (h : Watched s d w log n) :
      accepted log + (stageTurn w.stage).owed = 1 + causes s log + log.count .subscribed := by
    have sum := count_of_inTurn h.turn
    simp only [accepted]
    omega
  obtain ⟨w, hw, h⟩ := watched_after watches (watched_start s d) alive
  rw [List.nil_append, Nat.zero_add] at h
  have channel : (after (.start files (.docker s d)) acts).subscription.channel = w.channel := by
    rw [hw]
    rfl
  refine ⟨?_, ?_, ⟨_, h.read⟩, ?_, ?_, ?_, ?_⟩
  · rw [channel]
    exact h.kept
  · rw [blocked_of_watching hw]
    exact counted h
  · rw [hw, watching, h.daemon]
  · intro before rest hlog
    exact prompt_of_inTurn (hlog ▸ h.turn)
  · intro before deed rest hlog
    exact answered_of_inTurn (hlog ▸ h.turn)
  · obtain ⟨more, only, drained⟩ := exists_drained alive
    have aliveThen := alive_after alive only
    rw [← after_append] at drained aliveThen
    obtain ⟨last, hlast, hthen⟩ := watched_after watches (watched_start s d) aliveThen
    rw [List.nil_append, Nat.zero_add] at hthen
    obtain ⟨running, receiver⟩ := aliveThen
    obtain ⟨still, empty⟩ := drained
    rw [hlast] at receiver empty
    rw [step?_of_watching hlast, running, Option.map_eq_none_iff] at still
    change last.channel.held = 0 at empty
    -- an empty channel has room, so nothing can be waiting for it
    have owed := owed_of_still still hthen.sender receiver (by rw [empty, hthen.capacity]; decide)
    have sum := counted hthen
    have kept := hthen.kept
    simp only [accepted] at sum
    exact ⟨more, only, by omega⟩

/-- An event of a container with a name. -/
def containerEvent (action name : String) : Docker.Event where
  kind := some "container"
  action := some action
  actor := some { attributes := some [("name", name)] }

/-- A stream that ends after one event of a container that is excluded, one of another container and
a fault, and another stream with an event. -/
def endingStream : Docker.Daemon where
  streams := [
    ⟨[.event (containerEvent "start" "/hidden"), .event (containerEvent "start" "/shop"),
      .fault (.ofDaemon .timeout)], true⟩,
    ⟨[.event (containerEvent "die" "shop")], false⟩]

/-- The first signal stays in the channel while the watch comes to the first event. -/
def slowReceiver : List Act :=
  [.step, .step, .step, .receive, .step, .step, .step, .pass 2000, .step, .receive, .step, .receive,
    .step, .step]

theorem docker_signals_conserved_slowReceiver :
    let s : Settings.Docker := { excluded := ["hidden"] }
    let first := Listener.start {} (.docker s endingStream)
    Alive (after first slowReceiver) ∧ received first slowReceiver = 3 ∧
      SignalsConserved s endingStream first slowReceiver := by
  have alive : Alive (after (.start {} (.docker { excluded := ["hidden"] } endingStream))
    slowReceiver) := ⟨by decide +kernel, by decide +kernel⟩
  exact ⟨alive, by decide +kernel, docker_signals_conserved {} _ endingStream slowReceiver alive⟩

end Listening
end Signpost.Proofs

import Signpost.Proofs.EventWatch
import Signpost.Proofs.Listening

/-!
# What a provider promises about its signals

Fixed rules, a rules file and a daemon send their signals in different ways, but whoever listens can
rely on the same: there is a signal from the beginning, never more than one waits, the channel stays
open until someone asks to stop, and then it is closed behind the signal that may still be in it.
-/

namespace Signpost.Proofs
open Signal

namespace Listening

/-- A subscription with a task that keeps its channel open. The task of a watch is over exactly when
the channel is closed. -/
inductive Kept : Subscription → Prop
  | still {p : Provider} {c : Channel} : Kept ⟨p, .still, c⟩
  | file {p : Provider} {watch : Option Files.Watch} {c : Channel} : Kept ⟨p, .file watch, c⟩
  | docker {s : Settings.Docker} {d : Docker.Daemon} {stage : Docker.Stage} {c : Channel}
      (ended : stage = .ended ↔ c.sender = false) : Kept ⟨.docker s d, .docker stage, c⟩

/-- What is true of a provider as long as its signals can be received. Only a request to stop closes
the channel. -/
structure Tended (l : Listener) : Prop where
  kept : Kept l.subscription
  slot : OneSlot l.subscription.channel
  sender : l.cancelled = false → l.subscription.channel.sender = true

/-- How often the daemon of a provider was subscribed to. -/
def subscriptions (l : Listener) : Nat :=
  match l.subscription.provider with
  | .docker _ d => d.subscribed
  | _ => 0

section Steps

variable {l : Listener} {sub next : Subscription}

/-- A provider that is asked to stop closes its channel and does nothing else. -/
lemma step?_of_cancelled (now : Nat) (kept : Kept sub) :
    (sub.channel.sender = false ∧ sub.step? now true = none) ∨
      (sub.channel.sender = true ∧
        ∃ feed, sub.step? now true = some ⟨sub.provider, feed, sub.channel.close⟩ ∧
          Kept ⟨sub.provider, feed, sub.channel.close⟩) := by
  cases kept with
  | @still p c =>
    cases sender : c.sender with
    | false => exact .inl ⟨rfl, by simp [Subscription.step?, Subscription.stop?, sender]⟩
    | true =>
      exact .inr ⟨rfl, .still, by simp [Subscription.step?, Subscription.stop?, sender], .still⟩
  | @file p watch c =>
    cases sender : c.sender with
    | false => exact .inl ⟨rfl, by simp [Subscription.step?, Subscription.stop?, sender]⟩
    | true =>
      exact .inr ⟨rfl, .file watch, by simp [Subscription.step?, Subscription.stop?, sender], .file⟩
  | @docker s d stage c ended =>
    have closed : Kept ⟨.docker s d, .docker .ended, c.close⟩ := .docker (by simp [Channel.close])
    cases stage with
    | ended =>
      exact .inl ⟨ended.mp rfl, by simp [Subscription.step?, Docker.Watch.step?]⟩
    | reading | silent | notifying | resting =>
      have sender : c.sender = true := by simpa using ended
      exact .inr ⟨sender, .docker .ended,
        by simp [Subscription.step?, Docker.Watch.step?, Docker.Watch.finish], closed⟩

/-- The step that stops a provider. -/
lemma of_stopping_step {now : Nat} (kept : Kept sub) (moves : sub.step? now true = some next) :
    Kept next ∧ ∃ feed, next = ⟨sub.provider, feed, sub.channel.close⟩ := by
  rcases step?_of_cancelled now kept with ⟨-, still⟩ | ⟨-, feed, stops, keptNext⟩
  · rw [still] at moves
    cases moves
  · obtain rfl := Option.some.inj (stops.symm.trans moves)
    exact ⟨keptNext, feed, rfl⟩

/-- The watch of a daemon goes on, whatever its streams bring and however they end. -/
lemma open_watchStep {s : Settings.Docker} {w after : Docker.Watch} {deeds : List Deed}
    (sender : w.channel.sender = true) (step : WatchStep s w deeds after) :
    after.stage ≠ .ended ∧ after.channel.sender = true := by
  cases step with
  | pass _ _ turn =>
    refine ⟨?_, sender⟩
    rintro rfl
    cases turn
  | notice | leave | wake | send | again => exact ⟨by simp [Docker.Watch.resubscribe], sender⟩

/-- Nothing but a request to stop closes the channel. -/
lemma step?_of_running {now : Nat} (kept : Kept sub) (sender : sub.channel.sender = true)
    (receiver : sub.channel.receiver = true) (h : sub.step? now false = some next) :
    Kept next ∧ next.channel.sender = true := by
  cases kept with
  | still | file => simp [Subscription.step?, Subscription.stop?] at h
  | @docker s d stage c =>
    have moves : ((⟨stage, d, c⟩ : Docker.Watch).step? s now false).map (fun w =>
        (⟨.docker s w.daemon, .docker w.stage, w.channel⟩ : Subscription)) = some next := by
      rw [← h]
      simp only [Subscription.step?]
      cases (⟨stage, d, c⟩ : Docker.Watch).step? s now false <;> rfl
    obtain ⟨w, hw, rfl⟩ := Option.map_eq_some_iff.mp moves
    rcases @watch_cases s now ⟨stage, d, c⟩ sender receiver with
      ⟨still, -⟩ | ⟨after, hafter, step⟩
    · rw [still] at hw
      cases hw
    · obtain rfl : after = w := Option.some.inj (hafter.symm.trans hw)
      obtain ⟨goesOn, isOpen⟩ := open_watchStep sender step
      exact ⟨.docker (by simp [goesOn, isOpen]), isOpen⟩

lemma kept_of_sender (kept : Kept sub) (same : c.sender = sub.channel.sender) :
    Kept { sub with channel := c } := by
  cases kept with
  | still => exact .still
  | file => exact .file
  | docker ended =>
    refine .docker ?_
    rw [same]
    exact ended

/-- A change of the files leads to one more signal or to nothing. -/
lemma notice_cases (files : Files.Tree) (e : Files.Edit) (sub : Subscription) :
    sub.notice files e = sub ∨
      sub.notice files e = { sub with channel := sub.channel.trySend.2 } := by
  unfold Subscription.notice
  split
  · split
    · exact .inr rfl
    · exact .inl rfl
  · exact .inl rfl

lemma step_cases (l : Listener) :
    (l.step? = none ∧ step l .step = l) ∨
      ∃ next, l.subscription.step? l.now l.cancelled = some next ∧
        step l .step = { l with subscription := next } := by
  cases hstep : l.step? with
  | none => exact .inl ⟨rfl, step_of_none hstep⟩
  | some next =>
    obtain ⟨hsub, hnext⟩ := subscription_of_step? hstep
    exact .inr ⟨next.subscription, hsub, (step_of_some hstep).trans hnext⟩

theorem tended_step {a : Act} (h : Tended l) (stays : a ≠ .abandon) : Tended (step l a) := by
  obtain ⟨kept, slot, sender⟩ := h
  cases a with
  | step =>
    rcases step_cases l with ⟨-, still⟩ | ⟨next, moves, hnext⟩
    · rw [still]
      exact ⟨kept, slot, sender⟩
    · obtain ⟨-, channel⟩ := subscription_step? moves
      have slotNext := oneSlot_channelStep slot channel
      rw [hnext]
      cases told : l.cancelled with
      | false =>
        rw [told] at moves
        obtain ⟨keptNext, isOpen⟩ := step?_of_running kept (sender told) slot.receiver moves
        exact ⟨keptNext, slotNext, fun _ => isOpen⟩
      | true =>
        rw [told] at moves
        exact ⟨(of_stopping_step kept moves).1, slotNext, fun running => Bool.noConfusion running⟩
  | receive =>
    have received : l.subscription.channel.receive.2.sender = l.subscription.channel.sender := by
      rw [(receive_of_receiver slot.receiver).2]
    exact ⟨kept_of_sender kept received, oneSlot_receive slot,
      fun running => received.trans (sender running)⟩
  | pass ms => exact ⟨kept, slot, sender⟩
  | edit e =>
    rcases notice_cases l.files e l.subscription with unseen | signals
    · refine ⟨?_, ?_, ?_⟩ <;> rw [step, Listener.edit, unseen]
      · exact kept
      · exact slot
      · exact sender
    · have sent := sender_trySend l.subscription.channel
      refine ⟨?_, ?_, ?_⟩ <;> rw [step, Listener.edit, signals]
      · exact kept_of_sender kept sent
      · exact oneSlot_trySend slot
      · exact fun running => sent.trans (sender running)
  | cancel => exact ⟨kept, slot, fun running => Bool.noConfusion running⟩
  | abandon => exact absurd rfl stays

theorem tended_after {acts : List Act} (h : Tended l) (stays : .abandon ∉ acts) :
    Tended (after l acts) := by
  induction acts generalizing l with
  | nil => exact h
  | cons a acts ih =>
    rw [List.mem_cons, not_or] at stays
    exact ih (tended_step h (Ne.symm stays.1)) stays.2

lemma cancelled_step {a : Act} :
    (step l a).cancelled = true ↔ l.cancelled = true ∨ a = .cancel := by
  cases a with
  | step =>
    rcases step_cases l with ⟨-, still⟩ | ⟨next, -, hnext⟩
    · simp [still]
    · simp [hnext]
  | cancel => simp [step, Listener.cancel]
  | receive | pass | edit | abandon =>
    simp [step, Listener.receive, Listener.edit, Listener.abandon]

/-- Who is asked to stop is not asked to go on again. -/
theorem cancelled_after {acts : List Act} :
    (after l acts).cancelled = true ↔ l.cancelled = true ∨ .cancel ∈ acts := by
  induction acts generalizing l with
  | nil => simp
  | cons a acts ih => rw [after_cons, ih, cancelled_step, List.mem_cons, or_assoc, @eq_comm _ a]

/-- A provider that is asked to stop does not subscribe again. -/
lemma provider_step {a : Act} (kept : Kept l.subscription) (told : l.cancelled = true) :
    (step l a).subscription.provider = l.subscription.provider := by
  cases a with
  | step =>
    rcases step_cases l with ⟨-, still⟩ | ⟨next, moves, hnext⟩
    · rw [still]
    · rw [told] at moves
      obtain ⟨-, feed, rfl⟩ := of_stopping_step kept moves
      rw [hnext]
  | edit e =>
    rcases notice_cases l.files e l.subscription with unseen | signals
    · rw [step, Listener.edit, unseen]
    · rw [step, Listener.edit, signals]
  | receive | pass | cancel | abandon => rfl

theorem provider_after {acts : List Act} (h : Tended l) (told : l.cancelled = true)
    (stays : .abandon ∉ acts) :
    (after l acts).subscription.provider = l.subscription.provider := by
  induction acts generalizing l with
  | nil => rfl
  | cons a acts ih =>
    rw [List.mem_cons, not_or] at stays
    rw [after_cons, ih (tended_step h (Ne.symm stays.1)) (cancelled_step.mpr (.inl told)) stays.2,
      provider_step h.kept told]

/-- A provider that was asked to stop has closed its channel as soon as it cannot move. -/
lemma still_iff_closed (h : Tended l) (told : l.cancelled = true) :
    l.step? = none ↔ l.subscription.channel.sender = false := by
  rw [Listener.step?, told, Option.map_eq_none_iff]
  rcases step?_of_cancelled l.now h.kept with ⟨closed, still⟩ | ⟨isOpen, feed, stops, -⟩
  · simp [closed, still]
  · simp [isOpen, stops]

/-- It takes one step for it. -/
lemma still_of_told (h : Tended l) (told : l.cancelled = true) : (step l .step).step? = none := by
  have later := tended_step h (a := .step) nofun
  rw [still_iff_closed later (cancelled_step.mpr (.inl told))]
  rcases step_cases l with ⟨still, hnext⟩ | ⟨next, moves, hnext⟩
  · rw [hnext, ← still_iff_closed h told]
    exact still
  · rw [told] at moves
    obtain ⟨-, feed, rfl⟩ := of_stopping_step h.kept moves
    rw [hnext]
    rfl

/-- Behind a closed channel there are only the signals that it still holds. -/
lemma closed_step {a : Act} (h : Tended l) (told : l.cancelled = true)
    (closed : l.subscription.channel.sender = false) (stays : a ≠ .abandon) :
    (step l a).subscription.channel.sender = false ∧
      receives l a + (step l a).subscription.channel.held = l.subscription.channel.held := by
  cases a with
  | step =>
    rw [step_of_none ((still_iff_closed h told).mpr closed)]
    exact ⟨closed, Nat.zero_add _⟩
  | receive =>
    obtain ⟨sum, channel⟩ := receive_of_receiver h.slot.receiver
    refine ⟨?_, sum⟩
    change l.subscription.channel.receive.2.sender = false
    rw [channel]
    exact closed
  | edit e =>
    have refused : l.subscription.channel.trySend.2 = l.subscription.channel := by
      simp [Channel.trySend, closed]
    rcases notice_cases l.files e l.subscription with unseen | signals
    · rw [step, Listener.edit, unseen]
      exact ⟨closed, Nat.zero_add _⟩
    · rw [step, Listener.edit, signals, refused]
      exact ⟨closed, Nat.zero_add _⟩
  | pass | cancel => exact ⟨closed, Nat.zero_add _⟩
  | abandon => exact absurd rfl stays

theorem closed_after {acts : List Act} (h : Tended l) (told : l.cancelled = true)
    (closed : l.subscription.channel.sender = false) (stays : .abandon ∉ acts) :
    (after l acts).subscription.channel.sender = false ∧
      received l acts + (after l acts).subscription.channel.held =
        l.subscription.channel.held := by
  induction acts generalizing l with
  | nil => exact ⟨closed, Nat.zero_add _⟩
  | cons a acts ih =>
    rw [List.mem_cons, not_or] at stays
    obtain ⟨closedNext, kept⟩ := closed_step h told closed (Ne.symm stays.1)
    obtain ⟨closedLast, sum⟩ := ih (tended_step h (Ne.symm stays.1))
      (cancelled_step.mpr (.inl told)) closedNext stays.2
    refine ⟨closedLast, ?_⟩
    rw [received, after_cons]
    omega

/-- What an attempt to receive ends in. -/
lemma receive_fst (h : Tended l) :
    l.receive.1 = if 0 < l.subscription.channel.held then .signal
      else if l.subscription.channel.sender then .pending else .closed := by
  change l.subscription.channel.receive.1 = _
  simp only [Channel.receive, h.slot.receiver, Bool.not_true, Bool.false_eq_true, if_false]
  split
  · rfl
  · split <;> rfl

end Steps

/-- What whoever listens to a provider can rely on. -/
structure KeepsPromise (first : Listener) : Prop where
  /-- There is a signal from the beginning. -/
  prompt : first.receive.1 = .signal
  single : ∀ acts, .abandon ∉ acts → (after first acts).subscription.channel.held ≤ 1
  /-- Before someone asks to stop, there is a signal or there may still be one. -/
  unclosed : ∀ acts, .abandon ∉ acts → .cancel ∉ acts →
    (after first acts).receive.1 = .signal ∨ (after first acts).receive.1 = .pending
  /-- Whoever is asked to stop needs one step for it. -/
  stops : ∀ acts, .abandon ∉ acts → .cancel ∈ acts →
    (after first (acts ++ [.step])).step? = none
  /-- When all steps are taken after that, there is at most one more signal. Behind it the channel
  is closed for good. -/
  closes : ∀ acts, .abandon ∉ acts → .cancel ∈ acts → (after first acts).step? = none →
    ∃ rest ≤ 1, ∀ more, .abandon ∉ more → received (after first acts) more ≤ rest ∧
      (after first (acts ++ more)).receive.1 =
        if received (after first acts) more < rest then .signal else .closed
  /-- The daemon is not subscribed to again, once someone has asked to stop. -/
  unsubscribed : ∀ acts more, .abandon ∉ acts → .abandon ∉ more → .cancel ∈ acts →
    subscriptions (after first (acts ++ more)) = subscriptions (after first acts)

theorem keepsPromise_of_tended {first : Listener} (h : Tended first)
    (running : first.cancelled = false) (signal : 0 < first.subscription.channel.held) :
    KeepsPromise first where
  prompt := by rw [receive_fst h, if_pos signal]
  single acts stays := (tended_after h stays).slot.held
  unclosed acts stays noCancel := by
    have later := tended_after h stays
    have runs : (after first acts).cancelled = false := by
      rw [← Bool.not_eq_true, cancelled_after, running]
      simpa using noCancel
    rw [receive_fst later, later.sender runs]
    split
    · exact .inl rfl
    · exact .inr rfl
  stops acts stays cancel := by
    rw [after_append]
    exact still_of_told (tended_after h stays) (cancelled_after.mpr (.inr cancel))
  closes acts stays cancel still := by
    have later := tended_after h stays
    have told := cancelled_after (l := first).mpr (.inr cancel)
    have closed := (still_iff_closed later told).mp still
    refine ⟨_, later.slot.held, fun more staysMore => ?_⟩
    obtain ⟨closedLast, sum⟩ := closed_after later told closed staysMore
    refine ⟨by omega, ?_⟩
    rw [after_append, receive_fst (tended_after later staysMore), closedLast]
    simp only [Bool.false_eq_true, if_false]
    have left : 0 < (after (after first acts) more).subscription.channel.held ↔
        received (after first acts) more < (after first acts).subscription.channel.held := by omega
    simp only [left]
  unsubscribed acts more stays staysMore cancel := by
    have told := cancelled_after (l := first).mpr (.inr cancel)
    rw [after_append, subscriptions, subscriptions,
      provider_after (tended_after h stays) told staysMore]

/-- Fixed rules, a rules file and a daemon all keep the promise, whatever the files and the streams
of events are. -/
theorem providers_keep_promise (files : Files.Tree) (lines : List String) (path : Files.Path)
    (s : Settings.Docker) (d : Docker.Daemon) :
    KeepsPromise (.start files (.static lines)) ∧ KeepsPromise (.start files (.file path)) ∧
      KeepsPromise (.start files (.docker s d)) := by
  have watch : Kept (Subscription.start files (.docker s d)) :=
    .docker (by simp [Docker.Watch.start, Channel.holding])
  exact ⟨keepsPromise_of_tended ⟨.still, oneSlot_holding, fun _ => rfl⟩ rfl Nat.one_pos,
    keepsPromise_of_tended ⟨.file, oneSlot_holding, fun _ => rfl⟩ rfl Nat.one_pos,
    keepsPromise_of_tended ⟨watch, oneSlot_holding, fun _ => rfl⟩ rfl Nat.one_pos⟩

/-- A stream with an event of a container and a fault, which ends. -/
def faultyStream : Docker.Daemon :=
  let stopped : Docker.Event :=
    { kind := some "container", action := some "die", actor := some { id := some "c1" } }
  { streams := [⟨[.event stopped, .fault (.ofDaemon .timeout)], true⟩] }

/-- The watch waits for room for its second signal when someone asks it to stop. -/
def stopInWait : List Act :=
  [.step, .step, .cancel, .step]

theorem providers_keep_promise_stopInWait :
    let first := Listener.start {} (.docker {} faultyStream)
    (after first stopInWait).step? = none ∧
      received (after first stopInWait) [.receive, .pass 5000, .step, .receive] = 1 ∧
      (after first (stopInWait ++ [.receive, .pass 5000, .step, .receive])).receive.1 = .closed ∧
      subscriptions (after first (stopInWait ++ [.pass 5000, .step])) = 1 := by
  obtain ⟨-, -, promise⟩ := providers_keep_promise {} [] [] {} faultyStream
  have still : (after (.start {} (.docker {} faultyStream)) stopInWait).step? = none := rfl
  have stays : Act.abandon ∉ stopInWait := by simp [stopInWait]
  have cancel : Act.cancel ∈ stopInWait := by simp [stopInWait]
  obtain ⟨rest, le, closes⟩ := promise.closes stopInWait stays cancel still
  obtain ⟨few, last⟩ := closes [.receive, .pass 5000, .step, .receive] (by simp)
  have some : received (after (.start {} (.docker {} faultyStream)) stopInWait)
      [.receive, .pass 5000, .step, .receive] = 1 := rfl
  refine ⟨still, some, ?_, ?_⟩
  · rw [last, if_neg (by omega)]
  · rw [promise.unsubscribed stopInWait [.pass 5000, .step] stays (by simp) cancel]
    rfl

end Listening
end Signpost.Proofs

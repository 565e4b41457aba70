import Signpost.Proofs.PendingSignals
import Signpost.Proofs.RebuildPasses
import Signpost.Proofs.SignalConservation

/-!
# The life of a run

A run subscribes to every provider before it asks one for its rules. For each signal that a channel
accepts it does one pass, no more and no less, and it ends only when it is told to stop.
-/

namespace Signpost.Proofs
open Signal

/-- How often the signals of each provider were subscribed to. -/
def subscriptionCounts (s : Service) : List Nat :=
  s.members.map Member.subscriptions

/-- The passes that are under way: one or none. -/
def passesUnderway : Activity → Nat
  | .rebuilding _ _ _ => 1
  | _ => 0

/-- The signals that are in the channels of the providers when a run has subscribed to them. -/
def firstSignals (s : Service) : Nat :=
  total Channel.held (s.members.map fun m => (Subscription.start s.files m.provider).channel)

lemma held_trySend (c : Channel) :
    c.trySend.2.held = c.held + [c.trySend.1].count .accepted := by
  rcases trySend_cases c with ⟨-, h⟩ | ⟨-, -, h⟩ | ⟨-, -, -, h⟩ | ⟨-, -, -, h⟩ <;>
    rw [h] <;> rfl

lemma held_channelStep {c next : Channel} (h : ChannelStep c next) :
    next.held = c.held ∨ next.held = c.held + 1 := by
  cases h with
  | same | close => exact .inl rfl
  | send =>
    have hheld := held_trySend c
    have hcount : [c.trySend.1].count .accepted ≤ 1 := List.count_le_length
    omega

lemma undelivered_send_eq (m : Merge) (i : Nat) :
    undelivered (m.send i).2 = undelivered m + [(m.send i).1].count .accepted := by
  cases hi : m.lanes[i]? with
  | none =>
    rw [send_of_none hi]
    rfl
  | some lane =>
    have hload := undelivered_setSource hi lane.source.trySend.2
    have hheld := held_trySend lane.source
    rw [send_eq hi]
    dsimp only
    omega

lemma undelivered_close_eq (m : Merge) (i : Nat) : undelivered (m.close i) = undelivered m := by
  cases hi : m.lanes[i]? with
  | none => rw [close_of_none hi]
  | some lane =>
    have hload := undelivered_setSource hi lane.source.close
    rw [close_eq hi]
    exact Nat.add_right_cancel hload

namespace Course

/-- How many signals the channels accept in some steps. -/
def accepted (c : Course) : List Act → Nat
  | [] => 0
  | a :: acts => (c.sends a).count .accepted + (c.step a).accepted acts

/-- A feed that is told of a change of the files sends what is noticed, and nothing else. -/
lemma undelivered_noticeAt {c : Course} {e : Files.Edit} {r : Run} {i : Nat}
    (feeds : r.feeds = c.run.feeds) (same : r.merge.lanes[i]? = c.run.merge.lanes[i]?) :
    undelivered (noticeAt c.session e r i).merge =
      undelivered r.merge + (c.noticed e i).toList.count .accepted := by
  have hservice : c.session.service = c.service := rfl
  simp only [noticeAt, noticed, hservice, feeds, ← same]
  cases hm : c.service.members[i]? with
  | none => rfl
  | some m =>
    cases hfeed : c.run.feeds[i]? with
    | none => rfl
    | some feed =>
      cases hlane : r.merge.lanes[i]? with
      | none => cases feed with
        | file watch => cases watch <;> rfl
        | told | still | docker => rfl
      | some lane =>
        have hload := undelivered_setSource hlane lane.source
        have unchanged : undelivered (r.merge.setSource i lane.source) = undelivered r.merge := by
          omega
        cases feed with
        | told | still | docker => exact unchanged
        | file watch =>
          cases watch with
          | none => exact unchanged
          | some watch =>
            cases sees : watch.notices c.service.files e with
            | false =>
              simp only [Subscription.notice, sees, Bool.false_eq_true, if_false]
              exact unchanged
            | true =>
              have hload := undelivered_setSource hlane lane.source.trySend.2
              have hheld := held_trySend lane.source
              simp only [Subscription.notice, sees, if_true, Option.toList_some]
              omega

lemma undelivered_foldl_noticeAt {c : Course} {e : Files.Edit} {r : Run} {feeds : List Nat}
    (nodup : feeds.Nodup) (alike : r.feeds = c.run.feeds)
    (same : ∀ i ∈ feeds, r.merge.lanes[i]? = c.run.merge.lanes[i]?) :
    undelivered (feeds.foldl (noticeAt c.session e) r).merge =
      undelivered r.merge + (feeds.filterMap (c.noticed e)).count .accepted := by
  induction feeds generalizing r with
  | nil => rfl
  | cons i feeds ih =>
    obtain ⟨absent, nodup⟩ := List.nodup_cons.mp nodup
    have hfirst := undelivered_noticeAt (e := e) alike (same i (List.mem_cons_self ..))
    obtain ⟨merge, hmerge, -, others⟩ := noticeAt_eq c.session e r i
    have hrest : _ = _ := ih (r := noticeAt c.session e r i) nodup (by rw [hmerge, ← alike]) (by
      intro k mem
      rw [hmerge, ← same k (List.mem_cons_of_mem _ mem)]
      exact others k fun hk => absent (hk ▸ mem))
    rw [List.foldl_cons, hrest, hfirst, List.filterMap_cons]
    cases c.noticed e i with
    | none => rfl
    | some sent => simp only [Option.toList_some, List.count_cons, List.count_nil]; omega

/-- A feed that takes a step sends at most one signal. -/
lemma undelivered_feed (c : Course) (i : Nat) :
    undelivered (c.step (.task (.feed i))).run.merge =
      undelivered c.run.merge + (c.sends (.task (.feed i))).count .accepted := by
  cases hmove : c.run.move? c.service (.feed i) with
  | none =>
    have still := step_task_of_none hmove
    simp only [sends, still]
    cases c.run.merge.lanes[i]? <;> simp
  | some next =>
    obtain ⟨service, run⟩ := next
    have moved := step_task_of_some hmove
    obtain ⟨m, lane, p, feed, source, -, found, -, channel, rfl, rfl⟩ := feed?_eq hmove
    have after : (c.run.merge.setSource i source).lanes[i]? = some { lane with source } := by
      rw [setSource_eq found, getElem?_set_of_getElem? found, if_pos rfl]
    have hload := undelivered_setSource found source
    simp only [sends, moved, found, after]
    rcases held_channelStep channel with held | held
    · rw [if_neg (by omega)]
      simp only [List.count_nil]
      omega
    · rw [if_pos (by omega)]
      simp only [List.count_singleton_self]
      omega

lemma notes_goOn {s t : Service} {done : Table} {next : Nat} {notes : List Note}
    {activity : Activity} (on : GoOn s done next notes t activity) :
    notes.count .begun = 0 ∧ notes.count .replaced + passesUnderway activity = 1 := by
  cases on <;> exact ⟨rfl, rfl⟩

/-- A run that goes on takes a signal for each pass that it begins, and ends a pass when it puts the
table in place. -/
lemma rebuildStep_counts {s t : Service} {r next : Run} {notes : List Note}
    (running : s.isCancelled r.token = false) (step : RebuildStep s r notes t next) :
    undelivered next.merge + notes.count .begun = undelivered r.merge ∧
      notes.count .replaced + passesUnderway next.activity =
        notes.count .begun + passesUnderway r.activity := by
  cases step with
  | stop told =>
    rw [told] at running
    cases running
  | begin _ waiting held on =>
    obtain ⟨begun, replaced⟩ := notes_goOn on
    have idle : passesUnderway r.activity = 0 := by rw [waiting]; rfl
    simp only [List.count_cons_self, List.count_cons_of_ne, ne_eq, reduceCtorEq, not_false_eq_true,
      undelivered, begun, idle]
    exact ⟨by omega, replaced⟩
  | exhaust _ waiting => exact ⟨rfl, by rw [waiting]; rfl⟩
  | wait _ busy => exact ⟨rfl, by rw [busy]; rfl⟩
  | answer _ busy _ _ on =>
    obtain ⟨begun, replaced⟩ := notes_goOn on
    simp only [List.count_cons_of_ne, ne_eq, reduceCtorEq, not_false_eq_true, begun, busy]
    exact ⟨rfl, by simpa [passesUnderway] using replaced⟩

/-- A step accounts for every signal: what was there and what is accepted is there afterwards, or a
pass begins for it. -/
theorem signals_step {c : Course} (h : Sound c) {a : Act} (running : (c.step a).cancelled = false) :
    undelivered (c.step a).run.merge + (c.notes a).count .begun =
      undelivered c.run.merge + (c.sends a).count .accepted := by
  have before : c.cancelled = false := running_of_step running
  have step := stepTo_step c a
  cases a with
  | send i =>
    simp only [Course.step, sends, notes]
    split
    · exact undelivered_send_eq c.run.merge i
    · rfl
  | close i =>
    simp only [Course.step, sends, notes]
    split
    · exact undelivered_close_eq c.run.merge i
    · rfl
  | edit e =>
    exact undelivered_foldl_noticeAt List.nodup_range rfl fun _ _ => rfl
  | tell | script | pass | cancel | look =>
    generalize c.notes _ = notes at step ⊢
    generalize c.step _ = d at step ⊢
    cases step <;> rfl
  | task t =>
    cases t with
    | feed i => exact undelivered_feed c i
    | forwarder i =>
      simp only [sends]
      generalize c.notes _ = notes at step ⊢
      generalize c.step _ = d at step ⊢
      cases step with
      | still => rfl
      | forward found step =>
        rw [before] at step
        exact undelivered_forwardStep found (h.receiver before) step
    | rebuild =>
      simp only [sends]
      generalize c.notes _ = notes at step ⊢
      generalize c.step _ = d at step ⊢
      cases step with
      | still => rfl
      | rebuild step => exact (rebuildStep_counts before step).1

theorem passes_step {c : Course} {a : Act} (running : (c.step a).cancelled = false) :
    (c.notes a).count .replaced + passesUnderway (c.step a).run.activity =
      (c.notes a).count .begun + passesUnderway c.run.activity := by
  have before : c.cancelled = false := running_of_step running
  have step := stepTo_step c a
  generalize c.notes a = notes at step ⊢
  generalize c.step a = d at step ⊢
  cases step with
  | rebuild step => exact (rebuildStep_counts before step).2
  | look busy =>
    rw [busy]
    rfl
  | _ => rfl

/-- One pass for each signal: the passes that are complete or under way and the signals that are on
their way are as many as the signals that were there and those that were accepted. -/
theorem passes_after {c : Course} (h : Sound c) {acts : List Act}
    (running : (c.after acts).cancelled = false) :
    (c.log acts).count .replaced + passesUnderway (c.after acts).run.activity +
        undelivered (c.after acts).run.merge =
      passesUnderway c.run.activity + undelivered c.run.merge + c.accepted acts := by
  induction acts generalizing c with
  | nil =>
    simp only [log, accepted, after_nil, List.count_nil]
    omega
  | cons a acts ih =>
    have first : (c.step a).cancelled = false := running_of_after running
    have hsignals := signals_step h first
    have hpasses := passes_step first
    have hrest : _ = _ := ih (sound_step h a) running
    simp only [log, accepted, after_cons, List.count_append]
    omega

lemma subscriptionCounts_setProvider (s : Service) (i : Nat) (p : Provider) :
    subscriptionCounts (s.setProvider i p) = subscriptionCounts s :=
  map_setProvider fun _ _ => rfl

lemma subscriptionCounts_goOn {s t : Service} {done : Table} {next : Nat} {notes : List Note}
    {activity : Activity} (on : GoOn s done next notes t activity) :
    subscriptionCounts t = subscriptionCounts s := by
  cases on with
  | replace => rfl
  | ask member => exact map_set_of_getElem? member rfl

lemma subscriptionCounts_step (c : Course) (a : Act) :
    subscriptionCounts (c.step a).service = subscriptionCounts c.service := by
  have step := stepTo_step c a
  generalize c.notes a = notes at step
  generalize c.step a = d at step ⊢
  cases step with
  | rebuild step =>
    cases step with
    | stop | exhaust => rfl
    | wait => exact subscriptionCounts_setProvider _ _ _
    | begin _ _ _ on => exact subscriptionCounts_goOn on
    | answer _ _ _ _ on => exact subscriptionCounts_goOn on
  | feed | tell | script => exact subscriptionCounts_setProvider _ _ _
  | still | forward | send | close | look | edit | pass | cancel => rfl

lemma subscriptionCounts_after (c : Course) (acts : List Act) :
    subscriptionCounts (c.after acts).service = subscriptionCounts c.service := by
  induction acts generalizing c with
  | nil => rfl
  | cons a acts ih => rw [after_cons, ih, subscriptionCounts_step]

lemma subscriptionCounts_start (s : Service) (token : Nat) :
    subscriptionCounts (start s token).service = (subscriptionCounts s).map (· + 1) := by
  apply List.ext_getElem
  · simp [subscriptionCounts, start, Service.start, Service.subscribe]
  · intro i _ _
    simp [subscriptionCounts, start, Service.start, Service.subscribe]

/-- A run that has seen the end of all channels, or has ended itself, begins no pass any more. -/
lemma step_of_finished {c : Course}
    (finished : c.run.activity = .exhausted ∨ c.run.activity = .stopped) (a : Act) :
    c.notes a = [] ∧ callCounts (c.step a).service = callCounts c.service ∧
      ((c.step a).run.activity = .exhausted ∨ (c.step a).run.activity = .stopped) := by
  have step := stepTo_step c a
  generalize c.notes a = notes at step ⊢
  generalize c.step a = d at step ⊢
  cases step with
  | rebuild step =>
    cases step with
    | stop => exact ⟨rfl, rfl, .inr rfl⟩
    | begin _ waiting => simp [waiting] at finished
    | exhaust _ waiting => simp [waiting] at finished
    | wait _ busy => simp [busy] at finished
    | answer _ busy => simp [busy] at finished
  | look busy => simp [busy] at finished
  | feed | tell | script => exact ⟨rfl, callCounts_setProvider _ _ _, finished⟩
  | still | forward | send | close | edit | pass | cancel => exact ⟨rfl, rfl, finished⟩

theorem after_of_finished {c : Course}
    (finished : c.run.activity = .exhausted ∨ c.run.activity = .stopped) (acts : List Act) :
    c.log acts = [] ∧ callCounts (c.after acts).service = callCounts c.service := by
  induction acts generalizing c with
  | nil => exact ⟨rfl, rfl⟩
  | cons a acts ih =>
    obtain ⟨notes, calls, later⟩ := step_of_finished finished a
    obtain ⟨laterNotes, laterCalls⟩ := ih later
    exact ⟨by rw [log, notes, laterNotes]; rfl, laterCalls.trans calls⟩

/-- When nobody sends any more, an idle run has seen the end of all channels. -/
theorem exhausted_of_closed {c : Course} (h : Sound c) (running : c.cancelled = false)
    (idle : c.Idle) (closed : ∀ lane ∈ c.run.merge.lanes, lane.source.sender = false) :
    c.run.activity = .exhausted := by
  have quiet := quiet_of_idle running idle
  have received : undelivered c.run.merge = 0 := undelivered_of_idle h running idle
  have empty : c.run.merge.buffered = 0 := by
    simp only [undelivered] at received
    omega
  have ended : ∀ lane ∈ c.run.merge.lanes, lane.forwarder = .ended := by
    intro lane mem
    obtain ⟨i, hi⟩ := List.getElem?_of_mem mem
    cases hf : lane.forwarder with
    | ended => rfl
    | idle =>
      have sender := (idle_of_quiet h.orderly hi quiet hf).2
      rw [closed lane mem] at sender
      cases sender
    | holding =>
      have buffered := buffered_of_quiet_holding h.orderly hi quiet hf
      omega
  refine (activity_of_idle h running idle).resolve_left ?_
  intro waiting
  have hmove : c.run.rebuild? c.service = none := idle.stuck .rebuild
  have alive := h.receiver running
  rw [Course.cancelled] at running
  simp only [Run.rebuild?, waiting, running, Bool.false_eq_true, if_false, Run.receive?] at hmove
  rcases receive_cases c.run.merge with ⟨dead, -⟩ | ⟨-, held, -⟩ | ⟨-, -, -, hr⟩ | ⟨-, -, some, -⟩
  · rw [alive] at dead
    cases dead
  · omega
  · simp [hr] at hmove
  · exact some ended

/-- A run that is told to stop and can take no step has ended. -/
lemma stopped_of_stuck {c : Course} (told : c.cancelled = true)
    (stuck : ∀ t, c.run.move? c.service t = none) : c.run.activity = .stopped := by
  have hmove : c.run.rebuild? c.service = none := stuck .rebuild
  rw [Course.cancelled] at told
  cases hactivity : c.run.activity with
  | stopped => rfl
  | waiting | rebuilding | exhausted => simp [Run.rebuild?, hactivity, told] at hmove

/-- A run that is not told to stop has not ended. -/
lemma outcome?_eq_none {c : Course} (h : Sound c) (running : c.cancelled = false) :
    c.run.outcome? = none := by
  have active := h.active running
  unfold Run.outcome?
  cases hactivity : c.run.activity with
  | stopped => exact absurd hactivity active
  | waiting | rebuilding | exhausted => rfl

lemma undelivered_start (s : Service) (token : Nat) :
    undelivered (start s token).run.merge = firstSignals s := by
  rw [merge_start, Junction.undelivered_ofChannels]
  rfl

/-- A run subscribes to each provider once, before it asks any of them for its rules. It ends only
when it is told to stop, and has no result then. Until then it has done or begun one pass for each
signal that the channels have accepted and that is not on its way, and when all channels are closed
and nothing can move it has done one for each, and calls no provider any more. -/
theorem one_pass_per_signal (s : Service) (token : Nat) (acts : List Act) :
    let c := (start s token).after acts
    let passes := ((start s token).log acts).count .replaced
    let signals := firstSignals s + (start s token).accepted acts
    let m := c.run.merge
    (callCounts (start s token).service = callCounts s ∧
      subscriptionCounts c.service = (subscriptionCounts s).map (· + 1)) ∧
    (∀ result, c.run.outcome? = some result →
      c.cancelled = true ∧ result = .error Service.stoppedMessage) ∧
    (c.cancelled = true → (∀ t, c.run.move? c.service t = none) →
      c.run.outcome? = some (.error Service.stoppedMessage)) ∧
    (c.cancelled = false →
      passes + passesUnderway c.run.activity +
        (m.buffered + m.lanes.countP (fun lane => lane.forwarder = .holding) +
          total (fun lane => lane.source.held) m.lanes) = signals) ∧
    (c.cancelled = false → (∀ lane ∈ m.lanes, lane.source.sender = false) → c.Idle →
      passes = signals ∧
      ∀ more : List Act, c.log more = [] ∧
        callCounts (c.after more).service = callCounts c.service) := by
  intro c passes signals m
  have sound : Sound c := sound_after (sound_start s token) acts
  have counted (running : c.cancelled = false) :
      passes + passesUnderway c.run.activity + undelivered m = signals := by
    have hpasses : passes + passesUnderway c.run.activity + undelivered m = _ :=
      passes_after (sound_start s token) running
    rw [undelivered_start] at hpasses
    rw [hpasses]
    exact congrArg (· + (start s token).accepted acts) (Nat.zero_add _)
  refine ⟨⟨callCounts_start s token, ?_⟩, ?_, ?_, ?_, ?_⟩
  · rw [subscriptionCounts_after, subscriptionCounts_start]
  · intro result ended
    cases told : c.cancelled with
    | false =>
      rw [outcome?_eq_none sound told] at ended
      cases ended
    | true =>
      refine ⟨rfl, ?_⟩
      unfold Run.outcome? at ended
      split at ended
      · exact (Option.some.inj ended).symm
      · cases ended
  · intro told stuck
    rw [Run.outcome?, stopped_of_stuck told stuck]
  · intro running
    rw [← counted running, Junction.undelivered_eq]
    omega
  · intro running closed idle
    have exhausted := exhausted_of_closed sound running idle closed
    have received : undelivered m = 0 := undelivered_of_idle sound running idle
    have calm : passesUnderway c.run.activity = 0 := by
      rw [exhausted]
      rfl
    have hcounted := counted running
    exact ⟨by omega, after_of_finished (.inl exhausted)⟩

/-- A pass for each of the two signals, then both channels are closed. -/
def closing : List Act :=
  [.task (.forwarder 0), .task (.forwarder 0), .task .rebuild, .task .rebuild, .task .rebuild,
    .task (.forwarder 1), .task (.forwarder 1), .task .rebuild, .task .rebuild, .task .rebuild,
    .close 0, .close 1, .task (.forwarder 0), .task (.forwarder 1), .task .rebuild]

theorem one_pass_per_signal_closing :
    ((start twoProviders 0).after closing).cancelled = false ∧
      (∀ lane ∈ ((start twoProviders 0).after closing).run.merge.lanes,
        lane.source.sender = false) ∧
      ((start twoProviders 0).after closing).Idle ∧
      ((start twoProviders 0).log closing).count .replaced =
        firstSignals twoProviders + (start twoProviders 0).accepted closing ∧
      ((start twoProviders 0).after (closing ++ [.cancel 0, .task .rebuild])).run.outcome? =
        some (.error Service.stoppedMessage) := by
  have closed : ∀ lane ∈ ((start twoProviders 0).after closing).run.merge.lanes,
      lane.source.sender = false := by
    decide
  have idle : ((start twoProviders 0).after closing).Idle :=
    ⟨Run.step?_eq_none_iff.mp rfl, nofun⟩
  obtain ⟨-, -, -, -, exhausted⟩ := one_pass_per_signal twoProviders 0 closing
  obtain ⟨-, -, ended, -⟩ :=
    one_pass_per_signal twoProviders 0 (closing ++ [.cancel 0, .task .rebuild])
  exact ⟨rfl, closed, idle, (exhausted rfl closed idle).1,
    ended rfl (Run.step?_eq_none_iff.mp rfl)⟩

end Course
end Signpost.Proofs

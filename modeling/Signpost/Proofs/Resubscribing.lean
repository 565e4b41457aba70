import Signpost.Proofs.DockerSignals
import Signpost.Proofs.ProviderSignals

/-!
# Subscribing again

A watch subscribes again when a stream has ended and some time has passed since, and for no other
reason. So there are few subscriptions, whatever the streams bring and whoever receives the signals.
-/

namespace Signpost.Proofs

namespace Listening

/-- The least time between two subscriptions: the configured interval or a second, whichever is
longer, but no more than the longest wait. -/
def leastGap (s : Settings.Docker) : Nat :=
  min (max (1000 * s.retrying.interval.toNat) 1000) longestWait

/-- The stream of a subscription to a daemon, counted from zero. -/
def streamOf (d : Docker.Daemon) (n : Nat) : Docker.Stream :=
  d.streams[d.subscribed + n]?.getD {}

/-- The times at which a daemon is subscribed to again. -/
def subscribedAt (l : Listener) : List Act → List Nat
  | [] => []
  | a :: acts =>
    List.replicate (subscriptions (step l a) - subscriptions l) l.now ++
      subscribedAt (step l a) acts

/-- A watch is about to send a signal, and nobody can receive it. -/
def SignalFails (l : Listener) : Prop :=
  l.subscription.channel.receiver = false ∧
    ∃ stream, l.subscription.feed = .docker (.notifying stream)

/-- The stream that a watch is still subscribed to. -/
def openStream? : Docker.Stage → Option Docker.Stream
  | .reading stream => some stream
  | .silent stream _ => some stream
  | .notifying stream => some stream
  | .resting _ => none
  | .ended => none

section Steps

variable {s : Settings.Docker} {d : Docker.Daemon} {now : Nat} {cancelled : Bool}
  {w next : Docker.Watch} {l : Listener}

/-- What the step of a watch can be, with what it does. -/
inductive WatchMove (s : Settings.Docker) (now : Nat) (w : Docker.Watch) :
    List Deed → Docker.Watch → Prop
  | take {item : Docker.Item} {items : List Docker.Item} {ends : Bool} {stage : Docker.Stage}
      (reading : w.stage = .reading ⟨item :: items, ends⟩)
      (rest : openStream? stage = some ⟨items, ends⟩) :
      WatchMove s now w [.took item] { w with stage }
  | leave (reading : w.stage = .reading ⟨[], true⟩) :
      WatchMove s now w [.ended] { w with stage := .resting (now + leastGap s) }
  | wake {stream : Docker.Stream} {due : Nat} (silent : w.stage = .silent stream due) :
      WatchMove s now w [] { w with stage := .reading stream }
  | send {stream : Docker.Stream} (notifying : w.stage = .notifying stream)
      (accepted : w.channel.trySend.1 = .accepted) :
      WatchMove s now w [.sent] { w with stage := .reading stream, channel := w.channel.trySend.2 }
  | again {due : Nat} (resting : w.stage = .resting due) (past : due ≤ now) :
      WatchMove s now w [.subscribed] w.resubscribe
  | finish : WatchMove s now w [] w.finish

lemma step?_of_told (s : Settings.Docker) (now : Nat) (w : Docker.Watch) :
    w.step? s now true = none ∨ w.step? s now true = some w.finish := by
  cases hstage : w.stage with
  | ended => exact .inl (by simp [Docker.Watch.step?, hstage])
  | reading | silent | notifying | resting =>
    exact .inr (by simp [Docker.Watch.step?, hstage])

lemma watchMove_of_read? {stream : Docker.Stream} (reading : w.stage = .reading stream) :
    (w.read? s now stream = none ∧ stageDeeds now w.channel (.reading stream) = []) ∨
      ∃ next, w.read? s now stream = some next ∧
        WatchMove s now w (stageDeeds now w.channel (.reading stream)) next := by
  obtain ⟨items, ends⟩ := stream
  cases items with
  | nil =>
    cases ends with
    | false => exact .inl ⟨rfl, rfl⟩
    | true => exact .inr ⟨_, rfl, .leave reading⟩
  | cons item items =>
    right
    cases item with
    | silence ms => exact ⟨_, rfl, .take reading rfl⟩
    | fault f => exact ⟨_, rfl, .take reading rfl⟩
    | event e =>
      by_cases relevant : e.isRelevant s = true
      · exact ⟨_, if_pos relevant, .take reading rfl⟩
      · exact ⟨_, if_neg relevant, .take reading rfl⟩

lemma watchMove_of_notify? {stream : Docker.Stream} (notifying : w.stage = .notifying stream) :
    (w.notify? stream = none ∧ stageDeeds now w.channel (.notifying stream) = []) ∨
      ∃ next, w.notify? stream = some next ∧
        WatchMove s now w (stageDeeds now w.channel (.notifying stream)) next := by
  unfold Docker.Watch.notify? stageDeeds
  split
  · rename_i c sent
    have move : WatchMove s now w _ _ := .send notifying (by rw [sent])
    rw [sent] at move
    exact .inr ⟨_, rfl, by simpa [sent] using move⟩
  · rename_i c full
    exact .inl ⟨rfl, by simp [full]⟩
  · rename_i refused _
    have none : w.channel.trySend.1 ≠ .accepted := fun sent => refused _ (Prod.ext sent rfl)
    exact .inr ⟨_, rfl, by simpa [none] using WatchMove.finish⟩

/-- A watch that is not told to stop does what its stage says. -/
theorem watchMove_cases (s : Settings.Docker) (now : Nat) (w : Docker.Watch) :
    (w.step? s now false = none ∧ stageDeeds now w.channel w.stage = []) ∨
      ∃ next, w.step? s now false = some next ∧
        WatchMove s now w (stageDeeds now w.channel w.stage) next := by
  cases hstage : w.stage with
  | ended => exact .inl ⟨by simp [Docker.Watch.step?, hstage], rfl⟩
  | reading stream =>
    have step : w.step? s now false = w.read? s now stream := by simp [Docker.Watch.step?, hstage]
    rw [step]
    exact watchMove_of_read? hstage
  | silent stream due =>
    by_cases past : due ≤ now
    · exact .inr ⟨_, by simp [Docker.Watch.step?, hstage, past], .wake hstage⟩
    · exact .inl ⟨by simp [Docker.Watch.step?, hstage, past], rfl⟩
  | notifying stream =>
    have step : w.step? s now false = w.notify? stream := by simp [Docker.Watch.step?, hstage]
    rw [step]
    exact watchMove_of_notify? hstage
  | resting due =>
    by_cases past : due ≤ now
    · rw [stageDeeds, if_pos past]
      exact .inr ⟨_, by simp [Docker.Watch.step?, hstage, past], .again hstage past⟩
    · rw [stageDeeds, if_neg past]
      exact .inl ⟨by simp [Docker.Watch.step?, hstage, past], rfl⟩

/-- What can happen to one who listens to a watch: the watch takes a step, or nothing but its
channel and the world around it changes. -/
theorem watching_step (watches : l.subscription = watching s w) (a : Act) :
    (∃ next, (step l a).subscription = watching s next ∧ (step l a).now = l.now ∧
        (step l a).cancelled = l.cancelled ∧ WatchMove s l.now w (deeds l a) next ∧
        (l.cancelled = true → next = w.finish)) ∨
      (∃ c, (step l a).subscription = watching s { w with channel := c } ∧
        (w.channel.receiver = false → c.receiver = false)) ∧
        l.now ≤ (step l a).now ∧ deeds l a = [] := by
  have same : l.subscription = watching s { w with channel := w.channel } := watches
  cases a with
  | step =>
    have hstep := step?_of_watching watches
    cases told : l.cancelled with
    | true =>
      have idle : deeds l .step = [] := by simp [deeds, told]
      rw [told] at hstep
      rcases step?_of_told s l.now w with still | stops
      · rw [still] at hstep
        rw [step_of_none hstep]
        exact .inr ⟨⟨_, same, id⟩, Nat.le_refl _, idle⟩
      · rw [stops] at hstep
        rw [step_of_some hstep, idle]
        exact .inl ⟨_, rfl, rfl, rfl, .finish, fun _ => rfl⟩
    | false =>
      rw [deeds_of_watching watches told]
      rw [told] at hstep
      rcases watchMove_cases s l.now w with ⟨still, idle⟩ | ⟨next, moves, move⟩
      · rw [still] at hstep
        rw [step_of_none hstep]
        exact .inr ⟨⟨_, same, id⟩, Nat.le_refl _, idle⟩
      · rw [moves] at hstep
        rw [step_of_some hstep]
        exact .inl ⟨next, rfl, rfl, rfl, move, Bool.noConfusion⟩
  | receive =>
    refine .inr ⟨⟨w.channel.receive.2, ?_, (receiver_of_receive w.channel).trans⟩,
      Nat.le_refl _, rfl⟩
    simp only [step, Listener.receive, watches, watching]
  | pass ms => exact .inr ⟨⟨_, same, id⟩, Nat.le_add_right _ _, rfl⟩
  | edit e =>
    refine .inr ⟨⟨w.channel, ?_, id⟩, Nat.le_refl _, rfl⟩
    simp only [step, Listener.edit, watches, Subscription.notice, watching]
  | cancel => exact .inr ⟨⟨_, same, id⟩, Nat.le_refl _, rfl⟩
  | abandon =>
    refine .inr ⟨⟨w.channel.abandon, ?_, fun _ => rfl⟩, Nat.le_refl _, rfl⟩
    simp only [step, Listener.abandon, watches, watching]

lemma subscriptions_of_watching (watches : l.subscription = watching s w) :
    subscriptions l = w.daemon.subscribed := by
  rw [subscriptions, watches]
  rfl

/-- A watch whose last subscription was at the time `last`. -/
structure Paced (s : Settings.Docker) (last : Nat) (l : Listener) : Prop where
  watches : ∃ w, l.subscription = watching s w ∧
    ∀ due, w.stage = .resting due → last + leastGap s ≤ due
  past : last ≤ l.now

lemma paced_start (files : Files.Tree) (s : Settings.Docker) (d : Docker.Daemon) :
    Paced s 0 (.start files (.docker s d)) where
  watches := ⟨.start d, rfl, nofun⟩
  past := Nat.le_refl 0

lemma paced_step {last : Nat} (h : Paced s last l) (a : Act) :
    (subscriptions (step l a) = subscriptions l ∧ Paced s last (step l a)) ∨
      (subscriptions (step l a) = subscriptions l + 1 ∧ last + leastGap s ≤ l.now ∧
        Paced s l.now (step l a)) := by
  obtain ⟨⟨w, watches, rests⟩, past⟩ := h
  have before := subscriptions_of_watching watches
  rcases watching_step watches a with ⟨next, later, time, -, move, -⟩ |
    ⟨⟨c, later, -⟩, time, -⟩
  · have counts := subscriptions_of_watching later
    rw [before, counts]
    have pastToo : last ≤ (step l a).now := time ▸ past
    generalize deeds l a = done at move
    cases move with
    | take reading rest =>
      refine .inl ⟨rfl, ⟨_, later, ?_⟩, pastToo⟩
      rintro due rfl
      cases rest
    | leave reading =>
      refine .inl ⟨rfl, ⟨_, later, ?_⟩, pastToo⟩
      rintro due ⟨⟩
      exact Nat.add_le_add_right past _
    | again resting due =>
      exact .inr ⟨rfl, Nat.le_trans (rests _ resting) due, ⟨_, later, nofun⟩, time ▸ Nat.le_refl _⟩
    | wake | send | finish => exact .inl ⟨rfl, ⟨_, later, nofun⟩, pastToo⟩
  · rw [before, subscriptions_of_watching later]
    exact .inl ⟨rfl, ⟨_, later, rests⟩, Nat.le_trans past time⟩

/-- All subscriptions from some time on are apart. -/
theorem paced_after {last : Nat} (acts : List Act) (h : Paced s last l) :
    (last :: subscribedAt l acts).IsChain (fun earlier later => earlier + leastGap s ≤ later) ∧
      subscriptions (after l acts) = subscriptions l + (subscribedAt l acts).length ∧
      last + (subscribedAt l acts).length * leastGap s ≤ (after l acts).now := by
  induction acts generalizing l last with
  | nil => exact ⟨.singleton _, rfl, by simpa [subscribedAt] using h.past⟩
  | cons a acts ih =>
    rcases paced_step h a with ⟨same, later⟩ | ⟨more, apart, later⟩
    · have none : subscribedAt l (a :: acts) = subscribedAt (step l a) acts := by
        simp [subscribedAt, same]
      rw [none, after_cons, ← same]
      exact ih later
    · have one : subscribedAt l (a :: acts) = l.now :: subscribedAt (step l a) acts := by
        simp [subscribedAt, more]
      obtain ⟨chain, counts, spent⟩ := ih later
      rw [one, after_cons]
      refine ⟨.cons_cons apart chain, ?_, ?_⟩
      · rw [counts, more, List.length_cons]
        omega
      · rw [List.length_cons, Nat.succ_mul]
        omega

/-- How far a watch has come in the stream of its last subscription. -/
inductive Reads (d : Docker.Daemon) (log : List Deed) (n : Nat) : Docker.Stage → Prop
  | within {stage : Docker.Stage} {items : List Docker.Item} {ends : Bool}
      (rest : openStream? stage = some ⟨items, ends⟩)
      (read : consumed log ++ items = script d (n + 1)) (same : ends = (streamOf d n).ends) :
      Reads d log n stage
  | resting {due : Nat} (read : consumed log = script d (n + 1))
      (ends : (streamOf d n).ends = true) : Reads d log n (.resting due)
  | ended : Reads d log n .ended

/-- What is true of a watch that has subscribed again `n` times. -/
structure Followed (d : Docker.Daemon) (log : List Deed) (n : Nat) (w : Docker.Watch) : Prop where
  daemon : w.daemon = { d with subscribed := d.subscribed + (n + 1) }
  reads : Reads d log n w.stage
  taken : script d n <+: consumed log
  ends : ∀ k, k < n → (streamOf d k).ends = true

lemma followed_start (d : Docker.Daemon) : Followed d [] 0 (.start d) where
  daemon := rfl
  reads := .within rfl (by simp [script, consumed]; rfl) rfl
  taken := List.prefix_refl _
  ends := nofun

lemma reads_of_open {log : List Deed} {n : Nat} {stage : Docker.Stage} {stream : Docker.Stream}
    (h : Reads d log n stage) (rest : openStream? stage = some stream) :
    consumed log ++ stream.items = script d (n + 1) ∧ stream.ends = (streamOf d n).ends := by
  cases h with
  | within restToo read same =>
    obtain rfl := Option.some.inj (restToo.symm.trans rest)
    exact ⟨read, same⟩
  | resting => cases rest
  | ended => cases rest

lemma followed_move {log done : List Deed} {n : Nat} (h : Followed d log n w)
    (move : WatchMove s now w done next) :
    Followed d (log ++ done) (n + done.count .subscribed) next := by
  obtain ⟨daemon, reads, taken, ends⟩ := h
  have takenToo : script d n <+: consumed (log ++ done) := by
    rw [consumed_append]
    exact taken.trans (List.prefix_append _ _)
  cases move with
  | take reading rest =>
    obtain ⟨read, same⟩ := reads_of_open reads (by rw [reading]; rfl)
    exact ⟨daemon, .within rest (by simpa using read) same, takenToo, ends⟩
  | leave reading =>
    obtain ⟨read, same⟩ := reads_of_open reads (by rw [reading]; rfl)
    exact ⟨daemon, .resting (by simpa using read) same.symm, takenToo, ends⟩
  | wake silent =>
    obtain ⟨read, same⟩ := reads_of_open reads (by rw [silent]; rfl)
    exact ⟨daemon, .within rfl (by simpa using read) same, takenToo, ends⟩
  | send notifying =>
    obtain ⟨read, same⟩ := reads_of_open reads (by rw [notifying]; rfl)
    exact ⟨daemon, .within rfl (by simpa using read) same, takenToo, ends⟩
  | again resting =>
    rw [resting] at reads
    cases reads with
    | within rest => cases rest
    | resting read ended =>
      have fresh : w.daemon.subscribe.1 = streamOf d (n + 1) := by rw [daemon]; rfl
      rw [List.count_singleton_self]
      have opened : openStream? (.notifying w.daemon.subscribe.1) = some w.daemon.subscribe.1 := rfl
      refine ⟨?_, .within opened ?_ ?_, ?_, ?_⟩
      · simp only [Docker.Watch.resubscribe, Docker.Daemon.subscribe, daemon]
        rfl
      · rw [consumed_append, read, script_succ d (n + 1), consumed_subscribed, List.append_nil]
        exact congrArg (fun stream : Docker.Stream => script d (n + 1) ++ stream.items) fresh
      · exact congrArg Docker.Stream.ends fresh
      · rw [consumed_append, read]
        exact List.prefix_append _ _
      · intro k lt
        rcases Nat.lt_succ_iff_lt_or_eq.mp lt with lt | rfl
        · exact ends k lt
        · exact ended
  | finish => exact ⟨daemon, .ended, takenToo, ends⟩

/-- All that was taken from the streams was taken in order, and to their ends. -/
theorem followed_after {log : List Deed} {n : Nat} (acts : List Act)
    (watches : l.subscription = watching s w) (h : Followed d log n w) :
    ∃ next, (after l acts).subscription = watching s next ∧
      Followed d (log ++ Listening.log l acts) (n + (Listening.log l acts).count .subscribed)
        next := by
  induction acts generalizing l w log n with
  | nil => exact ⟨w, watches, by simpa [Listening.log] using h⟩
  | cons a acts ih =>
    rw [after_cons, Listening.log, List.count_append, ← List.append_assoc, ← Nat.add_assoc]
    rcases watching_step watches a with ⟨next, later, -, -, move, -⟩ | ⟨⟨c, later, -⟩, -, idle⟩
    · exact ih later (followed_move h move)
    · rw [idle, List.append_nil]
      exact ih later ⟨h.daemon, h.reads, h.taken, h.ends⟩

/-- How often a watch can subscribe again when nobody receives its signals. -/
def chances : Docker.Stage → Nat
  | .reading _ => 1
  | .silent _ _ => 1
  | .notifying _ => 0
  | .resting _ => 1
  | .ended => 0

lemma chances_le (stage : Docker.Stage) : chances stage ≤ 1 := by
  cases stage <;> simp [chances]

/-- A signal that nobody can receive is the last thing that a watch does. -/
lemma chances_step (watches : l.subscription = watching s w) (gone : w.channel.receiver = false)
    (a : Act) : ∃ next, (step l a).subscription = watching s next ∧
      next.channel.receiver = false ∧
      next.daemon.subscribed + chances next.stage ≤ w.daemon.subscribed + chances w.stage := by
  rcases watching_step watches a with ⟨next, later, -, -, move, -⟩ | ⟨⟨c, later, goneToo⟩, -, -⟩
  · refine ⟨next, later, ?_⟩
    generalize deeds l a = done at move
    cases move with
    | take reading =>
      rw [reading]
      exact ⟨gone, Nat.add_le_add_left (chances_le _) _⟩
    | leave reading => exact ⟨gone, by simp [chances, reading]⟩
    | wake silent => exact ⟨gone, by simp [chances, silent]⟩
    | send notifying accepted =>
      rcases trySend_cases w.channel with ⟨-, hs⟩ | ⟨-, -, hs⟩ | ⟨-, receiver, -⟩ | ⟨-, -, -, hs⟩
      · simp [hs] at accepted
      · simp [hs] at accepted
      · simp [gone] at receiver
      · simp [hs] at accepted
    | again resting =>
      rw [resting]
      exact ⟨gone, Nat.le_refl _⟩
    | finish => exact ⟨gone, Nat.add_le_add_left (Nat.zero_le _) _⟩
  · exact ⟨_, later, goneToo gone, Nat.le_refl _⟩

lemma subscriptions_after_gone (acts : List Act) (watches : l.subscription = watching s w)
    (gone : w.channel.receiver = false) :
    subscriptions (after l acts) ≤ subscriptions l + chances w.stage := by
  rw [subscriptions_of_watching watches]
  induction acts generalizing l w with
  | nil =>
    rw [after_nil, subscriptions_of_watching watches]
    exact Nat.le_add_right _ _
  | cons a acts ih =>
    obtain ⟨next, later, goneToo, le⟩ := chances_step watches gone a
    exact Nat.le_trans (ih later goneToo) le

lemma subscriptions_after_told {acts : List Act} (watches : l.subscription = watching s w)
    (told : l.cancelled = true) : subscriptions (after l acts) = subscriptions l := by
  induction acts generalizing l w with
  | nil => rfl
  | cons a acts ih =>
    have toldToo : (step l a).cancelled = true := cancelled_step.mpr (.inl told)
    rw [after_cons, subscriptions_of_watching watches]
    rcases watching_step watches a with ⟨next, later, -, -, -, stops⟩ | ⟨⟨c, later, -⟩, -, -⟩
    · obtain rfl := stops told
      rw [ih later toldToo, subscriptions_of_watching later]
      rfl
    · rw [ih later toldToo, subscriptions_of_watching later]

end Steps

section Start

variable (files : Files.Tree) (s : Settings.Docker) (d : Docker.Daemon)

lemma subscribedAt_append (l : Listener) (first second : List Act) :
    subscribedAt l (first ++ second) =
      subscribedAt l first ++ subscribedAt (after l first) second := by
  induction first generalizing l with
  | nil => rfl
  | cons a first ih => rw [List.cons_append, subscribedAt, ih, subscribedAt, List.append_assoc]; rfl

lemma subscriptions_after_start (acts : List Act) :
    subscriptions (after (.start files (.docker s d)) acts) =
      d.subscribed + 1 + (subscribedAt (.start files (.docker s d)) acts).length :=
  (paced_after acts (paced_start files s d)).2.1

lemma subscriptions_mono (acts more : List Act) :
    subscriptions (after (.start files (.docker s d)) acts) ≤
      subscriptions (after (.start files (.docker s d)) (acts ++ more)) := by
  rw [subscriptions_after_start, subscriptions_after_start, subscribedAt_append, List.length_append]
  omega

lemma exists_followed (acts : List Act) :
    ∃ w, (after (.start files (.docker s d)) acts).subscription = watching s w ∧
      Followed d (log (.start files (.docker s d)) acts)
        (subscribedAt (.start files (.docker s d)) acts).length w := by
  have watches : (Listener.start files (.docker s d)).subscription =
      watching s (Docker.Watch.start d) := rfl
  obtain ⟨w, later, h⟩ := followed_after acts watches (followed_start d)
  have counts := subscriptions_of_watching later
  rw [subscriptions_after_start, h.daemon] at counts
  have same : (subscribedAt (.start files (.docker s d)) acts).length =
      0 + (log (.start files (.docker s d)) acts).count .subscribed := by
    dsimp only at counts
    omega
  rw [same]
  exact ⟨w, later, h⟩

end Start

/-- What whoever runs a daemon can rely on. -/
structure RateLimited (s : Settings.Docker) (d : Docker.Daemon) (first : Listener) : Prop where
  /-- There is a subscription at the beginning, and each further one comes some time after the one
  before it. -/
  apart : ∀ acts, (first.now :: subscribedAt first acts).IsChain fun earlier later =>
    earlier + leastGap s ≤ later
  counted : ∀ acts, subscriptions (after first acts) =
    d.subscribed + 1 + (subscribedAt first acts).length
  few : ∀ acts, 1 + (subscribedAt first acts).length ≤ 1 + (after first acts).now / leastGap s
  gap : 1000 * s.retrying.interval.toNat ≤ longestWait →
    leastGap s = max (1000 * s.retrying.interval.toNat) 1000
  /-- A stream that does not end is the last one. -/
  ended : ∀ acts n, n < (subscribedAt first acts).length → (streamOf d n).ends = true
  /-- A stream is not left before all that it brings is taken, faults too. -/
  taken : ∀ acts, script d (subscribedAt first acts).length <+: consumed (log first acts)
  told : ∀ acts more, (after first acts).cancelled = true →
    subscriptions (after first (acts ++ more)) = subscriptions (after first acts)
  /-- Without a receiver there is at most one more subscription, whose signal fails. -/
  gone : ∀ acts more, (after first acts).subscription.channel.receiver = false →
    subscriptions (after first (acts ++ more)) ≤ subscriptions (after first acts) + 1
  failed : ∀ acts more, SignalFails (after first acts) →
    subscriptions (after first (acts ++ more)) = subscriptions (after first acts)

/-- A daemon is not subscribed to more often than the settings allow, even if all its streams end at
once, and not at all once the watch is told to stop or a signal has failed. -/
theorem subscriptions_rate_limited (files : Files.Tree) (s : Settings.Docker) (d : Docker.Daemon) :
    RateLimited s d (.start files (.docker s d)) where
  apart acts := (paced_after acts (paced_start files s d)).1
  counted := subscriptions_after_start files s d
  few acts := by
    have spent := (paced_after acts (paced_start files s d)).2.2
    rw [Nat.zero_add] at spent
    have pos : 0 < leastGap s := by
      simp only [leastGap, longestWait]
      omega
    exact Nat.add_le_add_left ((Nat.le_div_iff_mul_le pos).mpr spent) 1
  gap fits := Nat.min_eq_left (Nat.max_le.mpr ⟨fits, by decide⟩)
  ended acts n lt := by
    obtain ⟨w, -, followed⟩ := exists_followed files s d acts
    exact followed.ends n lt
  taken acts := by
    obtain ⟨w, -, followed⟩ := exists_followed files s d acts
    exact followed.taken
  told acts more told := by
    obtain ⟨w, watches, -⟩ := exists_followed files s d acts
    rw [after_append, subscriptions_after_told watches told]
  gone acts more gone := by
    obtain ⟨w, watches, -⟩ := exists_followed files s d acts
    rw [watches] at gone
    rw [after_append]
    have le := subscriptions_after_gone more watches gone
    exact Nat.le_trans le (Nat.add_le_add_left (chances_le _) _)
  failed acts more := by
    rintro ⟨gone, stream, notifying⟩
    obtain ⟨w, watches, -⟩ := exists_followed files s d acts
    rw [watches] at gone notifying
    have stage : w.stage = .notifying stream := Feed.docker.inj notifying
    have le := subscriptions_after_gone more watches gone
    rw [stage, ← after_append] at le
    exact Nat.le_antisymm le (subscriptions_mono files s d acts more)

/-- All streams end at once, after a fault or without any item. -/
def shortStreams : Docker.Daemon where
  streams := [⟨[.fault (.ofDaemon .timeout)], true⟩, ⟨[], true⟩, ⟨[], true⟩]

theorem subscriptions_rate_limited_shortStreams :
    let s : Settings.Docker := { retrying := { interval := 0 } }
    let first := Listener.start {} (.docker s shortStreams)
    let acts : List Act := [.step, .step, .receive, .pass 1000, .step, .step, .receive, .step,
      .pass 1000, .abandon, .step]
    1000 * s.retrying.interval.toNat ≤ longestWait ∧ leastGap s = 1000 ∧
      subscribedAt first acts = [1000, 2000] ∧ SignalFails (after first acts) ∧
      subscriptions (after first (acts ++ [.step, .pass 1000, .step])) = 3 := by
  intro s first acts
  have limited := subscriptions_rate_limited {} s shortStreams
  have fits : 1000 * s.retrying.interval.toNat ≤ longestWait := by decide
  have fails : SignalFails (after first acts) := ⟨by decide +kernel, ⟨[], true⟩, by decide +kernel⟩
  have three : subscriptions (after first acts) = 3 := by decide +kernel
  exact ⟨fits, limited.gap fits, by decide +kernel, fails,
    (limited.failed acts _ fails).trans three⟩

/-- An interval of more than thirty years is cut short. -/
theorem thirtyYears_cut_short :
    let s : Settings.Docker := { retrying := { interval := 946080001 } }
    let first := Listener.start {} (.docker s { streams := [⟨[], true⟩] })
    ¬(first.now :: subscribedAt first [.step, .pass longestWait, .step]).IsChain
      fun earlier later => earlier + max (1000 * s.retrying.interval.toNat) 1000 ≤ later := by
  decide

end Listening
end Signpost.Proofs

import Mathlib.Data.List.Induction
import Signpost.Docker.Watch
import Signpost.Proofs.MergeSteps

/-!
# Watching the events of a daemon

A watch takes one item of a stream after the other. It sends a signal right after an item that may
change the rules, and right after it has subscribed again, and at no other time.
-/

namespace Signpost.Proofs

/-- What identifies the container that an actor stands for: the name among its attributes, without
the slashes in front of it, or without such a name its identifier. -/
def Identifies (actor : Docker.Actor) (name : String) : Prop :=
  (∃ attributes full, actor.attributes = some attributes ∧
    attributes.lookup "name" = some full ∧ name = Docker.bareName full) ∨
  ((∀ attributes, actor.attributes = some attributes → attributes.lookup "name" = none) ∧
    actor.id = some name)

/-- An event that tells of a container that starts to run or ceases to, if the container can be
identified and is not excluded. -/
structure Concerns (s : Settings.Docker) (e : Docker.Event) : Prop where
  kind : e.kind = some "container"
  action : ∃ action, e.action = some action ∧
    action ∈ ["start", "stop", "die", "destroy", "restart", "pause", "unpause"]
  container : ∃ actor name, e.actor = some actor ∧ Identifies actor name ∧ name ∉ s.excluded

/-- Faults and silences concern nobody. -/
def ItemConcerns (s : Settings.Docker) : Docker.Item → Prop
  | .event e => Concerns s e
  | .fault _ => False
  | .silence _ => False

lemma subject?_eq_some {e : Docker.Event} {name : String} :
    e.subject? = some name ↔ ∃ actor, e.actor = some actor ∧ Identifies actor name := by
  unfold Docker.Event.subject?
  cases e.actor with
  | none => simp
  | some actor =>
    simp only [Option.bind_eq_bind, Option.bind_some, Option.some.injEq, exists_eq_left']
    unfold Identifies
    cases found : actor.attributes.bind (List.lookup "name") with
    | none =>
      have nameless := Option.bind_eq_none_iff.mp found
      constructor
      · exact fun id => .inr ⟨nameless, id⟩
      · rintro (⟨attributes, full, hattributes, hfull, -⟩ | ⟨-, id⟩)
        · rw [nameless attributes hattributes] at hfull
          cases hfull
        · exact id
    | some full =>
      obtain ⟨attributes, hattributes, hfull⟩ := Option.bind_eq_some_iff.mp found
      constructor
      · rintro ⟨rfl⟩
        exact .inl ⟨attributes, full, hattributes, hfull, rfl⟩
      · rintro (⟨others, other, hothers, hother, rfl⟩ | ⟨nameless, -⟩)
        · rw [hattributes] at hothers
          cases hothers
          rw [hfull] at hother
          cases hother
          rfl
        · rw [nameless attributes hattributes] at hfull
          cases hfull

lemma isRelevant_iff {s : Settings.Docker} {e : Docker.Event} :
    e.isRelevant s = true ↔ Concerns s e := by
  have watched (name : String) : e.watched? = some name ↔ e.kind = some "container" ∧
      (∃ action, e.action = some action ∧ action ∈ Docker.Event.watchedActions) ∧
      e.subject? = some name := by
    unfold Docker.Event.watched? Docker.Event.watchedKind
    cases e.action with
    | none => simp
    | some action => simp
  have relevant : e.isRelevant s = true ↔ ∃ name, e.watched? = some name ∧ name ∉ s.excluded := by
    unfold Docker.Event.isRelevant
    cases e.watched? with
    | none => simp
    | some name => simp
  rw [relevant]
  constructor
  · rintro ⟨name, h, included⟩
    obtain ⟨kind, action, subject⟩ := (watched name).mp h
    obtain ⟨actor, found, identifies⟩ := subject?_eq_some.mp subject
    exact ⟨kind, action, actor, name, found, identifies, included⟩
  · rintro ⟨kind, action, actor, name, found, identifies, included⟩
    exact ⟨name, (watched name).mpr ⟨kind, action, subject?_eq_some.mpr ⟨actor, found, identifies⟩⟩,
      included⟩

instance (s : Settings.Docker) (e : Docker.Event) : Decidable (Concerns s e) :=
  decidable_of_iff _ isRelevant_iff

instance (s : Settings.Docker) : DecidablePred (ItemConcerns s)
  | .event e => inferInstanceAs (Decidable (Concerns s e))
  | .fault _ => inferInstanceAs (Decidable False)
  | .silence _ => inferInstanceAs (Decidable False)

/-- What a watch does. -/
inductive Deed
  | took (item : Docker.Item)
  /-- It comes to the end of a stream. -/
  | ended
  /-- It subscribes again. -/
  | subscribed
  /-- The channel accepts a signal from it. -/
  | sent
  deriving DecidableEq

/-- What a watch owes a signal for. -/
def CallsForSignal (s : Settings.Docker) : Deed → Prop
  | .took item => ItemConcerns s item
  | .subscribed => True
  | .ended => False
  | .sent => False

/-- What a watch does in its next step. -/
def stageDeeds (now : Nat) (channel : Signal.Channel) : Docker.Stage → List Deed
  | .reading ⟨item :: _, _⟩ => [.took item]
  | .reading ⟨[], true⟩ => [.ended]
  | .reading ⟨[], false⟩ => []
  | .silent _ _ => []
  | .notifying _ => if channel.trySend.1 = .accepted then [.sent] else []
  | .resting due => if due ≤ now then [.subscribed] else []
  | .ended => []

/-- The items that were taken from the streams. -/
def consumed (log : List Deed) : List Docker.Item :=
  log.filterMap fun
    | .took item => some item
    | _ => none

/-- The items of the first streams that a daemon has for its subscriptions. -/
def script (d : Docker.Daemon) (subscriptions : Nat) : List Docker.Item :=
  (List.range subscriptions).flatMap fun k => (d.streams[d.subscribed + k]?.getD {}).items

/-- The items that are left of the stream of a watch. -/
def stageLeft : Docker.Stage → List Docker.Item
  | .reading stream => stream.items
  | .silent stream _ => stream.items
  | .notifying stream => stream.items
  | .resting _ => []
  | .ended => []

/-- What a watch is about to do. -/
inductive Turn
  /-- To take what the stream brings. -/
  | free
  /-- To send a signal. -/
  | owing
  /-- To subscribe again. -/
  | away
  | over

def stageTurn : Docker.Stage → Turn
  | .reading _ => .free
  | .silent _ _ => .free
  | .notifying _ => .owing
  | .resting _ => .away
  | .ended => .over

/-- The order in which a watch does things that does not end. -/
inductive InTurn (s : Settings.Docker) : List Deed → Turn → Prop
  | start : InTurn s [] .free
  | pass {log : List Deed} {item : Docker.Item} (before : InTurn s log .free)
      (idle : ¬ItemConcerns s item) : InTurn s (log ++ [.took item]) .free
  | notice {log : List Deed} {item : Docker.Item} (before : InTurn s log .free)
      (concerns : ItemConcerns s item) : InTurn s (log ++ [.took item]) .owing
  | leave {log : List Deed} (before : InTurn s log .free) : InTurn s (log ++ [.ended]) .away
  | again {log : List Deed} (before : InTurn s log .away) : InTurn s (log ++ [.subscribed]) .owing
  | send {log : List Deed} (before : InTurn s log .owing) : InTurn s (log ++ [.sent]) .free

/-- How many signals are due and not yet sent. -/
def Turn.owed : Turn → Nat
  | owing => 1
  | _ => 0

section Order

variable {s : Settings.Docker} {log : List Deed} {turn : Turn}

@[simp]
lemma consumed_append (first second : List Deed) :
    consumed (first ++ second) = consumed first ++ consumed second :=
  List.filterMap_append

@[simp]
lemma consumed_took (item : Docker.Item) : consumed [.took item] = [item] := rfl

@[simp]
lemma consumed_ended : consumed [.ended] = [] := rfl

@[simp]
lemma consumed_subscribed : consumed [.subscribed] = [] := rfl

@[simp]
lemma consumed_sent : consumed [.sent] = [] := rfl

/-- How many of the items that were taken concern someone. -/
def causes (s : Settings.Docker) (log : List Deed) : Nat :=
  (consumed log).countP fun item => decide (ItemConcerns s item)

theorem count_of_inTurn (h : InTurn s log turn) :
    log.count .sent + turn.owed = causes s log + log.count .subscribed := by
  induction h with
  | start => rfl
  | pass _ idle ih => simpa [causes, Turn.owed, idle] using ih
  | notice _ concerns ih =>
    simp [causes, Turn.owed, concerns] at ih ⊢
    omega
  | leave _ ih => simpa [causes, Turn.owed] using ih
  | again _ ih =>
    simp [causes, Turn.owed] at ih ⊢
    omega
  | send _ ih => simpa [causes, Turn.owed] using ih

lemma calls_of_owing (h : InTurn s log .owing) :
    ∃ earlier deed, log = earlier ++ [deed] ∧ CallsForSignal s deed := by
  cases h with
  | notice _ concerns => exact ⟨_, _, rfl, concerns⟩
  | again => exact ⟨_, _, rfl, trivial⟩

/-- What came last tells whether a signal is owed, and a signal is sent if and only if one was. -/
lemma turn_append_last {last : Deed} (h : InTurn s (log ++ [last]) turn) :
    (CallsForSignal s last → turn = .owing) ∧
      ∃ earlier, InTurn s log earlier ∧ (last = .sent ↔ earlier = .owing) := by
  generalize hwhole : log ++ [last] = whole at h
  cases h with
  | start => simp at hwhole
  | pass before idle =>
    obtain ⟨rfl, rfl⟩ : log = _ ∧ last = _ := by simpa using hwhole
    exact ⟨fun concerns => absurd concerns idle, .free, before, by simp⟩
  | notice before =>
    obtain ⟨rfl, rfl⟩ : log = _ ∧ last = _ := by simpa using hwhole
    exact ⟨fun _ => rfl, .free, before, by simp⟩
  | leave before =>
    obtain ⟨rfl, rfl⟩ : log = _ ∧ last = _ := by simpa using hwhole
    exact ⟨False.elim, .free, before, by simp⟩
  | again before =>
    obtain ⟨rfl, rfl⟩ : log = _ ∧ last = _ := by simpa using hwhole
    exact ⟨fun _ => rfl, .away, before, by simp⟩
  | send before =>
    obtain ⟨rfl, rfl⟩ : log = _ ∧ last = _ := by simpa using hwhole
    exact ⟨False.elim, .owing, before, by simp⟩

lemma inTurn_of_append {first second : List Deed} (h : InTurn s (first ++ second) turn) :
    ∃ earlier, InTurn s first earlier := by
  -- the order grows at the end of the log
  induction second using List.reverseRecOn generalizing turn with
  | nil => exact ⟨turn, by simpa using h⟩
  | append_singleton second last ih =>
    rw [← List.append_assoc] at h
    obtain ⟨-, earlier, before, -⟩ := turn_append_last h
    exact ih before

/-- Every signal comes right after what called for it. -/
theorem prompt_of_inTurn {before rest : List Deed}
    (h : InTurn s (before ++ .sent :: rest) turn) :
    ∃ earlier deed, before = earlier ++ [deed] ∧ CallsForSignal s deed := by
  rw [List.append_cons] at h
  obtain ⟨_, upTo⟩ := inTurn_of_append h
  obtain ⟨-, earlier, owing, sent⟩ := turn_append_last upTo
  rw [sent.mp rfl] at owing
  exact calls_of_owing owing

/-- Nothing comes between what calls for a signal and the signal. -/
theorem answered_of_inTurn {before rest : List Deed} {deed : Deed}
    (h : InTurn s (before ++ deed :: rest) turn) (calls : CallsForSignal s deed) :
    rest = [] ∨ ∃ later, rest = .sent :: later := by
  cases rest with
  | nil => exact .inl rfl
  | cons next later =>
    rw [List.append_cons, List.append_cons] at h
    obtain ⟨_, upTo⟩ := inTurn_of_append h
    obtain ⟨-, earlier, called, sent⟩ := turn_append_last upTo
    obtain ⟨owing, -⟩ := turn_append_last called
    exact .inr ⟨later, by rw [sent.mpr (owing calls)]⟩

end Order

section Steps

variable {s : Settings.Docker} {d : Docker.Daemon} {now received : Nat} {w next : Docker.Watch}
  {log deeds : List Deed}

/-- What the step of a watch can be that is not told to stop, if its signals can be received. -/
inductive WatchStep (s : Settings.Docker) (w : Docker.Watch) : List Deed → Docker.Watch → Prop
  | pass {item : Docker.Item} {items : List Docker.Item} {ends : Bool} {stage : Docker.Stage}
      (reading : w.stage = .reading ⟨item :: items, ends⟩) (idle : ¬ItemConcerns s item)
      (turn : stageTurn stage = .free) (left : stageLeft stage = items) :
      WatchStep s w [.took item] { w with stage }
  | notice {item : Docker.Item} {items : List Docker.Item} {ends : Bool}
      (reading : w.stage = .reading ⟨item :: items, ends⟩) (concerns : ItemConcerns s item) :
      WatchStep s w [.took item] { w with stage := .notifying ⟨items, ends⟩ }
  | leave (reading : w.stage = .reading ⟨[], true⟩) (due : Nat) :
      WatchStep s w [.ended] { w with stage := .resting due }
  | wake {stream : Docker.Stream} {due : Nat} (silent : w.stage = .silent stream due) :
      WatchStep s w [] { w with stage := .reading stream }
  | send {stream : Docker.Stream} (notifying : w.stage = .notifying stream)
      (channel : w.channel.trySend = (.accepted, { w.channel with held := w.channel.held + 1 })) :
      WatchStep s w [.sent] { w with
        stage := .reading stream
        channel := { w.channel with held := w.channel.held + 1 } }
  | again {due : Nat} (resting : w.stage = .resting due) :
      WatchStep s w [.subscribed] w.resubscribe

lemma read_cases {stream : Docker.Stream} (reading : w.stage = .reading stream) :
    (w.read? s now stream = none ∧ stageDeeds now w.channel (.reading stream) = []) ∨
      ∃ next, w.read? s now stream = some next ∧
        WatchStep s w (stageDeeds now w.channel (.reading stream)) next := by
  obtain ⟨items, ends⟩ := stream
  cases items with
  | nil =>
    cases ends with
    | false => exact .inl ⟨rfl, rfl⟩
    | true => exact .inr ⟨_, rfl, .leave reading _⟩
  | cons item items =>
    right
    cases item with
    | silence ms => exact ⟨_, rfl, .pass reading id rfl rfl⟩
    | fault f => exact ⟨_, rfl, .pass reading id rfl rfl⟩
    | event e =>
      by_cases relevant : e.isRelevant s = true
      · exact ⟨_, if_pos relevant, .notice reading (isRelevant_iff.mp relevant)⟩
      · have idle : ¬Concerns s e := fun concerns => relevant (isRelevant_iff.mpr concerns)
        exact ⟨_, if_neg relevant, .pass reading idle rfl rfl⟩

/-- A watch that is not told to stop does nothing if it cannot take a step, and takes one of the
possible steps if it can. -/
theorem watch_cases (sender : w.channel.sender = true) (receiver : w.channel.receiver = true) :
    (w.step? s now false = none ∧ stageDeeds now w.channel w.stage = []) ∨
      ∃ next, w.step? s now false = some next ∧
        WatchStep s w (stageDeeds now w.channel w.stage) next := by
  cases hstage : w.stage with
  | ended => exact .inl ⟨by simp [Docker.Watch.step?, hstage], rfl⟩
  | reading stream =>
    have step : w.step? s now false = w.read? s now stream := by simp [Docker.Watch.step?, hstage]
    rw [step]
    exact read_cases hstage
  | silent stream due =>
    by_cases past : due ≤ now
    · exact .inr ⟨{ w with stage := .reading stream },
        by simp [Docker.Watch.step?, hstage, past], .wake hstage⟩
    · exact .inl ⟨by simp [Docker.Watch.step?, hstage, past], rfl⟩
  | notifying stream =>
    have step : w.step? s now false = w.notify? stream := by simp [Docker.Watch.step?, hstage]
    rw [step]
    unfold Docker.Watch.notify?
    rcases trySend_cases w.channel with ⟨gone, -⟩ | ⟨-, gone, -⟩ | ⟨-, -, -, hs⟩ | ⟨-, -, -, hs⟩
    · simp [sender] at gone
    · simp [receiver] at gone
    · rw [stageDeeds, hs, if_pos rfl]
      exact .inr ⟨_, rfl, .send hstage hs⟩
    · rw [stageDeeds, hs, if_neg (by simp)]
      exact .inl ⟨rfl, rfl⟩
  | resting due =>
    by_cases past : due ≤ now
    · rw [stageDeeds, if_pos past]
      exact .inr ⟨w.resubscribe, by simp [Docker.Watch.step?, hstage, past], .again hstage⟩
    · rw [stageDeeds, if_neg past]
      exact .inl ⟨by simp [Docker.Watch.step?, hstage, past], rfl⟩

/-- What is true of a watch all the time until it is told to stop. -/
structure Watched (s : Settings.Docker) (d : Docker.Daemon) (w : Docker.Watch) (log : List Deed)
    (received : Nat) : Prop where
  daemon : w.daemon = { d with subscribed := d.subscribed + (1 + log.count .subscribed) }
  turn : InTurn s log (stageTurn w.stage)
  read : consumed log ++ stageLeft w.stage = script d (1 + log.count .subscribed)
  sender : w.channel.sender = true
  capacity : w.channel.capacity = 1
  kept : received + w.channel.held = 1 + log.count .sent

lemma script_succ (d : Docker.Daemon) (n : Nat) :
    script d (n + 1) = script d n ++ (d.streams[d.subscribed + n]?.getD {}).items := by
  rw [script, List.range_succ, List.flatMap_append, List.flatMap_singleton]
  rfl

theorem watched_start (s : Settings.Docker) (d : Docker.Daemon) :
    Watched s d (Docker.Watch.start d) [] 0 where
  daemon := rfl
  turn := .start
  read := by simp [script, consumed, stageLeft, Docker.Watch.start, Docker.Daemon.subscribe]
  sender := rfl
  capacity := rfl
  kept := rfl

theorem watched_watchStep (h : Watched s d w log received) (step : WatchStep s w deeds next) :
    Watched s d next (log ++ deeds) received := by
  obtain ⟨daemon, turn, read, sender, capacity, kept⟩ := h
  cases step with
  | pass reading idle free left =>
    rw [reading] at turn read
    refine ⟨by simpa using daemon, ?_, ?_, sender, capacity, by simpa using kept⟩
    · rw [free]
      exact turn.pass idle
    · rw [left]
      simpa [stageLeft] using read
  | notice reading concerns =>
    rw [reading] at turn read
    exact ⟨by simpa using daemon, turn.notice concerns, by simpa [stageLeft] using read, sender,
      capacity, by simpa using kept⟩
  | leave reading due =>
    rw [reading] at turn read
    exact ⟨by simpa using daemon, turn.leave, by simpa [stageLeft] using read, sender, capacity,
      by simpa using kept⟩
  | wake silent =>
    rw [silent] at turn read
    rw [List.append_nil]
    exact ⟨daemon, turn, read, sender, capacity, kept⟩
  | send notifying channel =>
    rw [notifying] at turn read
    refine ⟨by simpa using daemon, turn.send, by simpa [stageLeft] using read, sender, capacity, ?_⟩
    simp only [List.count_append, List.count_singleton_self]
    omega
  | again resting =>
    rw [resting] at turn read
    refine ⟨?_, turn.again, ?_, sender, capacity, ?_⟩
    · simp only [Docker.Watch.resubscribe, Docker.Daemon.subscribe, daemon, List.count_append,
        List.count_singleton_self]
      rfl
    -- nothing was left of the stream before, and nothing is taken of the new one yet
    · simp only [Docker.Watch.resubscribe, Docker.Daemon.subscribe, daemon, List.count_append,
        List.count_singleton_self, consumed_append, consumed_subscribed, List.append_nil, stageLeft,
        ← Nat.add_assoc, script_succ]
      simpa [stageLeft, Nat.add_assoc] using read
    · simpa [Docker.Watch.resubscribe] using kept

end Steps

end Signpost.Proofs

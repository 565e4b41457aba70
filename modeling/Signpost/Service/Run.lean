import Signpost.Provider.Subscription
import Signpost.Service
import Signpost.Signal.Merge

/-!
# Runs

A run subscribes to all providers and merges their signals. For each signal it makes the table anew:
it asks the providers one after the other and puts the new table in place of the old one when all
have answered. It goes on until it is told to stop. Each step of a task leaves less work, so that
all tasks come to rest while the time stands still.
-/

namespace Signpost

/-- What a run is doing. -/
inductive Activity
  | waiting
  /-- It has the rules of the providers before `next`, whose call is under way. -/
  | rebuilding (done : Table) (next : Nat) (call : Call)
  /-- All providers have closed their channels. -/
  | exhausted
  | stopped

structure Run where
  /-- The token by which the run is told to stop. -/
  token : Nat
  feeds : List Feed
  merge : Signal.Merge
  activity : Activity := .waiting

/-- Those that take part in a run. -/
inductive Task
  | forwarder (i : Nat)
  | feed (i : Nat)
  | rebuild
  deriving DecidableEq, Repr

namespace Service

/-- Subscribes to the signals of all providers. -/
def subscribe (s : Service) : Service × List Subscription :=
  let subscriptions := s.members.map fun m => Subscription.start s.files m.provider
  let members := (s.members.zip subscriptions).map fun (m, subscription) =>
    { m with provider := subscription.provider, subscriptions := m.subscriptions + 1 }
  ({ s with members }, subscriptions)

/-- Starts a run. -/
def start (s : Service) (token : Nat) : Service × Run :=
  let (s, subscriptions) := s.subscribe
  (s, { token
        feeds := subscriptions.map Subscription.feed
        merge := .ofChannels (subscriptions.map Subscription.channel) })

/-- Goes on with a rebuilding that has the rules of the providers before `next`. Without a further
provider the table is complete. -/
def goOn (s : Service) (done : Table) (next : Nat) : Service × Activity :=
  match s.call? next with
  | some (s, call) => (s, .rebuilding done next call)
  | none => ({ s with table := done }, .waiting)

end Service

namespace Run

/-- The step of a run that waits for a signal. -/
def receive? (s : Service) (r : Run) : Option (Service × Run) :=
  match r.merge.receive with
  | (.signal, merge) =>
    let (s, activity) := s.goOn [] 0
    some (s, { r with merge, activity })
  | (.closed, _) => some (s, { r with activity := .exhausted })
  | _ => none

/-- The step of a run that waits for the answer to a call. -/
def answer? (s : Service) (r : Run) (done : Table) (next : Nat) (call : Call) :
    Option (Service × Run) :=
  match s.members[next]? with
  | none => none
  | some m =>
    match m.provider.proceed? s.now s.stopsCalls call with
    | none => none
    | some (.wait provider call) =>
      some (s.setProvider next provider, { r with activity := .rebuilding done next call })
    | some (.answer rules) =>
      let (s, activity) := s.goOn (done ++ Table.contribution m.provider.origin rules) (next + 1)
      some (s, { r with activity })

/-- The run ends. What it has of a new table is lost, and it receives no more signals. -/
def stop (r : Run) : Run :=
  { r with activity := .stopped, merge := r.merge.abandon }

/-- How the run has ended, if it has. It never comes to a result. -/
def outcome? (r : Run) : Option (Except String Unit) :=
  match r.activity with
  | .stopped => some (.error Service.stoppedMessage)
  | _ => none

/-- The step that the run itself can take, if any. A request to stop comes before all else. -/
def rebuild? (s : Service) (r : Run) : Option (Service × Run) :=
  match r.activity with
  | .stopped => none
  | .waiting => if s.isCancelled r.token then some (s, r.stop) else r.receive? s
  | .rebuilding done next call =>
    if s.isCancelled r.token then some (s, r.stop) else r.answer? s done next call
  | .exhausted => if s.isCancelled r.token then some (s, r.stop) else none

/-- The step that the feed of a provider can take, if any. -/
def feed? (s : Service) (r : Run) (i : Nat) : Option (Service × Run) :=
  match s.members[i]?, r.feeds[i]?, r.merge.lanes[i]? with
  | some m, some feed, some lane =>
    match Subscription.step? s.now (s.isCancelled r.token) ⟨m.provider, feed, lane.source⟩ with
    | some next =>
      some (s.setProvider i next.provider,
        { r with feeds := r.feeds.set i next.feed, merge := r.merge.setSource i next.channel })
    | none => none
  | _, _, _ => none

/-- The step that a task can take, if any. -/
def move? (s : Service) (r : Run) : Task → Option (Service × Run)
  | .forwarder i =>
    match r.merge.forward? (s.isCancelled r.token) i with
    | some merge => some (s, { r with merge })
    | none => none
  | .feed i => r.feed? s i
  | .rebuild => r.rebuild? s

/-- The tasks in the order in which they are looked at: the forwarder whose turn it is, the other
forwarders, the feeds and the run itself. -/
def tasks (r : Run) : List Task :=
  r.merge.waiting.head?.toList.map Task.forwarder
    ++ (List.range r.merge.lanes.length).map Task.forwarder
    ++ (List.range r.feeds.length).map Task.feed ++ [.rebuild]

/-- The step that is taken next, if any can be taken. -/
def step? (s : Service) (r : Run) : Option (Service × Run) :=
  r.tasks.findSome? (r.move? s)

/-- The times that the run waits for. -/
def dues (r : Run) : List Nat :=
  let feeds := r.feeds.filterMap fun feed =>
    match feed with
    | .docker stage => stage.due?
    | _ => none
  match r.activity with
  | .rebuilding _ _ call => call.due :: feeds
  | _ => feeds

end Run

/-- How many steps the calls to providers with so many attempts can take. -/
def passWork (attempts : List Nat) : Nat :=
  total (fun n => 2 * n + 2) attempts

/-- How many steps an activity can take at most without another signal. -/
def Activity.work (attempts : List Nat) : Activity → Nat
  | waiting => 2
  | rebuilding _ next call =>
    2 + call.work (attempts[next]?.getD 0) + passWork (attempts.drop (next + 1))
  | exhausted => 1
  | stopped => 0

namespace Service

theorem work_goOn_le (s : Service) (done : Table) (next : Nat) :
    Alike s (s.goOn done next).1 ∧
      (s.goOn done next).2.work s.attempts ≤ 2 + passWork (s.attempts.drop next) := by
  unfold goOn
  split
  · rename_i t call hcall
    obtain ⟨m, hm, hlike, hwork⟩ := call?_eq_some hcall
    have hget : s.attempts[next]? = some m.provider.attempts := by simp [attempts, hm]
    obtain ⟨hlt, hnext⟩ := List.getElem?_eq_some_iff.1 hget
    refine ⟨hlike, ?_⟩
    rw [List.drop_eq_getElem_cons hlt, hnext]
    simp only [Activity.work, hget, Option.getD_some, passWork, total_cons]
    omega
  · exact ⟨⟨rfl, rfl, rfl⟩, Nat.le_add_right _ _⟩

end Service

namespace Run

/-- What is left to do for the run and the providers that it is subscribed to. Each step of a task
leaves less. -/
def work (s : Service) (r : Run) : Nat :=
  (passWork s.attempts + 4) * total (Feed.work s.now s.size) r.feeds
    + r.merge.work (passWork s.attempts) + r.activity.work s.attempts

theorem work_congr {s t : Service} (h : s.Alike t) (r : Run) : r.work t = r.work s := by
  simp only [work, h.now, h.size, h.attempts]

theorem work_receive?_lt {s t : Service} {r next : Run} (hwait : r.activity = .waiting)
    (h : r.receive? s = some (t, next)) : s.Alike t ∧ next.work t < r.work s := by
  unfold receive? at h
  split at h
  · rename_i merge hmerge
    have hless : merge.work (passWork s.attempts) + _ < _ := Signal.Merge.work_of_receive hmerge
    obtain ⟨rfl, rfl⟩ : _ = t ∧ _ = next := by simpa using h
    obtain ⟨hlike, hwork⟩ := s.work_goOn_le [] 0
    refine ⟨hlike, ?_⟩
    rw [work_congr hlike]
    simp only [List.drop_zero] at hwork
    simp only [work, hwait, show Activity.waiting.work s.attempts = 2 from rfl]
    omega
  · obtain ⟨rfl, rfl⟩ : _ = t ∧ _ = next := by simpa using h
    exact ⟨⟨rfl, rfl, rfl⟩, by simp [work, hwait, Activity.work]⟩
  · simp at h

theorem work_answer?_lt {s t : Service} {r next : Run} {done : Table} {i : Nat} {call : Call}
    (hbusy : r.activity = .rebuilding done i call) (h : r.answer? s done i call = some (t, next)) :
    s.Alike t ∧ next.work t < r.work s := by
  unfold answer? at h
  split at h
  · simp at h
  · rename_i m hm
    have hget : s.attempts[i]? = some m.provider.attempts := by simp [Service.attempts, hm]
    split at h
    · simp at h
    · rename_i provider later hproceed
      obtain ⟨rfl, rfl⟩ : _ = t ∧ _ = next := by simpa using h
      obtain ⟨hprovider, hless⟩ := Provider.proceed?_wait hproceed
      have hlike := Service.alike_setProvider hm hprovider
      refine ⟨hlike, ?_⟩
      rw [work_congr hlike]
      simp only [work, hbusy, Activity.work, hget, Option.getD_some]
      omega
    · rename_i rules _
      obtain ⟨rfl, rfl⟩ : _ = t ∧ _ = next := by simpa using h
      obtain ⟨hlike, hwork⟩ :=
        s.work_goOn_le (done ++ Table.contribution m.provider.origin rules) (i + 1)
      refine ⟨hlike, ?_⟩
      have hpos := call.work_pos m.provider.attempts
      have hbefore : r.activity.work s.attempts =
          2 + call.work m.provider.attempts + passWork (s.attempts.drop (i + 1)) := by
        simp only [hbusy, Activity.work, hget, Option.getD_some]
      rw [work_congr hlike]
      simp only [work]
      omega

theorem work_stop_lt {s : Service} {r : Run} (h : 0 < r.activity.work s.attempts) :
    r.stop.work s < r.work s := by
  have habandon := r.merge.work_abandon_le (passWork s.attempts)
  simp only [work, stop, show Activity.stopped.work s.attempts = 0 from rfl]
  omega

theorem work_rebuild?_lt {s t : Service} {r next : Run} (h : r.rebuild? s = some (t, next)) :
    s.Alike t ∧ next.work t < r.work s := by
  have stops (hpos : 0 < r.activity.work s.attempts)
      (h : some (s, r.stop) = some (t, next)) : s.Alike t ∧ next.work t < r.work s := by
    obtain ⟨rfl, rfl⟩ : s = t ∧ r.stop = next := by simpa using h
    exact ⟨⟨rfl, rfl, rfl⟩, work_stop_lt hpos⟩
  unfold rebuild? at h
  split at h
  · simp at h
  · rename_i hwait
    split at h
    · exact stops (by simp [hwait, Activity.work]) h
    · exact work_receive?_lt hwait h
  · rename_i hbusy
    split at h
    · exact stops (by simp only [hbusy, Activity.work]; omega) h
    · exact work_answer?_lt hbusy h
  · rename_i hexhausted
    split at h
    · exact stops (by simp [hexhausted, Activity.work]) h
    · simp at h

theorem work_feed?_lt {s t : Service} {r next : Run} {i : Nat}
    (h : r.feed? s i = some (t, next)) : s.Alike t ∧ next.work t < r.work s := by
  unfold feed? at h
  split at h
  · rename_i m feed lane hm hfeed hlane
    split at h
    · rename_i after hstep
      obtain ⟨rfl, rfl⟩ : _ = t ∧ _ = next := by simpa using h
      obtain ⟨hprovider, hless⟩ : _ ∧ after.work (passWork s.attempts + 3) _ _ < _ :=
        Subscription.work_step?_lt (Service.size_le hm) hstep
      have hlike := Service.alike_setProvider hm hprovider
      refine ⟨hlike, ?_⟩
      have hfeeds : total (Feed.work s.now s.size) _ + _ = _ := total_set hfeed after.feed
      have hmul := congrArg ((passWork s.attempts + 4) * ·) hfeeds
      have hmerge : (r.merge.setSource i after.channel).work (passWork s.attempts) + _ = _ :=
        Signal.Merge.work_setSource hlane after.channel
      simp only [Nat.mul_add] at hmul
      simp only [Subscription.work, Nat.add_assoc, Nat.reduceAdd] at hless
      rw [work_congr hlike]
      simp only [work]
      omega
    · simp at h
  · simp at h

/-- Each step of a task leaves less to do. -/
theorem work_move?_lt {s t : Service} {r next : Run} {task : Task}
    (h : r.move? s task = some (t, next)) : s.Alike t ∧ next.work t < r.work s := by
  cases task with
  | forwarder i =>
    simp only [move?] at h
    split at h
    · rename_i merge hmerge
      obtain ⟨rfl, rfl⟩ : _ = t ∧ _ = next := by simpa using h
      have hless : merge.work (passWork s.attempts) < _ := Signal.Merge.work_forward?_lt hmerge
      refine ⟨⟨rfl, rfl, rfl⟩, ?_⟩
      simp only [work]
      omega
    · simp at h
  | feed i => exact work_feed?_lt h
  | rebuild => exact work_rebuild?_lt h

theorem exists_move?_of_step? {s t : Service} {r next : Run} (h : r.step? s = some (t, next)) :
    ∃ task, r.move? s task = some (t, next) := by
  obtain ⟨task, _, htask⟩ := List.exists_of_findSome?_eq_some h
  exact ⟨task, htask⟩

/-- When no step is left no task can take one. -/
theorem step?_eq_none_iff {s : Service} {r : Run} :
    r.step? s = none ↔ ∀ task, r.move? s task = none := by
  constructor
  · intro h task
    simp only [step?, List.findSome?_eq_none_iff, tasks] at h
    cases task with
    | forwarder i =>
      by_cases hi : i < r.merge.lanes.length
      · exact h _ (by simp [hi])
      · simp [move?, Signal.Merge.forward?, List.getElem?_eq_none (Nat.le_of_not_lt hi)]
    | feed i =>
      by_cases hi : i < r.feeds.length
      · exact h _ (by simp [hi])
      · simp only [move?, feed?, List.getElem?_eq_none (Nat.le_of_not_lt hi)]
        cases s.members[i]? <;> rfl
    | rebuild => exact h _ (by simp)
  · intro h
    simp [step?, h]

end Run

end Signpost

import Signpost.Proofs.Course

/-!
# Pending signals

A signal that is handed to a channel of a run stays on its way until the run begins a pass for it.
When nothing can move no signal is on its way.
-/

namespace Signpost.Proofs
open Signal

/-- What holds of a run at every time. The end of all channels is seen only when there is nothing
left to receive. -/
structure Sound (c : Course) : Prop where
  orderly : Orderly c.run.merge
  receiver : c.cancelled = false → c.run.merge.receiver = true
  active : c.cancelled = false → c.run.activity ≠ .stopped
  exhausted : c.run.activity = .exhausted →
    (∀ f ∈ c.run.merge.lanes.map Lane.forwarder, f = .ended) ∧ c.run.merge.buffered = 0

/-- A step that leaves the activity of a sound run as it is. -/
lemma sound_of_merge {c d : Course} (h : Sound c) (kept : d.cancelled = false → c.cancelled = false)
    (activity : d.run.activity = c.run.activity) (orderly : Orderly d.run.merge)
    (receiver : d.run.merge.receiver = c.run.merge.receiver)
    (outlet : (∀ f ∈ c.run.merge.lanes.map Lane.forwarder, f = .ended) →
      d.run.merge.lanes.map Lane.forwarder = c.run.merge.lanes.map Lane.forwarder ∧
        d.run.merge.buffered = c.run.merge.buffered) : Sound d := by
  refine ⟨orderly, ?_, ?_, ?_⟩
  · intro running
    rw [receiver]
    exact h.receiver (kept running)
  · intro running
    rw [activity]
    exact h.active (kept running)
  · intro exhausted
    rw [activity] at exhausted
    obtain ⟨ended, empty⟩ := h.exhausted exhausted
    obtain ⟨forwarders, buffered⟩ := outlet ended
    rw [forwarders, buffered]
    exact ⟨ended, empty⟩

lemma sound_of_fed {c d : Course} (h : Sound c) (kept : d.cancelled = false → c.cancelled = false)
    (activity : d.run.activity = c.run.activity) (fed : Fed c.run.merge d.run.merge) : Sound d := by
  obtain ⟨receiver, buffered, forwarders⟩ := outlet_of_fed fed
  exact sound_of_merge h kept activity (orderly_of_fed h.orderly fed) receiver
    fun _ => ⟨forwarders, buffered⟩

lemma active_of_forwardStep {m next : Merge} {cancelled : Bool} {i : Nat} {lane : Lane}
    (step : ForwardStep m cancelled i lane next) : lane.forwarder ≠ .ended := by
  cases step with
  | stop active => exact active
  | close idle | take idle => simp [idle]
  | lose holding | put holding => simp [holding]

lemma activity_goOn {s t : Service} {done : Table} {next : Nat} {notes : List Note}
    {activity : Activity} (on : GoOn s done next notes t activity) :
    activity ≠ .stopped ∧ activity ≠ .exhausted := by
  cases on <;> simp

lemma sound_rebuildStep {c : Course} {notes : List Note} {service : Service} {run : Run}
    (h : Sound c) (kept : (Course.mk service run).cancelled = false → c.cancelled = false)
    (step : RebuildStep c.service c.run notes service run) : Sound ⟨service, run⟩ := by
  cases step with
  | stop told =>
    have stopped : ¬(Course.mk c.service c.run.stop).cancelled = false := by
      intro running
      have before := kept running
      rw [Course.cancelled, told] at before
      cases before
    exact ⟨orderly_abandon h.orderly, fun running => absurd running stopped,
      fun running => absurd running stopped, by simp [Run.stop]⟩
  | begin running waiting held on =>
    obtain ⟨active, busy⟩ := activity_goOn on
    refine ⟨?_, fun _ => h.receiver running, fun _ => active,
      fun exhausted => absurd exhausted busy⟩
    exact ⟨h.orderly.lanes, h.orderly.waiting, h.orderly.nodup,
      Nat.le_trans (Nat.sub_le _ _) h.orderly.buffered⟩
  | exhaust running waiting empty ended =>
    refine ⟨h.orderly, fun _ => h.receiver running, by simp, ?_⟩
    simpa [empty] using ended
  | wait running busy member proceed =>
    exact ⟨h.orderly, fun _ => h.receiver running, by simp, by simp⟩
  | answer running busy member proceed on =>
    obtain ⟨active, busy⟩ := activity_goOn on
    exact ⟨h.orderly, fun _ => h.receiver running, fun _ => active,
      fun exhausted => absurd exhausted busy⟩

namespace Course

theorem sound_step {c : Course} (h : Sound c) (a : Act) : Sound (c.step a) := by
  have kept : (c.step a).cancelled = false → c.cancelled = false := running_of_step
  have step := stepTo_step c a
  generalize c.notes a = notes at step
  generalize c.step a = d at step kept ⊢
  cases step with
  | still => exact h
  | rebuild step => exact sound_rebuildStep h kept step
  | @forward i lane merge found step =>
    apply sound_of_merge h kept rfl (orderly_forwardStep h.orderly found step)
      (receiver_forwardStep step)
    intro ended
    have hlane : lane.forwarder = .ended :=
      ended _ (List.mem_map_of_mem (List.mem_of_getElem? found))
    exact absurd hlane (active_of_forwardStep step)
  | feed member again fed => exact sound_of_fed h kept rfl fed
  | edit fed => exact sound_of_fed h kept rfl fed
  | send => exact sound_of_fed h kept rfl (fed_send _ _)
  | close => exact sound_of_fed h kept rfl (fed_close _ _)
  | tell | script | pass | cancel => exact sound_of_fed h kept rfl (.refl _)
  | look busy member =>
    exact ⟨h.orderly, fun running => h.receiver (kept running), by simp, by simp⟩

theorem sound_after {c : Course} (h : Sound c) (acts : List Act) : Sound (c.after acts) := by
  induction acts generalizing c with
  | nil => exact h
  | cons a acts ih => exact ih (sound_step h a)

theorem roomy_step {c : Course} (h : Roomy c.run.merge) (a : Act) : Roomy (c.step a).run.merge := by
  have step := stepTo_step c a
  generalize c.notes a = notes at step
  generalize c.step a = d at step ⊢
  cases step with
  | rebuild step => cases step <;> exact h
  | forward found step => exact roomy_forwardStep h found step
  | feed _ _ fed => exact roomy_of_fed h fed
  | edit fed => exact roomy_of_fed h fed
  | send => exact roomy_of_fed h (fed_send _ _)
  | close => exact roomy_of_fed h (fed_close _ _)
  | _ => exact h

theorem roomy_after {c : Course} (h : Roomy c.run.merge) (acts : List Act) :
    Roomy (c.after acts).run.merge := by
  induction acts generalizing c with
  | nil => exact h
  | cons a acts ih => exact ih (roomy_step h a)

/-- Only the beginning of a pass takes a signal away. -/
theorem undelivered_step {c : Course} (h : Sound c) {a : Act}
    (running : (c.step a).cancelled = false) :
    undelivered c.run.merge ≤ undelivered (c.step a).run.merge ∨ .begun ∈ c.notes a := by
  have before : c.cancelled = false := running_of_step running
  have step := stepTo_step c a
  generalize c.notes a = notes at step ⊢
  generalize c.step a = d at step ⊢
  cases step with
  | rebuild step =>
    cases step with
    | stop told =>
      rw [Course.cancelled, told] at before
      cases before
    | begin => exact .inr (List.mem_cons_self ..)
    | exhaust | wait | answer => exact .inl (Nat.le_refl _)
  | forward found step =>
    rw [before] at step
    exact .inl (Nat.le_of_eq (undelivered_forwardStep found (h.receiver before) step).symm)
  | feed _ _ fed => exact .inl (undelivered_le_of_fed fed)
  | edit fed => exact .inl (undelivered_le_of_fed fed)
  | send => exact .inl (undelivered_le_of_fed (fed_send _ _))
  | close => exact .inl (undelivered_le_of_fed (fed_close _ _))
  | _ => exact .inl (Nat.le_refl _)

/-- A signal that is on its way stays so until a pass begins. -/
theorem pending_after {c : Course} (h : Sound c) {acts : List Act}
    (running : (c.after acts).cancelled = false) (pending : 0 < undelivered c.run.merge) :
    0 < undelivered (c.after acts).run.merge ∨ .begun ∈ c.log acts := by
  induction acts generalizing c with
  | nil => exact .inl pending
  | cons a acts ih =>
    rw [log, List.mem_append]
    rcases undelivered_step h (running_of_after running) with le | begun
    · rcases ih (sound_step h a) running (Nat.lt_of_lt_of_le pending le) with later | later
      · exact .inl later
      · exact .inr (.inr later)
    · exact .inr (.inl begun)

/-- What becomes of the signal for a watch that sees a change of the files. -/
def noticed (c : Course) (e : Files.Edit) (i : Nat) : Option Sent :=
  match c.service.members[i]?, c.run.feeds[i]?, c.run.merge.lanes[i]? with
  | some _, some (.file (some watch)), some lane =>
    if watch.notices c.service.files e then some lane.source.trySend.1 else none
  | _, _, _ => none

/-- What becomes of the signals that are sent in a step. A watch of a daemon has sent one if its
channel holds more than before. -/
def sends (c : Course) : Act → List Sent
  | .send i => if c.session.isTold i then [(c.run.merge.send i).1] else []
  | .edit e => (List.range c.run.feeds.length).filterMap (c.noticed e)
  | .task (.feed i) =>
    match c.run.merge.lanes[i]?, (c.step (.task (.feed i))).run.merge.lanes[i]? with
    | some before, some after => if before.source.held < after.source.held then [.accepted] else []
    | _, _ => []
  | _ => []

/-- A signal is handed to a channel: it is accepted, or refused only because the channel is full. -/
def Hands (c : Course) (a : Act) : Prop :=
  .accepted ∈ c.sends a ∨ .full ∈ c.sends a

lemma undelivered_of_send {m : Merge} (roomy : Roomy m) {i : Nat}
    (handed : (m.send i).1 = .accepted ∨ (m.send i).1 = .full) : 0 < undelivered (m.send i).2 := by
  cases hi : m.lanes[i]? with
  | none => simp [send_of_none hi] at handed
  | some lane =>
    rw [send_eq hi] at handed ⊢
    exact undelivered_setSource_pos hi (held_of_trySend (roomy i lane hi) handed)

lemma undelivered_of_noticed {c : Course} (roomy : Roomy c.run.merge) {e : Files.Edit} {i : Nat}
    {sent : Sent} (h : c.noticed e i = some sent) (handed : sent = .accepted ∨ sent = .full) :
    0 < undelivered (c.session.notice e c.run).merge := by
  unfold noticed at h
  split at h
  · rename_i m watch lane member watching found
    split at h
    · rename_i sees
      obtain rfl : lane.source.trySend.1 = sent := by simpa using h
      exact undelivered_notice member watching sees found (roomy i lane found) handed
    · cases h
  · cases h

/-- A signal that is handed to a channel is on its way, or another one is that it is one with. -/
theorem undelivered_of_hands {c : Course} (roomy : Roomy c.run.merge) {a : Act}
    (handed : c.Hands a) : 0 < undelivered (c.step a).run.merge := by
  obtain ⟨sent, mem, hsent⟩ : ∃ sent ∈ c.sends a, sent = .accepted ∨ sent = .full := by
    rcases handed with h | h
    · exact ⟨_, h, .inl rfl⟩
    · exact ⟨_, h, .inr rfl⟩
  cases a with
  | send i =>
    simp only [sends, step] at mem ⊢
    split at mem
    · rename_i told
      rw [if_pos told]
      rw [List.mem_singleton.mp mem] at hsent
      exact undelivered_of_send roomy hsent
    · cases mem
  | edit e =>
    obtain ⟨i, -, hi⟩ := List.mem_filterMap.mp mem
    exact undelivered_of_noticed roomy hi hsent
  | task t =>
    cases t with
    | forwarder | rebuild => cases mem
    | feed i =>
      simp only [sends] at mem
      split at mem
      · rename_i before after hbefore hafter
        split at mem
        · rename_i more
          exact undelivered_pos hafter (Nat.lt_of_le_of_lt (Nat.zero_le _) more)
        · cases mem
      · cases mem
  | close | tell | look | script | pass | cancel => cases mem

/-- No task can move, and no pass is in progress. -/
structure Idle (c : Course) : Prop where
  stuck : ∀ t, c.run.move? c.service t = none
  ready : ∀ done next call, c.run.activity ≠ .rebuilding done next call

lemma activity_of_idle {c : Course} (h : Sound c) (running : c.cancelled = false) (idle : c.Idle) :
    c.run.activity = .waiting ∨ c.run.activity = .exhausted := by
  cases hactivity : c.run.activity with
  | stopped => exact absurd hactivity (h.active running)
  | rebuilding done next call => exact absurd hactivity (idle.ready done next call)
  | waiting => exact .inl rfl
  | exhausted => exact .inr rfl

lemma quiet_of_idle {c : Course} (running : c.cancelled = false) (idle : c.Idle) :
    Quiet c.run.merge false := by
  intro i
  have hmove := idle.stuck (.forwarder i)
  rw [Course.cancelled] at running
  simp only [Run.move?, running] at hmove
  cases hf : c.run.merge.forward? false i with
  | none => rfl
  | some merge => simp [hf] at hmove

/-- A run that is idle has received every signal. -/
theorem undelivered_of_idle {c : Course} (h : Sound c) (running : c.cancelled = false)
    (idle : c.Idle) : undelivered c.run.merge = 0 := by
  apply undelivered_of_quiet h.orderly (quiet_of_idle running idle)
  rcases activity_of_idle h running idle with waiting | exhausted
  · have hmove : c.run.rebuild? c.service = none := idle.stuck .rebuild
    rw [Course.cancelled] at running
    simp only [Run.rebuild?, waiting, running, Bool.false_eq_true, if_false, Run.receive?] at hmove
    rcases receive_cases c.run.merge with ⟨dead, -⟩ | ⟨-, -, hr⟩ | ⟨-, empty, -⟩ | ⟨-, empty, -⟩
    · rw [h.receiver running] at dead
      cases dead
    · simp [hr] at hmove
    · exact empty
    · exact empty
  · exact (h.exhausted exhausted).2

/-- The channels of a service have room for a signal. Without room there can be no channel. -/
def HasRoom (s : Service) : Prop :=
  ∀ m ∈ s.members, ∀ t, m.provider = .told t → 0 < t.capacity

lemma receiver_subscription (files : Files.Tree) (p : Provider) :
    (Subscription.start files p).channel.receiver = true := by
  cases p <;> rfl

lemma merge_start (s : Service) (token : Nat) : (start s token).run.merge =
    .ofChannels (s.members.map fun m => (Subscription.start s.files m.provider).channel) := by
  simp only [start, Service.start, Service.subscribe, List.map_map]
  rfl

lemma sound_start (s : Service) (token : Nat) : Sound (start s token) := by
  have waiting : (start s token).run.activity = .waiting := rfl
  refine ⟨?_, ?_, by simp [waiting], by simp [waiting]⟩
  · rw [merge_start]
    apply orderly_ofChannels
    intro c mem
    obtain ⟨m, -, rfl⟩ := List.mem_map.mp mem
    exact receiver_subscription s.files m.provider
  · intro _
    rfl

lemma roomy_start {s : Service} (room : HasRoom s) (token : Nat) :
    Roomy (start s token).run.merge := by
  intro i lane hi
  rw [merge_start] at hi
  simp only [Merge.ofChannels, List.map_map, List.getElem?_map, Option.map_eq_some_iff] at hi
  obtain ⟨m, hm, rfl⟩ := hi
  have roomOf := room m (List.mem_of_getElem? hm)
  cases hp : m.provider with
  | told t => simpa [Subscription.start, hp, Channel.holding] using roomOf t hp
  | static | file | docker =>
    simp [Subscription.start, hp, Channel.holding, Docker.Watch.start]

end Course

end Signpost.Proofs

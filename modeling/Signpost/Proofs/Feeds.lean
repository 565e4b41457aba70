import Signpost.Proofs.MergeSteps
import Signpost.Service.Session

/-!
# Feeds

Providers, those that watch files or a daemon, and whoever tells a provider what to answer can only
add signals to the channels of a run and close them.
-/

namespace Signpost.Proofs
open Signal

/-- What those who send can do to a channel in one step. -/
inductive ChannelStep (c : Channel) : Channel → Prop
  | same : ChannelStep c c
  | close : ChannelStep c c.close
  | send : ChannelStep c c.trySend.2

/-- What those who send can do to merged channels. -/
inductive Fed : Merge → Merge → Prop
  | refl (m : Merge) : Fed m m
  | feed {m next : Merge} {i : Nat} {lane : Lane} {source : Channel} (fed : Fed m next)
      (found : next.lanes[i]? = some lane) (channel : ChannelFed lane.source source) :
      Fed m (next.setSource i source)

/-- Every channel has room for a signal. -/
def Roomy (m : Merge) : Prop :=
  ∀ (i : Nat) (lane : Lane), m.lanes[i]? = some lane → 0 < lane.source.capacity

lemma channelFed_of_channelStep {c next : Channel} (h : ChannelStep c next) :
    ChannelFed c next := by
  cases h with
  | same => exact channelFed_refl c
  | close => exact channelFed_close c
  | send => exact channelFed_trySend c

lemma fed_trans {first second third : Merge} (h : Fed first second) (next : Fed second third) :
    Fed first third := by
  induction next with
  | refl => exact h
  | feed _ found channel ih => exact .feed ih found channel

lemma fed_setSource {m : Merge} {i : Nat} {lane : Lane} {source : Channel}
    (found : m.lanes[i]? = some lane) (channel : ChannelFed lane.source source) :
    Fed m (m.setSource i source) :=
  .feed (.refl m) found channel

lemma fed_send (m : Merge) (i : Nat) : Fed m (m.send i).2 := by
  cases hi : m.lanes[i]? with
  | none =>
    rw [send_of_none hi]
    exact .refl m
  | some lane =>
    rw [send_eq hi]
    exact fed_setSource hi (channelFed_trySend lane.source)

lemma fed_close (m : Merge) (i : Nat) : Fed m (m.close i) := by
  cases hi : m.lanes[i]? with
  | none =>
    rw [close_of_none hi]
    exact .refl m
  | some lane =>
    rw [close_eq hi]
    exact fed_setSource hi (channelFed_close lane.source)

theorem orderly_of_fed {m next : Merge} (h : Orderly m) (fed : Fed m next) : Orderly next := by
  induction fed with
  | refl => exact h
  | feed _ found channel ih => exact orderly_setSource ih found channel

theorem undelivered_le_of_fed {m next : Merge} (fed : Fed m next) :
    undelivered m ≤ undelivered next := by
  induction fed with
  | refl => exact Nat.le_refl _
  | @feed next i lane source _ found channel ih =>
    have hload := undelivered_setSource found source
    have := channel.held
    omega

lemma outlet_of_fed {m next : Merge} (fed : Fed m next) :
    next.receiver = m.receiver ∧ next.buffered = m.buffered ∧
      next.lanes.map Lane.forwarder = m.lanes.map Lane.forwarder := by
  induction fed with
  | refl => exact ⟨rfl, rfl, rfl⟩
  | @feed next i lane _ _ found _ ih =>
    obtain ⟨receiver, buffered, forwarders⟩ := ih
    refine ⟨receiver, buffered, ?_⟩
    rw [← forwarders, setSource_eq found]
    apply List.ext_getElem?
    intro k
    rw [List.getElem?_map, List.getElem?_map, getElem?_set_of_getElem? found]
    by_cases hk : k = i
    · simp [hk, found]
    · rw [if_neg hk]

theorem roomy_update {m next : Merge} {i : Nat} {lane after : Lane} (h : Roomy m)
    (found : m.lanes[i]? = some lane) (hlanes : next.lanes = m.lanes.set i after)
    (same : after.source.capacity = lane.source.capacity) : Roomy next := by
  intro k other hk
  rw [hlanes, getElem?_set_of_getElem? found] at hk
  by_cases hki : k = i
  · rw [if_pos hki] at hk
    cases hk
    rw [same]
    exact h i lane found
  · rw [if_neg hki] at hk
    exact h k other hk

theorem roomy_of_fed {m next : Merge} (h : Roomy m) (fed : Fed m next) : Roomy next := by
  induction fed with
  | refl => exact h
  | feed _ found channel ih =>
    exact roomy_update ih found (congrArg Merge.lanes (setSource_eq found _)) channel.capacity

theorem roomy_forwardStep {m next : Merge} {cancelled : Bool} {i : Nat} {lane : Lane}
    (h : Roomy m) (found : m.lanes[i]? = some lane) (step : ForwardStep m cancelled i lane next) :
    Roomy next := by
  cases step with
  | stop | close | lose => exact roomy_update h found (congrArg Merge.lanes (finish_eq found)) rfl
  | take | put => exact roomy_update h found rfl rfl

lemma undelivered_pos {m : Merge} {i : Nat} {lane : Lane} (found : m.lanes[i]? = some lane)
    (held : 0 < lane.source.held) : 0 < undelivered m := by
  have hlane : laneLoad lane ≤ total laneLoad m.lanes := le_total found
  simp only [laneLoad] at hlane
  simp only [undelivered]
  omega

lemma undelivered_setSource_pos {m : Merge} {i : Nat} {lane : Lane} {source : Channel}
    (found : m.lanes[i]? = some lane) (held : 0 < source.held) :
    0 < undelivered (m.setSource i source) := by
  have after : (m.setSource i source).lanes[i]? = some { lane with source } := by
    rw [setSource_eq found, getElem?_set_of_getElem? found, if_pos rfl]
  exact undelivered_pos after held

/-- A signal that is accepted, or refused because the channel is full, leaves the channel with a
signal. -/
lemma held_of_trySend {c : Channel} (room : 0 < c.capacity)
    (h : c.trySend.1 = .accepted ∨ c.trySend.1 = .full) : 0 < c.trySend.2.held := by
  rcases trySend_cases c with ⟨-, hs⟩ | ⟨-, -, hs⟩ | ⟨-, -, -, hs⟩ | ⟨-, -, full, hs⟩
  · simp [hs] at h
  · simp [hs] at h
  · simp [hs]
  · rw [hs]
    exact Nat.lt_of_lt_of_le room full

/-- A provider after a feed has taken a step: a daemon may have been subscribed to again. -/
inductive Resubscribed : Provider → Provider → Prop
  | same (p : Provider) : Resubscribed p p
  | again (settings : Settings.Docker) (d : Docker.Daemon) :
      Resubscribed (.docker settings d) (.docker settings d.subscribe.2)

lemma read?_eq {settings : Settings.Docker} {now : Nat} {w next : Docker.Watch}
    {stream : Docker.Stream} (h : w.read? settings now stream = some next) :
    ∃ stage, next = { w with stage } := by
  unfold Docker.Watch.read? at h
  split at h
  · cases h
  · exact ⟨_, (Option.some.inj h).symm⟩
  · exact ⟨_, (Option.some.inj h).symm⟩
  · exact ⟨_, (Option.some.inj h).symm⟩
  · split at h
    · exact ⟨_, (Option.some.inj h).symm⟩
    · exact ⟨_, (Option.some.inj h).symm⟩

lemma notify?_eq {w next : Docker.Watch} {stream : Docker.Stream}
    (h : w.notify? stream = some next) :
    next.daemon = w.daemon ∧ ChannelStep w.channel next.channel := by
  unfold Docker.Watch.notify? at h
  split at h
  · rename_i channel hsend
    obtain rfl : _ = next := by simpa using h
    have hstep : ChannelStep w.channel w.channel.trySend.2 := .send
    rw [hsend] at hstep
    exact ⟨rfl, hstep⟩
  · cases h
  · obtain rfl : _ = next := by simpa using h
    exact ⟨rfl, .close⟩

/-- What the step of a watch does to its daemon and its channel. -/
theorem watch_step? {settings : Settings.Docker} {now : Nat} {cancelled : Bool}
    {w next : Docker.Watch} (h : w.step? settings now cancelled = some next) :
    (next.daemon = w.daemon ∨ next.daemon = w.daemon.subscribe.2) ∧
      ChannelStep w.channel next.channel := by
  have unchanged {stage : Docker.Stage} (h : { w with stage } = next) :
      (next.daemon = w.daemon ∨ next.daemon = w.daemon.subscribe.2) ∧
        ChannelStep w.channel next.channel := by
    subst h
    exact ⟨.inl rfl, .same⟩
  unfold Docker.Watch.step? at h
  cases cancelled with
  | true =>
    cases hstage : w.stage with
    | ended => simp [hstage] at h
    | reading | silent | notifying | resting =>
      obtain rfl : w.finish = next := by simpa [hstage] using h
      exact ⟨.inl rfl, .close⟩
  | false =>
    cases hstage : w.stage with
    | ended => simp [hstage] at h
    | reading stream =>
      obtain ⟨stage, rfl⟩ := read?_eq (by simpa [hstage] using h)
      exact unchanged rfl
    | silent stream due =>
      obtain ⟨-, hnext⟩ : due ≤ now ∧ _ = next := by simpa [hstage] using h
      exact unchanged hnext
    | notifying stream =>
      have hnotify : w.notify? stream = some next := by simpa [hstage] using h
      obtain ⟨daemon, channel⟩ := notify?_eq hnotify
      exact ⟨.inl daemon, channel⟩
    | resting due =>
      obtain ⟨-, rfl⟩ : due ≤ now ∧ w.resubscribe = next := by simpa [hstage] using h
      exact ⟨.inr rfl, .same⟩

theorem subscription_step? {now : Nat} {cancelled : Bool} {s next : Subscription}
    (h : s.step? now cancelled = some next) :
    Resubscribed s.provider next.provider ∧ ChannelStep s.channel next.channel := by
  have stopped (h : s.stop? cancelled = some next) :
      Resubscribed s.provider next.provider ∧ ChannelStep s.channel next.channel := by
    unfold Subscription.stop? at h
    split at h
    · obtain rfl : _ = next := by simpa using h
      exact ⟨.same s.provider, .close⟩
    · cases h
  unfold Subscription.step? at h
  split at h
  · cases h
  · exact stopped h
  · exact stopped h
  · rename_i stage _
    split at h
    · rename_i settings d hprovider
      split at h
      · rename_i w hw
        obtain rfl : _ = next := by simpa using h
        obtain ⟨daemon, channel⟩ := watch_step? hw
        refine ⟨?_, channel⟩
        rw [hprovider]
        rcases daemon with hd | hd
        · rw [hd]
          exact .same _
        · rw [hd]
          exact .again settings d
      · cases h
    · cases h

/-- The step of a feed changes its provider and its channel. -/
theorem feed?_eq {s t : Service} {r next : Run} {i : Nat} (h : r.feed? s i = some (t, next)) :
    ∃ m lane p feed source, s.members[i]? = some m ∧ r.merge.lanes[i]? = some lane ∧
      Resubscribed m.provider p ∧ ChannelStep lane.source source ∧ t = s.setProvider i p ∧
      next = { r with feeds := r.feeds.set i feed, merge := r.merge.setSource i source } := by
  unfold Run.feed? at h
  split at h
  · rename_i m feed lane hm hfeed hlane
    split at h
    · rename_i after hstep
      obtain ⟨rfl, rfl⟩ : _ = t ∧ _ = next := by simpa using h
      obtain ⟨provider, channel⟩ := subscription_step? hstep
      exact ⟨m, lane, after.provider, after.feed, after.channel, hm, hlane, provider, channel, rfl,
        rfl⟩
    · cases h
  · cases h

/-- Tells one feed of a run of a change of the files. -/
def noticeAt (s : Session) (e : Files.Edit) (r : Run) (i : Nat) : Run :=
  match s.service.members[i]?, r.feeds[i]?, r.merge.lanes[i]? with
  | some m, some feed, some lane =>
    let next := Subscription.notice s.service.files e ⟨m.provider, feed, lane.source⟩
    { r with merge := r.merge.setSource i next.channel }
  | _, _, _ => r

lemma notice_eq_foldl (s : Session) (e : Files.Edit) (r : Run) :
    s.notice e r = (List.range r.feeds.length).foldl (noticeAt s e) r := rfl

lemma channelFed_notice (files : Files.Tree) (e : Files.Edit) (s : Subscription) :
    ChannelFed s.channel (s.notice files e).channel := by
  unfold Subscription.notice
  split
  · split
    · exact channelFed_trySend s.channel
    · exact channelFed_refl s.channel
  · exact channelFed_refl s.channel

lemma noticeAt_eq (s : Session) (e : Files.Edit) (r : Run) (i : Nat) :
    ∃ merge, noticeAt s e r i = { r with merge } ∧ Fed r.merge merge ∧
      ∀ k, k ≠ i → merge.lanes[k]? = r.merge.lanes[k]? := by
  unfold noticeAt
  split
  · rename_i m feed lane hm hfeed hlane
    refine ⟨_, rfl, fed_setSource hlane (channelFed_notice _ _ ⟨m.provider, feed, lane.source⟩), ?_⟩
    intro k hk
    rw [setSource_eq hlane, getElem?_set_of_getElem? hlane, if_neg hk]
  · exact ⟨r.merge, rfl, .refl r.merge, fun _ _ => rfl⟩

lemma foldl_noticeAt (s : Session) (e : Files.Edit) (r : Run) (feeds : List Nat) :
    ∃ merge, feeds.foldl (noticeAt s e) r = { r with merge } ∧ Fed r.merge merge ∧
      ∀ k, k ∉ feeds → merge.lanes[k]? = r.merge.lanes[k]? := by
  induction feeds generalizing r with
  | nil => exact ⟨r.merge, rfl, .refl r.merge, fun _ _ => rfl⟩
  | cons i feeds ih =>
    obtain ⟨first, hfirst, fed, same⟩ := noticeAt_eq s e r i
    obtain ⟨merge, hmerge, fedRest, sameRest⟩ := ih { r with merge := first }
    refine ⟨merge, ?_, fed_trans fed fedRest, ?_⟩
    · rw [List.foldl_cons, hfirst, hmerge]
    · intro k hk
      rw [List.mem_cons, not_or] at hk
      rw [sameRest k hk.2]
      exact same k hk.1

lemma notice_eq (s : Session) (e : Files.Edit) (r : Run) :
    ∃ merge, s.notice e r = { r with merge } ∧ Fed r.merge merge := by
  obtain ⟨merge, hmerge, fed, -⟩ := foldl_noticeAt s e r (List.range r.feeds.length)
  exact ⟨merge, hmerge, fed⟩

/-- A change that a watch sees leaves a signal for the run, unless nobody receives it. -/
theorem undelivered_notice {s : Session} {e : Files.Edit} {r : Run} {i : Nat} {m : Member}
    {watch : Files.Watch} {lane : Lane} (member : s.service.members[i]? = some m)
    (watching : r.feeds[i]? = some (.file (some watch)))
    (sees : watch.notices s.service.files e = true) (hi : r.merge.lanes[i]? = some lane)
    (room : 0 < lane.source.capacity)
    (handed : lane.source.trySend.1 = .accepted ∨ lane.source.trySend.1 = .full) :
    0 < undelivered (s.notice e r).merge := by
  obtain ⟨within, -⟩ := List.getElem?_eq_some_iff.mp watching
  obtain ⟨rest, hrest⟩ := Nat.exists_eq_add_of_le (Nat.succ_le_of_lt within)
  obtain ⟨before, hbefore, -, same⟩ := foldl_noticeAt s e r (List.range i)
  have hlane : before.lanes[i]? = some lane := by rw [same i (by simp), hi]
  have hself : noticeAt s e { r with merge := before } i =
      { r with merge := before.setSource i lane.source.trySend.2 } := by
    simp only [noticeAt, member, watching, hlane, Subscription.notice, sees, if_true]
  obtain ⟨after, hafter, fed, -⟩ :=
    foldl_noticeAt s e { r with merge := before.setSource i lane.source.trySend.2 }
      ((List.range rest).map (i + 1 + ·))
  have hnotice : s.notice e r = { r with merge := after } := by
    rw [notice_eq_foldl, hrest, Nat.succ_eq_add_one, List.range_add, List.range_succ,
      List.foldl_append, List.foldl_append, hbefore, List.foldl_cons, List.foldl_nil, hself, hafter]
  rw [hnotice]
  exact Nat.lt_of_lt_of_le (undelivered_setSource_pos hlane (held_of_trySend room handed))
    (undelivered_le_of_fed fed)

end Signpost.Proofs

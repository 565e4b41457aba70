import Mathlib.Data.List.Nodup
import Signpost.Signal.Merge

/-!
# Steps of merged channels

A signal that is not yet received is in one of three places: in the channel of a source, with the
forwarder of that source, or in the merged channel. This file says what each step does to the
signals in these places, and which forwarders can take none.
-/

namespace Signpost.Proofs
open Signal

/-- The signals of a lane: those in its channel and the one that its forwarder holds. -/
def laneLoad (lane : Lane) : Nat :=
  lane.source.held + if lane.forwarder = .holding then 1 else 0

/-- All signals that are not yet received. -/
def undelivered (m : Merge) : Nat :=
  total laneLoad m.lanes + m.buffered

/-- A channel is received from until its forwarder ends, and nothing is left in it then. -/
structure LaneOrderly (lane : Lane) : Prop where
  receiver : lane.source.receiver = true ↔ lane.forwarder ≠ .ended
  held : lane.forwarder = .ended → lane.source.held = 0

structure Orderly (m : Merge) : Prop where
  lanes : ∀ (i : Nat) (lane : Lane), m.lanes[i]? = some lane → LaneOrderly lane
  waiting : ∀ i, i ∈ m.waiting ↔ ∃ lane, m.lanes[i]? = some lane ∧ lane.forwarder = .holding
  nodup : m.waiting.Nodup
  buffered : m.buffered ≤ 1

lemma modify_eq_set_of_getElem? {α : Type} {items : List α} {i : Nat} {a : α}
    (h : items[i]? = some a) (f : α → α) : items.modify i f = items.set i (f a) := by
  have : Inhabited α := ⟨a⟩
  rw [List.modify_eq_set, h, Option.getD_some]

lemma getElem?_set_of_getElem? {α : Type} {items : List α} {i : Nat} {a : α}
    (h : items[i]? = some a) (b : α) (k : Nat) :
    (items.set i b)[k]? = if k = i then some b else items[k]? := by
  obtain ⟨hi, -⟩ := List.getElem?_eq_some_iff.mp h
  by_cases hk : k = i
  · subst hk
    simp [hi]
  · rw [if_neg hk, List.getElem?_set_ne (Ne.symm hk)]

/-- What a new element has in common with the old one stays in the list. -/
lemma map_set_of_getElem? {α β : Type} {f : α → β} {items : List α} {i : Nat} {a b : α}
    (h : items[i]? = some a) (same : f b = f a) : (items.set i b).map f = items.map f := by
  apply List.ext_getElem?
  intro k
  rw [List.getElem?_map, List.getElem?_map, getElem?_set_of_getElem? h]
  by_cases hk : k = i
  · rw [if_pos hk, hk, h, Option.map_some, Option.map_some, same]
  · rw [if_neg hk]

lemma setSource_eq {m : Merge} {i : Nat} {lane : Lane} (h : m.lanes[i]? = some lane)
    (source : Channel) :
    m.setSource i source = { m with lanes := m.lanes.set i { lane with source } } := by
  rw [Merge.setSource, modify_eq_set_of_getElem? h]

lemma finish_eq {m : Merge} {i : Nat} {lane : Lane} (h : m.lanes[i]? = some lane) :
    m.finish i = { m with
      lanes := m.lanes.set i { source := lane.source.abandon, forwarder := .ended }
      waiting := m.waiting.erase i } := by
  rw [Merge.finish, modify_eq_set_of_getElem? h]

lemma send_eq {m : Merge} {i : Nat} {lane : Lane} (h : m.lanes[i]? = some lane) :
    m.send i = (lane.source.trySend.1, m.setSource i lane.source.trySend.2) := by
  rw [setSource_eq h]
  simp only [Merge.send, h]

lemma send_of_none {m : Merge} {i : Nat} (h : m.lanes[i]? = none) : m.send i = (.noSender, m) := by
  simp only [Merge.send, h]

lemma close_eq {m : Merge} {i : Nat} {lane : Lane} (h : m.lanes[i]? = some lane) :
    m.close i = m.setSource i lane.source.close := by
  rw [setSource_eq h, Merge.close, modify_eq_set_of_getElem? h]

lemma close_of_none {m : Merge} {i : Nat} (h : m.lanes[i]? = none) : m.close i = m := by
  have hi : m.lanes.length ≤ i := List.getElem?_eq_none_iff.mp h
  rw [Merge.close, List.modify_eq_self hi]

lemma receive_of_held {c : Channel} (hr : c.receiver = true) (hh : 0 < c.held) :
    c.receive = (.signal, { c with held := c.held - 1 }) := by
  simp only [Channel.receive, hr, hh, Bool.not_true, Bool.false_eq_true, if_false, if_true]

/-- What the step of a forwarder can be. -/
inductive ForwardStep (m : Merge) (cancelled : Bool) (i : Nat) (lane : Lane) : Merge → Prop
  | stop (active : lane.forwarder ≠ .ended) (told : cancelled = true) :
      ForwardStep m cancelled i lane (m.finish i)
  | close (idle : lane.forwarder = .idle) (running : cancelled = false)
      (empty : lane.source.held = 0) (closed : lane.source.sender = false) :
      ForwardStep m cancelled i lane (m.finish i)
  | lose (holding : lane.forwarder = .holding) (running : cancelled = false)
      (gone : m.receiver = false) : ForwardStep m cancelled i lane (m.finish i)
  | take (idle : lane.forwarder = .idle) (running : cancelled = false)
      (received : lane.source.receiver = true) (held : 0 < lane.source.held) :
      ForwardStep m cancelled i lane { m with
        lanes := m.lanes.set i ⟨{ lane.source with held := lane.source.held - 1 }, .holding⟩
        waiting := m.waiting ++ [i] }
  | put (holding : lane.forwarder = .holding) (running : cancelled = false)
      (alive : m.receiver = true) (turn : m.waiting.head? = some i) (room : m.buffered = 0) :
      ForwardStep m cancelled i lane { m with
        lanes := m.lanes.set i { lane with forwarder := .idle }
        buffered := 1
        waiting := m.waiting.tail }

theorem forwardStep_of_take? {m next : Merge} {i : Nat} {source : Channel}
    (h : m.take? i source = some next) : ForwardStep m false i ⟨source, .idle⟩ next := by
  unfold Merge.take? at h
  cases hr : source.receiver with
  | false => simp [Channel.receive, hr] at h
  | true =>
    by_cases hh : 0 < source.held
    · rw [receive_of_held hr hh] at h
      rw [← Option.some.inj h]
      exact @ForwardStep.take m false i ⟨source, .idle⟩ rfl rfl hr hh
    · have empty : source.held = 0 := Nat.eq_zero_of_not_pos hh
      cases hs : source.sender with
      | true => simp [Channel.receive, hr, empty, hs] at h
      | false =>
        obtain rfl : m.finish i = next := by simpa [Channel.receive, hr, empty, hs] using h
        exact .close rfl rfl empty hs

theorem forwardStep_of_put? {m next : Merge} {i : Nat} {source : Channel}
    (h : m.put? i source = some next) : ForwardStep m false i ⟨source, .holding⟩ next := by
  unfold Merge.put? at h
  cases hr : m.receiver with
  | false =>
    obtain rfl : m.finish i = next := by simpa [hr] using h
    exact .lose rfl rfl hr
  | true =>
    rw [if_neg (by simp [hr])] at h
    by_cases ht : m.waiting.head? = some i ∧ m.buffered = 0
    · rw [if_pos ht] at h
      rw [← Option.some.inj h]
      exact @ForwardStep.put m false i ⟨source, .holding⟩ rfl rfl hr ht.1 ht.2
    · rw [if_neg ht] at h
      cases h

theorem forwardStep_of_forward? {m next : Merge} {cancelled : Bool} {i : Nat}
    (h : m.forward? cancelled i = some next) :
    ∃ lane, m.lanes[i]? = some lane ∧ ForwardStep m cancelled i lane next := by
  unfold Merge.forward? at h
  cases hl : m.lanes[i]? with
  | none => simp [hl] at h
  | some lane =>
    refine ⟨lane, rfl, ?_⟩
    obtain ⟨source, forwarder⟩ := lane
    cases cancelled with
    | true =>
      cases forwarder with
      | ended => simp [hl] at h
      | idle | holding =>
        obtain rfl : m.finish i = next := by simpa [hl] using h
        exact .stop (by simp) rfl
    | false =>
      cases forwarder with
      | ended => simp [hl] at h
      | idle => exact forwardStep_of_take? (by simpa [hl] using h)
      | holding => exact forwardStep_of_put? (by simpa [hl] using h)

theorem orderly_update {m next : Merge} {i : Nat} {lane after : Lane} (h : Orderly m)
    (hi : m.lanes[i]? = some lane) (hlanes : next.lanes = m.lanes.set i after)
    (hafter : LaneOrderly after)
    (hself : i ∈ next.waiting ↔ after.forwarder = .holding)
    (hother : ∀ k, k ≠ i → (k ∈ next.waiting ↔ k ∈ m.waiting))
    (hnodup : next.waiting.Nodup) (hbuffered : next.buffered ≤ 1) : Orderly next := by
  have hget : ∀ k, next.lanes[k]? = if k = i then some after else m.lanes[k]? := by
    intro k
    rw [hlanes, getElem?_set_of_getElem? hi]
  refine ⟨?_, ?_, hnodup, hbuffered⟩
  · intro k other hk
    rw [hget k] at hk
    by_cases hki : k = i
    · rw [if_pos hki] at hk
      cases hk
      exact hafter
    · rw [if_neg hki] at hk
      exact h.lanes k other hk
  · intro k
    rw [hget k]
    by_cases hki : k = i
    · subst hki
      simp [hself]
    · rw [if_neg hki, hother k hki]
      exact h.waiting k

theorem orderly_forwardStep {m next : Merge} {cancelled : Bool} {i : Nat} {lane : Lane}
    (h : Orderly m) (hi : m.lanes[i]? = some lane) (step : ForwardStep m cancelled i lane next) :
    Orderly next := by
  have finished : Orderly (m.finish i) := by
    rw [finish_eq hi]
    apply orderly_update h hi rfl
    · exact ⟨by simp [Channel.abandon], fun _ => rfl⟩
    · simp [h.nodup.mem_erase_iff]
    · intro k hk
      simp [h.nodup.mem_erase_iff, hk]
    · exact h.nodup.erase i
    · exact h.buffered
  cases step with
  | stop | close | lose => exact finished
  | take idle _ received _ =>
    have absent : i ∉ m.waiting := by
      rw [h.waiting i]
      rintro ⟨other, ho, holding⟩
      rw [hi] at ho
      cases ho
      rw [idle] at holding
      cases holding
    apply orderly_update h hi rfl
    · exact ⟨by simp [received], by simp⟩
    · simp
    · intro k hk
      simp [hk]
    · refine List.nodup_append.mpr ⟨h.nodup, List.nodup_singleton i, ?_⟩
      intro k hk other ho
      rw [List.mem_singleton.mp ho]
      exact fun hki => absent (hki ▸ hk)
    · exact h.buffered
  | put holding _ _ turn _ =>
    obtain ⟨rest, hrest⟩ : ∃ rest, m.waiting = i :: rest := List.head?_eq_some_iff.mp turn
    have hnodup : (i :: rest).Nodup := hrest ▸ h.nodup
    have hreceiver := (h.lanes i lane hi).receiver
    apply orderly_update h hi rfl
    · exact ⟨by simpa [holding] using hreceiver, by simp⟩
    · simpa [hrest] using (List.nodup_cons.mp hnodup).1
    · intro k hk
      simp [hrest, hk]
    · simpa [hrest] using (List.nodup_cons.mp hnodup).2
    · exact Nat.le_refl 1

lemma receiver_forwardStep {m next : Merge} {cancelled : Bool} {i : Nat} {lane : Lane}
    (step : ForwardStep m cancelled i lane next) : next.receiver = m.receiver := by
  cases step <;> rfl

/-- As long as signals are received no forwarder loses or makes one. -/
theorem undelivered_forwardStep {m next : Merge} {i : Nat} {lane : Lane}
    (hi : m.lanes[i]? = some lane) (alive : m.receiver = true)
    (step : ForwardStep m false i lane next) : undelivered next = undelivered m := by
  have hset : ∀ after, total laneLoad (m.lanes.set i after) + laneLoad lane =
      total laneLoad m.lanes + laneLoad after := fun after => total_set hi after
  cases step with
  | stop _ told => cases told
  | lose _ _ gone =>
    rw [alive] at gone
    cases gone
  | close idle _ empty _ =>
    have before : laneLoad lane = 0 := by simp [laneLoad, idle, empty]
    have after : laneLoad ⟨lane.source.abandon, .ended⟩ = 0 := rfl
    have := hset ⟨lane.source.abandon, .ended⟩
    simp only [finish_eq hi, undelivered]
    omega
  | take idle _ _ held =>
    have := hset ⟨{ lane.source with held := lane.source.held - 1 }, .holding⟩
    simp only [laneLoad, idle, reduceCtorEq, if_false, if_true] at this
    simp only [undelivered]
    omega
  | put holding _ _ _ room =>
    have := hset { lane with forwarder := .idle }
    simp only [laneLoad, holding, reduceCtorEq, if_false, if_true] at this
    simp only [undelivered, room]
    omega

/-- What those who send can do to a channel. -/
structure ChannelFed (before after : Channel) : Prop where
  receiver : after.receiver = before.receiver
  capacity : after.capacity = before.capacity
  held : before.held ≤ after.held
  lost : before.receiver = false → after.held = before.held
  sender : before.sender = false → after.sender = false

lemma channelFed_refl (c : Channel) : ChannelFed c c :=
  ⟨rfl, rfl, Nat.le_refl _, fun _ => rfl, id⟩

lemma channelFed_close (c : Channel) : ChannelFed c c.close :=
  ⟨rfl, rfl, Nat.le_refl _, fun _ => rfl, fun _ => rfl⟩

/-- What becomes of a signal that is sent into a channel. -/
theorem trySend_cases (c : Channel) :
    (c.sender = false ∧ c.trySend = (.noSender, c)) ∨
    (c.sender = true ∧ c.receiver = false ∧ c.trySend = (.closed, c)) ∨
    (c.sender = true ∧ c.receiver = true ∧ c.held < c.capacity ∧
      c.trySend = (.accepted, { c with held := c.held + 1 })) ∨
    (c.sender = true ∧ c.receiver = true ∧ c.capacity ≤ c.held ∧ c.trySend = (.full, c)) := by
  unfold Channel.trySend Channel.hasRoom
  cases hs : c.sender <;> cases hr : c.receiver <;> by_cases hc : c.held < c.capacity <;>
    simp [hc, Nat.le_of_not_lt]

lemma channelFed_trySend (c : Channel) : ChannelFed c c.trySend.2 := by
  rcases trySend_cases c with ⟨-, h⟩ | ⟨-, -, h⟩ | ⟨hs, hr, -, h⟩ | ⟨-, -, -, h⟩
  · exact h ▸ channelFed_refl c
  · exact h ▸ channelFed_refl c
  · rw [h]
    exact ⟨rfl, rfl, Nat.le_succ _, by simp [hr], by simp [hs]⟩
  · exact h ▸ channelFed_refl c

theorem orderly_setSource {m : Merge} {i : Nat} {lane : Lane} {source : Channel} (h : Orderly m)
    (hi : m.lanes[i]? = some lane) (fed : ChannelFed lane.source source) :
    Orderly (m.setSource i source) := by
  have hlane := h.lanes i lane hi
  rw [setSource_eq hi]
  apply orderly_update h hi rfl
  · constructor
    · rw [fed.receiver]
      exact hlane.receiver
    · intro ended
      have gone : lane.source.receiver = false :=
        Bool.eq_false_iff.mpr fun hr => hlane.receiver.mp hr ended
      rw [fed.lost gone]
      exact hlane.held ended
  · rw [h.waiting i]
    simp [hi]
  · exact fun _ _ => Iff.rfl
  · exact h.nodup
  · exact h.buffered

theorem undelivered_setSource {m : Merge} {i : Nat} {lane : Lane} (hi : m.lanes[i]? = some lane)
    (source : Channel) :
    undelivered (m.setSource i source) + lane.source.held = undelivered m + source.held := by
  have hset : total laneLoad (m.lanes.set i { lane with source }) + laneLoad lane = _ :=
    total_set hi _
  simp only [laneLoad] at hset
  rw [setSource_eq hi]
  simp only [undelivered]
  omega

theorem orderly_send {m : Merge} (h : Orderly m) (i : Nat) : Orderly (m.send i).2 := by
  cases hi : m.lanes[i]? with
  | none => rwa [send_of_none hi]
  | some lane =>
    rw [send_eq hi]
    exact orderly_setSource h hi (channelFed_trySend lane.source)

theorem orderly_close {m : Merge} (h : Orderly m) (i : Nat) : Orderly (m.close i) := by
  cases hi : m.lanes[i]? with
  | none => rwa [close_of_none hi]
  | some lane =>
    rw [close_eq hi]
    exact orderly_setSource h hi (channelFed_close lane.source)

theorem orderly_abandon {m : Merge} (h : Orderly m) : Orderly m.abandon :=
  ⟨h.lanes, h.waiting, h.nodup, Nat.zero_le 1⟩

/-- What a receiver is told. -/
theorem receive_cases (m : Merge) :
    (m.receiver = false ∧ m.receive = (.noReceiver, m)) ∨
    (m.receiver = true ∧ 0 < m.buffered ∧
      m.receive = (.signal, { m with buffered := m.buffered - 1 })) ∨
    (m.receiver = true ∧ m.buffered = 0 ∧ (∀ lane ∈ m.lanes, lane.forwarder = .ended) ∧
      m.receive = (.closed, m)) ∨
    (m.receiver = true ∧ m.buffered = 0 ∧ (¬∀ lane ∈ m.lanes, lane.forwarder = .ended) ∧
      m.receive = (.pending, m)) := by
  unfold Merge.receive
  cases hr : m.receiver with
  | false => exact .inl ⟨rfl, by simp⟩
  | true =>
    by_cases hb : 0 < m.buffered
    · exact .inr (.inl ⟨rfl, hb, by simp [hb]⟩)
    · have empty : m.buffered = 0 := Nat.eq_zero_of_not_pos hb
      by_cases ended : ∀ lane ∈ m.lanes, lane.forwarder = .ended
      · exact .inr (.inr (.inl ⟨rfl, empty, ended, by simpa [empty] using ended⟩))
      · exact .inr (.inr (.inr ⟨rfl, empty, ended, by simpa [empty] using ended⟩))

theorem orderly_receive {m : Merge} (h : Orderly m) : Orderly m.receive.2 := by
  rcases receive_cases m with ⟨-, hr⟩ | ⟨-, -, hr⟩ | ⟨-, -, -, hr⟩ | ⟨-, -, -, hr⟩
  · exact hr ▸ h
  · rw [hr]
    exact ⟨h.lanes, h.waiting, h.nodup, Nat.le_trans (Nat.sub_le _ _) h.buffered⟩
  · exact hr ▸ h
  · exact hr ▸ h

/-- No forwarder can take a step. -/
def Quiet (m : Merge) (cancelled : Bool) : Prop :=
  ∀ i, m.forward? cancelled i = none

lemma ended_of_quiet_cancelled {m : Merge} {i : Nat} {lane : Lane} (hi : m.lanes[i]? = some lane)
    (quiet : Quiet m true) : lane.forwarder = .ended := by
  have hq := quiet i
  unfold Merge.forward? at hq
  obtain ⟨source, forwarder⟩ := lane
  cases forwarder with
  | ended => rfl
  | idle | holding => simp [hi] at hq

lemma idle_of_quiet {m : Merge} {i : Nat} {lane : Lane} (h : Orderly m)
    (hi : m.lanes[i]? = some lane) (quiet : Quiet m false) (idle : lane.forwarder = .idle) :
    lane.source.held = 0 ∧ lane.source.sender = true := by
  have hq := quiet i
  unfold Merge.forward? Merge.take? at hq
  obtain ⟨source, forwarder⟩ := lane
  subst idle
  have received : source.receiver = true := (h.lanes i _ hi).receiver.mpr (by simp)
  by_cases hh : 0 < source.held
  · simp [hi, receive_of_held received hh] at hq
  · have empty : source.held = 0 := Nat.eq_zero_of_not_pos hh
    cases hs : source.sender with
    | true => exact ⟨empty, rfl⟩
    | false => simp [hi, Channel.receive, received, empty, hs] at hq

lemma receiver_of_quiet_holding {m : Merge} {i : Nat} {lane : Lane}
    (hi : m.lanes[i]? = some lane) (quiet : Quiet m false) (holding : lane.forwarder = .holding) :
    m.receiver = true := by
  have hq := quiet i
  unfold Merge.forward? Merge.put? at hq
  obtain ⟨source, forwarder⟩ := lane
  subst holding
  cases alive : m.receiver with
  | true => rfl
  | false => simp [hi, alive] at hq

/-- A forwarder waits with its signal only if there is one in the merged channel: otherwise the one
whose turn it is could go on. -/
lemma buffered_of_quiet_holding {m : Merge} {i : Nat} {lane : Lane} (h : Orderly m)
    (hi : m.lanes[i]? = some lane) (quiet : Quiet m false) (holding : lane.forwarder = .holding) :
    m.buffered = 1 := by
  have alive := receiver_of_quiet_holding hi quiet holding
  have mem : i ∈ m.waiting := (h.waiting i).mpr ⟨lane, hi, holding⟩
  obtain ⟨first, rest, hwaiting⟩ := List.exists_cons_of_ne_nil (List.ne_nil_of_mem mem)
  obtain ⟨⟨source, forwarder⟩, hfirst, hforwarder⟩ := (h.waiting first).mp (by simp [hwaiting])
  have hq := quiet first
  unfold Merge.forward? Merge.put? at hq
  subst hforwarder
  have full : m.buffered ≠ 0 := by
    intro empty
    simp [hfirst, alive, hwaiting, empty] at hq
  have := h.buffered
  omega

lemma total_eq_zero {α : Type} {size : α → Nat} {items : List α}
    (h : ∀ (i : Nat) (a : α), items[i]? = some a → size a = 0) : total size items = 0 := by
  induction items with
  | nil => rfl
  | cons first items ih =>
    have hfirst : size first = 0 := h 0 first rfl
    have hrest : total size items = 0 := ih fun i a hi => h (i + 1) a hi
    simp [hfirst, hrest]

/-- When no forwarder can go on and nothing is in the merged channel, nothing is on its way. -/
theorem undelivered_of_quiet {m : Merge} (h : Orderly m) (quiet : Quiet m false)
    (empty : m.buffered = 0) : undelivered m = 0 := by
  have hlanes : total laneLoad m.lanes = 0 := by
    apply total_eq_zero
    intro i lane hi
    cases hf : lane.forwarder with
    | idle => simp [laneLoad, hf, (idle_of_quiet h hi quiet hf).1]
    | ended => simp [laneLoad, hf, (h.lanes i lane hi).held hf]
    | holding =>
      have := buffered_of_quiet_holding h hi quiet hf
      omega
  simp only [undelivered, hlanes, empty]

lemma orderly_ofChannels {sources : List Channel} (h : ∀ c ∈ sources, c.receiver = true) :
    Orderly (.ofChannels sources) := by
  have hlane : ∀ (i : Nat) (lane : Lane), (Merge.ofChannels sources).lanes[i]? = some lane →
      lane.forwarder = .idle ∧ lane.source ∈ sources := by
    intro i lane hi
    simp only [Merge.ofChannels, List.getElem?_map, Option.map_eq_some_iff] at hi
    obtain ⟨source, hsource, rfl⟩ := hi
    exact ⟨rfl, List.mem_of_getElem? hsource⟩
  refine ⟨?_, ?_, List.nodup_nil, Nat.zero_le 1⟩
  · intro i lane hi
    obtain ⟨idle, mem⟩ := hlane i lane hi
    exact ⟨by simp [idle, h _ mem], by simp [idle]⟩
  · intro i
    constructor
    · intro mem
      cases mem
    · rintro ⟨lane, hi, holding⟩
      rw [(hlane i lane hi).1] at holding
      cases holding

end Signpost.Proofs

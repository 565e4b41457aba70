import Signpost.Clockwork
import Signpost.Signal.Channel
import Signpost.Total

/-!
# Merged channels

Several channels are merged into one with room for one signal. A forwarder for each takes one signal
after the other and puts it there. The merged channel is closed when all forwarders have ended.

The main statement is that settled forwarders have nothing left to do: each step of a forwarder
leaves less work.
-/

namespace Signpost.Signal

inductive Forwarder
  | idle
  /-- It has taken a signal and waits for room. -/
  | holding
  | ended
  deriving DecidableEq, Repr

/-- A channel and the forwarder that receives from it. -/
structure Lane where
  source : Channel
  forwarder : Forwarder := .idle
  deriving DecidableEq, Repr

structure Merge where
  lanes : List Lane
  /-- The signals in the merged channel. -/
  buffered : Nat := 0
  /-- Whether someone can still receive. -/
  receiver : Bool := true
  /-- The forwarders that wait for room, in order of arrival. -/
  waiting : List Nat := []
  deriving DecidableEq, Repr

namespace Merge

def ofChannels (sources : List Channel) : Merge :=
  { lanes := sources.map fun source => { source } }

/-- Puts another channel, or the same one in another state, into a lane. -/
def setSource (m : Merge) (i : Nat) (source : Channel) : Merge :=
  { m with lanes := m.lanes.modify i fun lane => { lane with source } }

/-- Sends a signal into a lane if there is room. -/
def send (m : Merge) (i : Nat) : Sent × Merge :=
  match m.lanes[i]? with
  | none => (.noSender, m)
  | some lane =>
    let (sent, source) := lane.source.trySend
    (sent, { m with lanes := m.lanes.set i { lane with source } })

/-- Nobody sends into a lane any more. -/
def close (m : Merge) (i : Nat) : Merge :=
  { m with lanes := m.lanes.modify i fun lane => { lane with source := lane.source.close } }

/-- Receives from the merged channel. -/
def receive (m : Merge) : Received × Merge :=
  if !m.receiver then (.noReceiver, m)
  else if 0 < m.buffered then (.signal, { m with buffered := m.buffered - 1 })
  else if m.lanes.all fun lane => lane.forwarder == .ended then (.closed, m)
  else (.pending, m)

/-- Nobody receives any more; a signal in the merged channel is lost. -/
def abandon (m : Merge) : Merge :=
  { m with receiver := false, buffered := 0 }

/-- Ends a forwarder. It receives no more from its channel and loses what it holds. -/
def finish (m : Merge) (i : Nat) : Merge :=
  { m with
    lanes := m.lanes.modify i fun lane => { source := lane.source.abandon, forwarder := .ended }
    waiting := m.waiting.erase i }

/-- The step that an idle forwarder can take. -/
def take? (m : Merge) (i : Nat) (source : Channel) : Option Merge :=
  match source.receive with
  | (.signal, source) =>
    some { m with
      lanes := m.lanes.set i { source, forwarder := .holding }
      waiting := m.waiting ++ [i] }
  | (.closed, _) => some (m.finish i)
  | _ => none

/-- The step that a forwarder with a signal can take: those that wait are served in their order. -/
def put? (m : Merge) (i : Nat) (source : Channel) : Option Merge :=
  if !m.receiver then some (m.finish i)
  else if m.waiting.head? = some i ∧ m.buffered = 0 then
    some { m with
      lanes := m.lanes.set i { source, forwarder := .idle }
      buffered := 1
      waiting := m.waiting.tail }
  else none

/-- The step that a forwarder can take, if any. A request to stop comes before all else. -/
def forward? (m : Merge) (cancelled : Bool) (i : Nat) : Option Merge :=
  match m.lanes[i]? with
  | none => none
  | some ⟨_, .ended⟩ => none
  | some ⟨source, .idle⟩ => if cancelled then some (m.finish i) else m.take? i source
  | some ⟨source, .holding⟩ => if cancelled then some (m.finish i) else m.put? i source

/-- The step that is taken next: that of the forwarder whose turn it is to put its signal, else that
of the first forwarder that can take one. -/
def step? (m : Merge) (cancelled : Bool) : Option Merge :=
  (m.waiting.head?.bind (m.forward? cancelled)).or
    ((List.range m.lanes.length).findSome? (m.forward? cancelled))

/-- What is left to do with the signals of a lane if each that is received takes `cost` steps. -/
def laneWork (cost : Nat) (lane : Lane) : Nat :=
  lane.source.work (cost + 3) +
    match lane.forwarder with
    | .idle => 1
    | .holding => cost + 3
    | .ended => 0

/-- What is left to do. It becomes less by each step of a forwarder, and by more than `cost` when a
signal is received. -/
def work (cost : Nat) (m : Merge) : Nat :=
  total (laneWork cost) m.lanes + (cost + 1) * m.buffered

/-- Lets the forwarders go on until none can. -/
def settle (m : Merge) (cancelled : Bool) : Merge :=
  Signpost.settle (step? · cancelled) (m.work 0) m

theorem work_finish_lt {cost : Nat} {m : Merge} {i : Nat} {lane : Lane}
    (h : m.lanes[i]? = some lane) (active : lane.forwarder ≠ .ended) :
    (m.finish i).work cost < m.work cost := by
  have htotal := @total_modify _ (laneWork cost) _ _ _ h fun lane =>
    { source := lane.source.abandon, forwarder := .ended }
  have habandon := lane.source.work_abandon_le (cost + 3)
  simp only [work, finish]
  cases hf : lane.forwarder <;> simp_all [laneWork] <;> omega

theorem work_take?_lt {cost : Nat} {m next : Merge} {i : Nat} {source : Channel}
    (h : m.lanes[i]? = some ⟨source, .idle⟩) (hnext : m.take? i source = some next) :
    next.work cost < m.work cost := by
  unfold take? at hnext
  split at hnext
  · rename_i rest hr
    have hsource : rest.work (cost + 3) + _ = _ := Channel.work_of_receive hr
    have htotal := @total_set _ (laneWork cost) _ _ _ h ⟨rest, .holding⟩
    simp only [Option.some.injEq] at hnext
    subst hnext
    simp only [laneWork] at htotal
    simp only [work]
    omega
  · simp only [Option.some.injEq] at hnext
    subst hnext
    exact work_finish_lt h (by simp)
  · simp at hnext

theorem work_put?_lt {cost : Nat} {m next : Merge} {i : Nat} {source : Channel}
    (h : m.lanes[i]? = some ⟨source, .holding⟩) (hnext : m.put? i source = some next) :
    next.work cost < m.work cost := by
  unfold put? at hnext
  split at hnext
  · simp only [Option.some.injEq] at hnext
    subst hnext
    exact work_finish_lt h (by simp)
  · split at hnext
    · rename_i room
      have htotal := @total_set _ (laneWork cost) _ _ _ h ⟨source, .idle⟩
      simp only [Option.some.injEq] at hnext
      subst hnext
      simp only [laneWork] at htotal
      simp only [work, room.2]
      omega
    · simp at hnext

theorem work_forward?_lt {cost : Nat} {m next : Merge} {cancelled : Bool} {i : Nat}
    (hnext : m.forward? cancelled i = some next) : next.work cost < m.work cost := by
  unfold forward? at hnext
  split at hnext
  · simp at hnext
  · simp at hnext
  · rename_i source h
    cases cancelled with
    | true =>
      obtain rfl : m.finish i = next := by simpa using hnext
      exact work_finish_lt h (by simp)
    | false => exact work_take?_lt h (by simpa using hnext)
  · rename_i source h
    cases cancelled with
    | true =>
      obtain rfl : m.finish i = next := by simpa using hnext
      exact work_finish_lt h (by simp)
    | false => exact work_put?_lt h (by simpa using hnext)

/-- To receive a signal leaves less to do by more than its cost. -/
theorem work_of_receive {cost : Nat} {m rest : Merge} (h : m.receive = (.signal, rest)) :
    rest.work cost + cost < m.work cost := by
  unfold receive at h
  split at h
  · simp at h
  · split at h
    · rename_i held
      obtain rfl : { m with buffered := m.buffered - 1 } = rest := by simpa using h
      obtain ⟨n, hn⟩ := Nat.exists_eq_add_of_lt held
      simp [work, hn, Nat.mul_add]
      omega
    · split at h <;> simp at h

theorem work_abandon_le (cost : Nat) (m : Merge) : m.abandon.work cost ≤ m.work cost := by
  simp only [work, abandon]
  omega

/-- What another state of a channel changes. -/
theorem work_setSource {cost : Nat} {m : Merge} {i : Nat} {lane : Lane}
    (h : m.lanes[i]? = some lane) (source : Channel) :
    (m.setSource i source).work cost + lane.source.work (cost + 3) =
      m.work cost + source.work (cost + 3) := by
  have htotal := @total_modify _ (laneWork cost) _ _ _ h fun lane => { lane with source }
  simp only [laneWork] at htotal
  simp only [work, setSource]
  omega

theorem exists_forward?_of_step? {m next : Merge} {cancelled : Bool}
    (h : m.step? cancelled = some next) : ∃ i, m.forward? cancelled i = some next := by
  unfold step? at h
  rcases Option.or_eq_some_iff.1 h with h | ⟨_, h⟩
  · obtain ⟨i, _, hi⟩ := Option.bind_eq_some_iff.1 h
    exact ⟨i, hi⟩
  · obtain ⟨i, _, hi⟩ := List.exists_of_findSome?_eq_some h
    exact ⟨i, hi⟩

/-- When no step is left no forwarder can take one. -/
theorem step?_eq_none_iff {m : Merge} {cancelled : Bool} :
    m.step? cancelled = none ↔ ∀ i, m.forward? cancelled i = none := by
  constructor
  · intro h i
    by_cases hi : i < m.lanes.length
    · simp only [step?, Option.or_eq_none_iff, List.findSome?_eq_none_iff] at h
      exact h.2 i (List.mem_range.2 hi)
    · simp [forward?, List.getElem?_eq_none (Nat.le_of_not_lt hi)]
  · intro h
    cases hs : m.step? cancelled with
    | none => rfl
    | some next =>
      obtain ⟨i, hi⟩ := exists_forward?_of_step? hs
      simp [h i] at hi

/-- Settled forwarders have nothing left to do. -/
theorem forward?_settle_eq_none (m : Merge) (cancelled : Bool) (i : Nat) :
    (m.settle cancelled).forward? cancelled i = none := by
  have work_lt (m next : Merge) (h : m.step? cancelled = some next) :
      next.work 0 < m.work 0 := by
    obtain ⟨i, hi⟩ := exists_forward?_of_step? h
    exact work_forward?_lt hi
  exact step?_eq_none_iff.1 (step?_settle_eq_none work_lt (m.work 0) m (Nat.le_refl _)) i

end Merge

end Signpost.Signal

import Signpost.Proofs.SignalConservation

/-!
# The end of merged channels

Merged channels are closed for the receiver when the last forwarder has ended. A forwarder ends when
its source is closed and empty, when it is told to stop, or when it holds a signal that nobody
receives. This file follows one lane through all steps and says when the end is seen on both sides.
-/

namespace Signpost.Proofs
open Signal

namespace Junction

/-- What a step can do to the lane `i`. -/
inductive LaneStep (j : Junction) (i : Nat) (lane : Lane) : Act → Lane → Prop
  | same {a : Act} (unsent : i ∉ j.accepts a) : LaneStep j i lane a lane
  | accept (sent : i ∈ j.accepts (.send i)) :
      LaneStep j i lane (.send i)
        { lane with source := { lane.source with held := lane.source.held + 1 } }
  | close : LaneStep j i lane (.close i) { lane with source := lane.source.close }
  | stop (told : j.cancelled = true) :
      LaneStep j i lane (.forward i) ⟨lane.source.abandon, .ended⟩
  | exhaust (empty : lane.source.held = 0) (idle : lane.forwarder = .idle)
      (closed : lane.source.sender = false) :
      LaneStep j i lane (.forward i) ⟨lane.source.abandon, .ended⟩
  | lose (holding : lane.forwarder = .holding) (gone : j.merge.receiver = false) :
      LaneStep j i lane (.forward i) ⟨lane.source.abandon, .ended⟩
  | take (idle : lane.forwarder = .idle) (held : 0 < lane.source.held) :
      LaneStep j i lane (.forward i)
        ⟨{ lane.source with held := lane.source.held - 1 }, .holding⟩
  | put (holding : lane.forwarder = .holding) (alive : j.merge.receiver = true) :
      LaneStep j i lane (.forward i) { lane with forwarder := .idle }

theorem laneStep_send {j : Junction} {i : Nat} {lane : Lane} (hi : j.merge.lanes[i]? = some lane)
    (k : Nat) : ∃ after, (j.step (.send k)).merge.lanes[i]? = some after ∧
      LaneStep j i lane (.send k) after := by
  cases hk : j.merge.lanes[k]? with
  | none =>
    refine ⟨lane, ?_, .same ?_⟩
    · simpa only [step, send_of_none hk] using hi
    · simp [accepts, send_of_none hk]
  | some other =>
    simp only [step, send_eq hk, setSource_eq hk, getElem?_set_of_getElem? hk]
    by_cases hik : i = k
    · subst hik
      obtain rfl : lane = other := by
        rw [hi] at hk
        exact Option.some.inj hk
      rw [if_pos rfl]
      refine ⟨_, rfl, ?_⟩
      rcases trySend_cases lane.source with ⟨-, h⟩ | ⟨-, -, h⟩ | ⟨-, -, -, h⟩ | ⟨-, -, -, h⟩
      · rw [h]
        exact .same (by simp [accepts, send_eq hi, h])
      · rw [h]
        exact .same (by simp [accepts, send_eq hi, h])
      · rw [h]
        exact .accept (by simp [accepts, send_eq hi, h])
      · rw [h]
        exact .same (by simp [accepts, send_eq hi, h])
    · rw [if_neg hik]
      refine ⟨lane, hi, .same ?_⟩
      simp only [accepts]
      split <;> simp [hik]

theorem laneStep_close {j : Junction} {i : Nat} {lane : Lane} (hi : j.merge.lanes[i]? = some lane)
    (k : Nat) : ∃ after, (j.step (.close k)).merge.lanes[i]? = some after ∧
      LaneStep j i lane (.close k) after := by
  have unsent : i ∉ j.accepts (.close k) := List.not_mem_nil
  cases hk : j.merge.lanes[k]? with
  | none => exact ⟨lane, by simpa only [step, close_of_none hk] using hi, .same unsent⟩
  | some other =>
    simp only [step, close_eq hk, setSource_eq hk, getElem?_set_of_getElem? hk]
    by_cases hik : i = k
    · subst hik
      obtain rfl : lane = other := by
        rw [hi] at hk
        exact Option.some.inj hk
      rw [if_pos rfl]
      exact ⟨_, rfl, .close⟩
    · rw [if_neg hik]
      exact ⟨lane, hi, .same unsent⟩

theorem laneStep_forward {j : Junction} {i : Nat} {lane : Lane}
    (hi : j.merge.lanes[i]? = some lane) (k : Nat) :
    ∃ after, (j.step (.forward k)).merge.lanes[i]? = some after ∧
      LaneStep j i lane (.forward k) after := by
  have unsent : i ∉ j.accepts (.forward k) := List.not_mem_nil
  cases hf : j.merge.forward? j.cancelled k with
  | none =>
    rw [step_forward_of_none hf]
    exact ⟨lane, hi, .same unsent⟩
  | some next =>
    rw [step_forward_of_some hf]
    obtain ⟨other, hk, step⟩ := forwardStep_of_forward? hf
    by_cases hik : i = k
    · subst hik
      obtain rfl : lane = other := by
        rw [hi] at hk
        exact Option.some.inj hk
      cases step with
      | stop _ told =>
        refine ⟨_, ?_, .stop told⟩
        simp only [finish_eq hi, getElem?_set_of_getElem? hi, if_true]
      | close idle _ empty closed =>
        refine ⟨_, ?_, .exhaust empty idle closed⟩
        simp only [finish_eq hi, getElem?_set_of_getElem? hi, if_true]
      | lose holding _ gone =>
        refine ⟨_, ?_, .lose holding gone⟩
        simp only [finish_eq hi, getElem?_set_of_getElem? hi, if_true]
      | take idle _ _ held =>
        refine ⟨_, ?_, .take idle held⟩
        simp only [getElem?_set_of_getElem? hi, if_true]
      | put holding _ alive _ _ =>
        refine ⟨_, ?_, .put holding alive⟩
        simp only [getElem?_set_of_getElem? hi, if_true]
    · refine ⟨lane, ?_, .same unsent⟩
      cases step with
      | stop | close | lose =>
        simpa only [finish_eq hk, getElem?_set_of_getElem? hk, if_neg hik] using hi
      | take | put => simpa only [getElem?_set_of_getElem? hk, if_neg hik] using hi

theorem laneStep_of_step {j : Junction} {i : Nat} {lane : Lane}
    (hi : j.merge.lanes[i]? = some lane) (a : Act) :
    ∃ after, (j.step a).merge.lanes[i]? = some after ∧ LaneStep j i lane a after := by
  cases a with
  | send k => exact laneStep_send hi k
  | close k => exact laneStep_close hi k
  | forward k => exact laneStep_forward hi k
  | receive =>
    refine ⟨lane, ?_, .same List.not_mem_nil⟩
    rcases receive_cases j.merge with ⟨-, h⟩ | ⟨-, -, h⟩ | ⟨-, -, -, h⟩ | ⟨-, -, -, h⟩ <;>
      simpa only [step, h] using hi
  | abandon | cancel => exact ⟨lane, hi, .same List.not_mem_nil⟩

lemma lanes_length_step (j : Junction) (a : Act) :
    (j.step a).merge.lanes.length = j.merge.lanes.length := by
  cases a with
  | send k =>
    cases hk : j.merge.lanes[k]? with
    | none => simp only [step, send_of_none hk]
    | some lane => simp only [step, send_eq hk, setSource_eq hk, List.length_set]
  | close k => simp only [step, Merge.close, List.length_modify]
  | receive =>
    rcases receive_cases j.merge with ⟨-, h⟩ | ⟨-, -, h⟩ | ⟨-, -, -, h⟩ | ⟨-, -, -, h⟩ <;>
      simp only [step, h]
  | abandon | cancel => rfl
  | forward k =>
    cases hf : j.merge.forward? j.cancelled k with
    | none => rw [step_forward_of_none hf]
    | some next =>
      rw [step_forward_of_some hf]
      obtain ⟨lane, hk, step⟩ := forwardStep_of_forward? hf
      cases step with
      | stop | close | lose => simp only [finish_eq hk, List.length_set]
      | take | put => simp only [List.length_set]

lemma exists_laneStep {j : Junction} {a : Act} {i : Nat} {after : Lane}
    (hi : (j.step a).merge.lanes[i]? = some after) :
    ∃ lane, j.merge.lanes[i]? = some lane ∧ LaneStep j i lane a after := by
  obtain ⟨hlt, -⟩ := List.getElem?_eq_some_iff.mp hi
  rw [lanes_length_step] at hlt
  have hlane : j.merge.lanes[i]? = some j.merge.lanes[i] := List.getElem?_eq_getElem hlt
  obtain ⟨other, ho, step⟩ := laneStep_of_step hlane a
  rw [ho] at hi
  cases hi
  exact ⟨_, hlane, step⟩

/-- A forwarder that nobody stops ends only when its source is closed. -/
def EndsWithSource (j : Junction) : Prop :=
  ∀ (i : Nat) (lane : Lane), j.merge.lanes[i]? = some lane → lane.forwarder = .ended →
    lane.source.sender = false

lemma endsWithSource_step {j : Junction} {a : Act} (h : j.EndsWithSource)
    (running : (j.step a).cancelled = false) (alive : (j.step a).merge.receiver = true) :
    (j.step a).EndsWithSource := by
  intro i after hi ended
  obtain ⟨lane, hlane, step⟩ := exists_laneStep hi
  cases step with
  | same => exact h i _ hlane ended
  | accept => exact h i lane hlane ended
  | close => rfl
  | stop told =>
    rw [running_of_step running] at told
    cases told
  | exhaust _ _ closed => exact closed
  | lose _ gone =>
    rw [alive_of_step alive] at gone
    cases gone
  | take | put => cases ended

lemma endsWithSource_run {j : Junction} {acts : List Act} (h : j.EndsWithSource)
    (running : (j.run acts).cancelled = false) (alive : (j.run acts).merge.receiver = true) :
    (j.run acts).EndsWithSource := by
  induction acts generalizing j with
  | nil => exact h
  | cons a acts ih =>
    have first := endsWithSource_step h (running_of_run running) (alive_of_run alive)
    exact ih first running alive

lemma endsWithSource_start (sources : List Channel) : (start sources).EndsWithSource := by
  intro i lane hi ended
  simp only [start, Merge.ofChannels, List.getElem?_map, Option.map_eq_some_iff] at hi
  obtain ⟨source, -, rfl⟩ := hi
  cases ended

lemma receive_of_ended {m : Merge} (alive : m.receiver = true)
    (ended : ∀ lane ∈ m.lanes, lane.forwarder = .ended) (empty : m.buffered = 0) :
    m.receive.1 = .closed := by
  rcases receive_cases m with ⟨gone, -⟩ | ⟨-, held, -⟩ | ⟨-, -, -, h⟩ | ⟨-, -, active, -⟩
  · rw [alive] at gone
    cases gone
  · omega
  · rw [h]
  · exact absurd ended active

/-- At rest a receiver is told of the end when all sources are closed and all is received. -/
theorem closed_iff_of_quiet {j : Junction} (orderly : Orderly j.merge) (ends : j.EndsWithSource)
    (alive : j.merge.receiver = true) (quiet : Quiet j.merge false) :
    j.merge.receive.1 = .closed ↔
      (∀ lane ∈ j.merge.lanes, lane.source.sender = false) ∧ undelivered j.merge = 0 := by
  constructor
  · intro closed
    rcases receive_cases j.merge with ⟨-, h⟩ | ⟨-, -, h⟩ | ⟨-, empty, ended, -⟩ | ⟨-, -, -, h⟩
    · rw [h] at closed
      cases closed
    · rw [h] at closed
      cases closed
    · refine ⟨?_, undelivered_of_quiet orderly quiet empty⟩
      intro lane mem
      obtain ⟨i, hi⟩ := List.getElem?_of_mem mem
      exact ends i lane hi (ended lane mem)
    · rw [h] at closed
      cases closed
  · rintro ⟨closed, none⟩
    have empty : j.merge.buffered = 0 := by
      simp only [undelivered] at none
      omega
    have ended : ∀ lane ∈ j.merge.lanes, lane.forwarder = .ended := by
      intro lane mem
      obtain ⟨i, hi⟩ := List.getElem?_of_mem mem
      cases hf : lane.forwarder with
      | ended => rfl
      | idle =>
        have := (idle_of_quiet orderly hi quiet hf).2
        rw [closed lane mem] at this
        cases this
      | holding =>
        have := buffered_of_quiet_holding orderly hi quiet hf
        omega
    exact receive_of_ended alive ended empty

lemma cancelled_step {j : Junction} (h : j.cancelled = true) (a : Act) :
    (j.step a).cancelled = true := by
  cases a with
  | cancel => rfl
  | send | close | receive | abandon | forward => exact h

/-- Once they are told to stop, forwarders put nothing more into the merged channel. What is in it
can still be received. -/
lemma buffered_step_of_cancelled {j : Junction} (told : j.cancelled = true) (a : Act) :
    j.receives a + (j.step a).merge.buffered ≤ j.merge.buffered ∧
      ((j.step a).merge.receiver = true →
        j.receives a + (j.step a).merge.buffered = j.merge.buffered) := by
  cases a with
  | send k =>
    cases hk : j.merge.lanes[k]? with
    | none => simp [receives, step, send_of_none hk]
    | some lane => simp [receives, step, send_eq hk, setSource_eq hk]
  | close k => simp [receives, step, Merge.close]
  | receive =>
    rcases receive_cases j.merge with ⟨-, h⟩ | ⟨-, held, h⟩ | ⟨-, -, -, h⟩ | ⟨-, -, -, h⟩
    · simp [receives, step, h]
    · simp only [receives, step, h, if_true]
      omega
    · simp [receives, step, h]
    · simp [receives, step, h]
  | abandon => simp [receives, step, Merge.abandon]
  | cancel => simp [receives, step]
  | forward k =>
    cases hf : j.merge.forward? j.cancelled k with
    | none => simp [receives, step_forward_of_none hf]
    | some next =>
      rw [step_forward_of_some hf]
      obtain ⟨lane, hk, step⟩ := forwardStep_of_forward? hf
      rw [told] at step
      cases step with
      | stop => simp [receives, finish_eq hk]
      | close _ running | lose _ running | take _ running | put _ running => cases running

theorem buffered_run_of_cancelled {j : Junction} (told : j.cancelled = true) (acts : List Act) :
    j.received acts + (j.run acts).merge.buffered ≤ j.merge.buffered ∧
      ((j.run acts).merge.receiver = true →
        j.received acts + (j.run acts).merge.buffered = j.merge.buffered) := by
  induction acts generalizing j with
  | nil => simp [received]
  | cons a acts ih =>
    obtain ⟨hfirst, hsame⟩ := buffered_step_of_cancelled told a
    obtain ⟨hrest, hrestSame⟩ := ih (cancelled_step told a)
    simp only [received, run_cons]
    refine ⟨by omega, ?_⟩
    intro alive
    have := hsame (alive_of_run alive)
    have := hrestSame alive
    omega

lemma send_of_ended {m : Merge} {i : Nat} {lane : Lane} (h : Orderly m)
    (hi : m.lanes[i]? = some lane) (sender : lane.source.sender = true) :
    (m.send i).1 = .closed ↔ lane.forwarder = .ended := by
  have hreceiver := (h.lanes i lane hi).receiver
  rw [send_eq hi]
  rcases trySend_cases lane.source with ⟨hs, -⟩ | ⟨-, hr, ht⟩ | ⟨-, hr, -, ht⟩ | ⟨-, hr, -, ht⟩
  · rw [sender] at hs
    cases hs
  · simpa [ht, hr] using hreceiver
  · simpa [ht, hr] using hreceiver
  · simpa [ht, hr] using hreceiver

lemma receive_of_buffered {m : Merge} (alive : m.receiver = true) (held : m.buffered = 1) :
    m.receive = (.signal, { m with buffered := 0 }) := by
  simp only [Merge.receive, alive, held, Bool.not_true, Bool.false_eq_true, if_false,
    Nat.zero_lt_one, if_true]

/-- An end that was reported is final. -/
theorem received_eq_zero_of_ended {j : Junction} (empty : j.merge.buffered = 0)
    (ended : ∀ lane ∈ j.merge.lanes, lane.forwarder = .ended) (acts : List Act) :
    j.received acts = 0 := by
  induction acts generalizing j with
  | nil => rfl
  | cons a acts ih =>
    have hended : ∀ lane ∈ (j.step a).merge.lanes, lane.forwarder = .ended := by
      intro after mem
      obtain ⟨i, hi⟩ := List.getElem?_of_mem mem
      obtain ⟨lane, hlane, step⟩ := exists_laneStep hi
      have before := ended lane (List.mem_of_getElem? hlane)
      cases step with
      | same | accept | close => exact before
      | stop | exhaust | lose => rfl
      | take idle =>
        rw [before] at idle
        cases idle
      | put holding =>
        rw [before] at holding
        cases holding
    have hbuffered : j.receives a = 0 ∧ (j.step a).merge.buffered = 0 := by
      cases a with
      | send k =>
        cases hk : j.merge.lanes[k]? with
        | none => exact ⟨rfl, by simpa only [step, send_of_none hk] using empty⟩
        | some lane => exact ⟨rfl, by simpa only [step, send_eq hk, setSource_eq hk] using empty⟩
      | close k => exact ⟨rfl, empty⟩
      | receive =>
        rcases receive_cases j.merge with ⟨-, h⟩ | ⟨-, held, -⟩ | ⟨-, -, -, h⟩ | ⟨-, -, -, h⟩
        · simp [receives, step, h, empty]
        · omega
        · simp [receives, step, h, empty]
        · simp [receives, step, h, empty]
      | abandon => exact ⟨rfl, rfl⟩
      | cancel => exact ⟨rfl, empty⟩
      | forward k =>
        refine ⟨rfl, ?_⟩
        have hnone : j.merge.forward? j.cancelled k = none := by
          cases hk : j.merge.lanes[k]? with
          | none => simp [Merge.forward?, hk]
          | some lane =>
            obtain ⟨source, forwarder⟩ := lane
            obtain rfl : forwarder = .ended := ended _ (List.mem_of_getElem? hk)
            simp [Merge.forward?, hk]
        rw [step_forward_of_none hnone]
        exact empty
    rw [received, hbuffered.1, ih hbuffered.2 hended]

lemma gone_step {j : Junction} (gone : j.merge.receiver = false) (a : Act) :
    (j.step a).merge.receiver = false := by
  cases h : (j.step a).merge.receiver with
  | false => rfl
  | true =>
    rw [alive_of_step h] at gone
    cases gone

/-- A lane that can notice that nobody receives: it has a signal to put, or has noticed it. -/
def Touched (lane : Lane) : Prop :=
  lane.forwarder = .ended ∨ 0 < laneLoad lane

/-- A source that is closed is not opened again. -/
lemma laneStep_sender {j : Junction} {i : Nat} {a : Act} {lane after : Lane}
    (step : LaneStep j i lane a after) (sender : after.source.sender = true) :
    lane.source.sender = true := by
  cases step with
  | close => cases sender
  | same | accept | stop | exhaust | lose | take | put => exact sender

lemma laneStep_touched {j : Junction} {i : Nat} {a : Act} {lane after : Lane}
    (gone : j.merge.receiver = false) (step : LaneStep j i lane a after)
    (h : Touched lane ∨ i ∈ j.accepts a) : Touched after := by
  cases step with
  | same unsent => exact h.resolve_right unsent
  | accept => exact .inr (by simp only [laneLoad]; omega)
  | close => exact h.resolve_right List.not_mem_nil
  | stop | exhaust | lose => exact .inl rfl
  | take => exact .inr (by simp [laneLoad])
  | put _ alive =>
    rw [gone] at alive
    cases alive

lemma laneStep_untouched {j : Junction} {i : Nat} {a : Act} {lane after : Lane}
    (running : j.cancelled = false) (step : LaneStep j i lane a after) (untouched : ¬Touched lane)
    (unsent : i ∉ j.accepts a) (sender : after.source.sender = true) : ¬Touched after := by
  have hload : lane.source.held = 0 ∧ lane.forwarder ≠ .holding := by
    have hzero : ¬0 < laneLoad lane := fun h => untouched (.inr h)
    constructor
    · simp only [laneLoad] at hzero
      omega
    · intro holding
      simp [laneLoad, holding] at hzero
  cases step with
  | same => exact untouched
  | accept sent => exact absurd sent unsent
  | close => cases sender
  | stop told =>
    rw [running] at told
    cases told
  | exhaust _ _ closed =>
    rw [show lane.source.abandon.sender = lane.source.sender from rfl, closed] at sender
    cases sender
  | lose holding => exact absurd holding hload.2
  | take _ held => omega
  | put holding => exact absurd holding hload.2

/-- After the receiver has gone, with nobody asking to stop: what is touched stays so, and what is
not touched stays as long as nothing is accepted and the source is open. -/
theorem touched_run {j : Junction} {acts : List Act} {i : Nat} {lane : Lane}
    (gone : j.merge.receiver = false) (running : (j.run acts).cancelled = false)
    (hi : j.merge.lanes[i]? = some lane) :
    ∃ after, (j.run acts).merge.lanes[i]? = some after ∧
      (after.source.sender = true → lane.source.sender = true) ∧
      (Touched lane ∨ i ∈ j.accepted acts → Touched after) ∧
      (¬Touched lane → i ∉ j.accepted acts → after.source.sender = true → ¬Touched after) := by
  induction acts generalizing j lane with
  | nil => exact ⟨lane, hi, id, fun h => h.resolve_right List.not_mem_nil, fun h _ _ => h⟩
  | cons a acts ih =>
    obtain ⟨next, hnext, step⟩ := laneStep_of_step hi a
    obtain ⟨after, hafter, hsender, touched, untouched⟩ := ih (gone_step gone a) running hnext
    refine ⟨after, hafter, fun sender => laneStep_sender step (hsender sender), ?_, ?_⟩
    · intro h
      apply touched
      rcases h with h | h
      · exact .inl (laneStep_touched gone step (.inl h))
      · rcases List.mem_append.mp h with first | rest
        · exact .inl (laneStep_touched gone step (.inr first))
        · exact .inr rest
    · intro h unsent sender
      obtain ⟨hfirst, hrest⟩ := not_or.mp (mt List.mem_append.mpr unsent)
      have hrunning := running_of_step (running_of_run running)
      exact untouched (laneStep_untouched hrunning step h hfirst (hsender sender)) hrest sender

/-- The forwarders come to rest. -/
theorem exists_quiet (j : Junction) :
    ∃ steps : List Nat, (j.run (steps.map .forward)).cancelled = j.cancelled ∧
      Quiet (j.run (steps.map .forward)).merge j.cancelled := by
  have reached : ∃ steps : List Nat,
      j.run (steps.map .forward) = { j with merge := j.merge.settle j.cancelled } := by
    apply settle_induction (P := fun m => ∃ steps : List Nat,
      j.run (steps.map .forward) = { j with merge := m })
    · rintro m next ⟨steps, hsteps⟩ hnext
      obtain ⟨i, hi⟩ := Merge.exists_forward?_of_step? hnext
      refine ⟨steps ++ [i], ?_⟩
      rw [List.map_append, run_append, hsteps]
      exact step_forward_of_some hi
    · exact ⟨[], rfl⟩
  obtain ⟨steps, hsteps⟩ := reached
  refine ⟨steps, by rw [hsteps], ?_⟩
  rw [hsteps]
  exact Merge.forward?_settle_eq_none j.merge j.cancelled

/-- Forwarders that were told to stop and are at rest leave the end behind what is still in the
merged channel, and nobody can send any more. -/
theorem ends_of_quiet_cancelled {j : Junction} (orderly : Orderly j.merge)
    (quiet : Quiet j.merge true) :
    (∀ (i : Nat) (lane : Lane), j.merge.lanes[i]? = some lane → lane.source.sender = true →
      (j.merge.send i).1 = .closed) ∧
    (j.merge.receiver = true → j.merge.buffered = 0 → j.merge.receive.1 = .closed) ∧
    (j.merge.receiver = true → j.merge.buffered = 1 →
      j.merge.receive.1 = .signal ∧ j.merge.receive.2.receive.1 = .closed) := by
  have ended : ∀ lane ∈ j.merge.lanes, lane.forwarder = .ended := by
    intro lane mem
    obtain ⟨i, hi⟩ := List.getElem?_of_mem mem
    exact ended_of_quiet_cancelled hi quiet
  refine ⟨?_, ?_, ?_⟩
  · intro i lane hi sender
    exact (send_of_ended orderly hi sender).mpr (ended lane (List.mem_of_getElem? hi))
  · intro alive empty
    exact receive_of_ended alive ended empty
  · intro alive held
    rw [receive_of_buffered alive held]
    exact ⟨rfl, receive_of_ended alive ended rfl⟩

/-- When the receiver has gone and the forwarders are at rest, those sources are closed that had or
got a signal. -/
theorem send_closed_iff_of_abandoned {j : Junction} (orderly : Orderly j.merge)
    (ends : j.EndsWithSource) {acts : List Act}
    (running : ((j.step .abandon).run acts).cancelled = false)
    (quiet : Quiet ((j.step .abandon).run acts).merge false) {i : Nat} {lane after : Lane}
    (hi : j.merge.lanes[i]? = some lane)
    (hafter : ((j.step .abandon).run acts).merge.lanes[i]? = some after)
    (sender : after.source.sender = true) :
    (((j.step .abandon).run acts).merge.send i).1 = .closed ↔
      0 < lane.source.held ∨ lane.forwarder = .holding ∨ i ∈ (j.step .abandon).accepted acts := by
  have later : Orderly ((j.step .abandon).run acts).merge :=
    orderly_run (orderly_step orderly .abandon) acts
  have gone : (j.step .abandon).merge.receiver = false := rfl
  obtain ⟨other, hother, hsender, touched, untouched⟩ := touched_run gone running hi
  obtain rfl : after = other := by
    rw [hafter] at hother
    exact Option.some.inj hother
  have active : lane.forwarder ≠ .ended := by
    intro ended
    have := ends i lane hi ended
    rw [hsender sender] at this
    cases this
  have htouched : Touched lane ↔ 0 < lane.source.held ∨ lane.forwarder = .holding := by
    by_cases holding : lane.forwarder = .holding <;> simp [Touched, laneLoad, holding, active]
  rw [send_of_ended later hafter sender, ← or_assoc, ← htouched]
  constructor
  · intro ended
    by_contra hnot
    obtain ⟨hlane, unsent⟩ := not_or.mp hnot
    exact untouched hlane unsent sender (.inl ended)
  · intro h
    rcases touched h with ended | loaded
    · exact ended
    · cases hf : after.forwarder with
      | ended => rfl
      | idle =>
        have empty := (idle_of_quiet later hafter quiet hf).1
        simp [laneLoad, hf, empty] at loaded
      | holding =>
        have alive := receiver_of_quiet_holding hafter quiet hf
        have := alive_of_run alive
        rw [gone] at this
        cases this

/-- When and how the end of merged channels is seen, on the side of the receiver and on that of the
sources. -/
theorem merged_stream_closes (sources : List Channel) (listened : ∀ c ∈ sources, c.receiver = true)
    (acts : List Act) :
    let j := (start sources).run acts
    (∃ steps : List Nat, Quiet (j.run (steps.map .forward)).merge j.cancelled) ∧
    (j.cancelled = false → j.merge.receiver = true → Quiet j.merge false →
      (j.merge.receive.1 = .closed ↔
        (∀ lane ∈ j.merge.lanes, lane.source.sender = false) ∧
          total Channel.held sources + ((start sources).accepted acts).length =
            (start sources).received acts)) ∧
    (j.cancelled = true → j.merge.buffered ≤ 1 ∧ ∀ more : List Act,
      let k := j.run more
      j.received more + k.merge.buffered ≤ j.merge.buffered ∧
      (k.merge.receiver = true → j.received more + k.merge.buffered = j.merge.buffered) ∧
      (Quiet k.merge true →
        (∀ (i : Nat) (lane : Lane), k.merge.lanes[i]? = some lane → lane.source.sender = true →
          (k.merge.send i).1 = .closed) ∧
        (k.merge.receiver = true → k.merge.buffered = 0 → k.merge.receive.1 = .closed) ∧
        (k.merge.receiver = true → k.merge.buffered = 1 →
          k.merge.receive.1 = .signal ∧ k.merge.receive.2.receive.1 = .closed))) ∧
    (j.cancelled = false → j.merge.receiver = true → ∀ more : List Act,
      let k := (j.step .abandon).run more
      k.cancelled = false → Quiet k.merge false →
      ∀ (i : Nat) (lane after : Lane), j.merge.lanes[i]? = some lane →
        k.merge.lanes[i]? = some after → after.source.sender = true →
        ((k.merge.send i).1 = .closed ↔ 0 < lane.source.held ∨ lane.forwarder = .holding ∨
          i ∈ (j.step .abandon).accepted more)) ∧
    (j.merge.receive.1 = .closed → ∀ more : List Act, j.received more = 0) := by
  intro j
  have orderly : Orderly j.merge := orderly_start listened acts
  refine ⟨?_, ?_, ?_, ?_, ?_⟩
  · obtain ⟨steps, -, quiet⟩ := exists_quiet j
    exact ⟨steps, quiet⟩
  · intro running alive quiet
    have ends : j.EndsWithSource := endsWithSource_run (endsWithSource_start sources) running alive
    have conserved : undelivered (start sources).merge + _ = undelivered j.merge + _ :=
      run_conserves running alive
    have hstart : undelivered (start sources).merge = total Channel.held sources :=
      undelivered_ofChannels sources
    rw [closed_iff_of_quiet orderly ends alive quiet]
    apply and_congr_right
    intro _
    omega
  · intro told
    refine ⟨orderly.buffered, ?_⟩
    intro more
    obtain ⟨hle, heq⟩ := buffered_run_of_cancelled told more
    exact ⟨hle, heq, fun quiet => ends_of_quiet_cancelled (orderly_run orderly more) quiet⟩
  · intro running alive more k hrunning quiet i lane after hi hafter sender
    have ends : j.EndsWithSource := endsWithSource_run (endsWithSource_start sources) running alive
    exact send_closed_iff_of_abandoned orderly ends hrunning quiet hi hafter sender
  · intro closed more
    rcases receive_cases j.merge with ⟨-, h⟩ | ⟨-, -, h⟩ | ⟨-, empty, ended, -⟩ | ⟨-, -, -, h⟩
    · rw [h] at closed
      cases closed
    · rw [h] at closed
      cases closed
    · exact received_eq_zero_of_ended empty ended more
    · rw [h] at closed
      cases closed

/-- One signal is put into the merged channel and the forwarders are told to stop. -/
def stopping : List Act :=
  [.forward 0, .forward 0, .cancel, .forward 0, .forward 1]

/-- After the receiver has gone a signal is sent to the source that had none. -/
def leaving : List Act :=
  [.forward 0, .send 1, .forward 1, .forward 1, .forward 0]

theorem merged_stream_closes_twoSources :
    (∀ c ∈ twoSources, c.receiver = true) ∧
    ((start twoSources).run (draining ++ [.close 1, .forward 1])).merge.receive.1 = .closed ∧
    (Quiet ((start twoSources).run stopping).merge true ∧
      ((start twoSources).run stopping).merge.receive.1 = .signal ∧
      ((start twoSources).run stopping).merge.receive.2.receive.1 = .closed ∧
      (((start twoSources).run stopping).merge.send 1).1 = .closed) ∧
    (Quiet (((start twoSources).step .abandon).run leaving).merge false ∧
      ((((start twoSources).step .abandon).run leaving).merge.send 1).1 = .closed) ∧
    ((start twoSources).run (draining ++ [.close 1, .forward 1])).received [.receive] = 0 := by
  have listened : ∀ c ∈ twoSources, c.receiver = true := by decide
  obtain ⟨-, drained, -, -, final⟩ :=
    merged_stream_closes twoSources listened (draining ++ [.close 1, .forward 1])
  have quietDrained := Merge.step?_eq_none_iff.mp
    (show ((start twoSources).run (draining ++ [.close 1, .forward 1])).merge.step? false = none by
      decide)
  have closed := (drained (by decide) (by decide) quietDrained).mpr (by decide)
  obtain ⟨-, -, stopped, -, -⟩ := merged_stream_closes twoSources listened stopping
  have quietStopped : Quiet ((start twoSources).run stopping).merge true :=
    Merge.step?_eq_none_iff.mp (by decide)
  obtain ⟨-, -, ends⟩ := (stopped (by decide)).2 []
  obtain ⟨send, -, behind⟩ := ends quietStopped
  obtain ⟨signal, thenClosed⟩ := behind (by decide) (by decide)
  have refused := send 1 { source := { capacity := 1, receiver := false }, forwarder := .ended }
    (by decide) (by decide)
  obtain ⟨-, -, -, abandoned, -⟩ := merged_stream_closes twoSources listened []
  have quietLeft : Quiet (((start twoSources).step .abandon).run leaving).merge false :=
    Merge.step?_eq_none_iff.mp (by decide)
  have left := (abandoned (by decide) (by decide) leaving (by decide) quietLeft 1
    { source := { capacity := 1 } }
    { source := { capacity := 1, receiver := false }, forwarder := .ended }
    (by decide) (by decide) (by decide)).mpr (by decide)
  exact ⟨listened, closed, ⟨quietStopped, signal, thenClosed, refused⟩, ⟨quietLeft, left⟩,
    final closed [.receive]⟩

end Junction

end Signpost.Proofs

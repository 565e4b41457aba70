import Signpost.Proofs.MergeSteps

/-!
# Conservation of signals

Merged channels in use: signals are sent, channels are closed, someone receives, and the forwarders
take their steps, all in any order. Until someone asks to stop or receives no more, no signal is
lost and none is made: those that were accepted are received or on their way.
-/

namespace Signpost.Proofs
open Signal

/-- Merged channels, and whether their forwarders are told to stop. -/
structure Junction where
  merge : Merge
  cancelled : Bool := false

/-- What can happen to merged channels. -/
inductive Junction.Act
  | send (i : Nat)
  | close (i : Nat)
  | receive
  | abandon
  | cancel
  | forward (i : Nat)

namespace Junction

def start (sources : List Channel) : Junction :=
  { merge := .ofChannels sources }

/-- A forwarder that cannot take a step leaves everything as it is. -/
def step (j : Junction) : Act → Junction
  | .send i => { j with merge := (j.merge.send i).2 }
  | .close i => { j with merge := j.merge.close i }
  | .receive => { j with merge := j.merge.receive.2 }
  | .abandon => { j with merge := j.merge.abandon }
  | .cancel => { j with cancelled := true }
  | .forward i => { j with merge := (j.merge.forward? j.cancelled i).getD j.merge }

def run (j : Junction) (acts : List Act) : Junction :=
  acts.foldl step j

/-- The source that accepts a signal, if one does. -/
def accepts (j : Junction) : Act → List Nat
  | .send i => if (j.merge.send i).1 = .accepted then [i] else []
  | _ => []

/-- The sources that accept signals, one after the other. -/
def accepted (j : Junction) : List Act → List Nat
  | [] => []
  | a :: acts => j.accepts a ++ (j.step a).accepted acts

def receives (j : Junction) : Act → Nat
  | .receive => if j.merge.receive.1 = .signal then 1 else 0
  | _ => 0

/-- How many signals are received. -/
def received (j : Junction) : List Act → Nat
  | [] => 0
  | a :: acts => j.receives a + (j.step a).received acts

@[simp]
lemma run_nil (j : Junction) : j.run [] = j := rfl

@[simp]
lemma run_cons (j : Junction) (a : Act) (acts : List Act) :
    j.run (a :: acts) = (j.step a).run acts := rfl

lemma run_append (j : Junction) (first second : List Act) :
    j.run (first ++ second) = (j.run first).run second :=
  List.foldl_append

lemma step_forward_of_some {j : Junction} {i : Nat} {next : Merge}
    (h : j.merge.forward? j.cancelled i = some next) :
    j.step (.forward i) = { j with merge := next } := by
  simp only [step, h, Option.getD_some]

lemma step_forward_of_none {j : Junction} {i : Nat}
    (h : j.merge.forward? j.cancelled i = none) : j.step (.forward i) = j := by
  simp only [step, h, Option.getD_none]

theorem orderly_step {j : Junction} (h : Orderly j.merge) (a : Act) : Orderly (j.step a).merge := by
  cases a with
  | send i => exact orderly_send h i
  | close i => exact orderly_close h i
  | receive => exact orderly_receive h
  | abandon => exact orderly_abandon h
  | cancel => exact h
  | forward i =>
    cases hf : j.merge.forward? j.cancelled i with
    | none => rwa [step_forward_of_none hf]
    | some next =>
      obtain ⟨lane, hi, step⟩ := forwardStep_of_forward? hf
      rw [step_forward_of_some hf]
      exact orderly_forwardStep h hi step

theorem orderly_run {j : Junction} (h : Orderly j.merge) (acts : List Act) :
    Orderly (j.run acts).merge := by
  induction acts generalizing j with
  | nil => exact h
  | cons a acts ih => exact ih (orderly_step h a)

lemma orderly_start {sources : List Channel} (h : ∀ c ∈ sources, c.receiver = true)
    (acts : List Act) : Orderly ((start sources).run acts).merge :=
  orderly_run (orderly_ofChannels h) acts

lemma alive_of_step {j : Junction} {a : Act} (h : (j.step a).merge.receiver = true) :
    j.merge.receiver = true := by
  cases a with
  | send i =>
    cases hi : j.merge.lanes[i]? with
    | none => simpa only [step, send_of_none hi] using h
    | some lane =>
      rw [step, send_eq hi] at h
      exact h
  | close i => exact h
  | receive =>
    rw [step] at h
    rcases receive_cases j.merge with ⟨hr, hm⟩ | ⟨hr, -⟩ | ⟨hr, -⟩ | ⟨hr, -⟩
    · rwa [hm] at h
    · exact hr
    · exact hr
    · exact hr
  | abandon => cases h
  | cancel => exact h
  | forward i =>
    cases hf : j.merge.forward? j.cancelled i with
    | none => rwa [step_forward_of_none hf] at h
    | some next =>
      obtain ⟨lane, -, step⟩ := forwardStep_of_forward? hf
      rw [step_forward_of_some hf] at h
      rwa [← receiver_forwardStep step]

lemma running_of_step {j : Junction} {a : Act} (h : (j.step a).cancelled = false) :
    j.cancelled = false := by
  cases a with
  | cancel => cases h
  | send | close | receive | abandon | forward => exact h

lemma alive_of_run {j : Junction} {acts : List Act} (h : (j.run acts).merge.receiver = true) :
    j.merge.receiver = true := by
  induction acts generalizing j with
  | nil => exact h
  | cons a acts ih => exact alive_of_step (ih h)

lemma running_of_run {j : Junction} {acts : List Act} (h : (j.run acts).cancelled = false) :
    j.cancelled = false := by
  induction acts generalizing j with
  | nil => exact h
  | cons a acts ih => exact running_of_step (ih h)

lemma undelivered_send (j : Junction) (i : Nat) :
    undelivered (j.step (.send i)).merge = undelivered j.merge + (j.accepts (.send i)).length := by
  simp only [step, accepts]
  cases hi : j.merge.lanes[i]? with
  | none => simp [send_of_none hi]
  | some lane =>
    rw [send_eq hi]
    have hload := undelivered_setSource hi lane.source.trySend.2
    rcases trySend_cases lane.source with ⟨-, h⟩ | ⟨-, -, h⟩ | ⟨-, -, -, h⟩ | ⟨-, -, -, h⟩ <;>
      simp only [h, reduceCtorEq, if_false, if_true, List.length_nil, List.length_singleton]
        at hload ⊢ <;>
      omega

lemma undelivered_close (j : Junction) (i : Nat) :
    undelivered (j.step (.close i)).merge = undelivered j.merge := by
  simp only [step]
  cases hi : j.merge.lanes[i]? with
  | none => rw [close_of_none hi]
  | some lane =>
    rw [close_eq hi]
    have hload : _ + lane.source.held = _ + lane.source.held :=
      undelivered_setSource hi lane.source.close
    omega

lemma undelivered_receive (j : Junction) :
    undelivered (j.step .receive).merge + j.receives .receive = undelivered j.merge := by
  simp only [step, receives]
  rcases receive_cases j.merge with ⟨-, h⟩ | ⟨-, held, h⟩ | ⟨-, -, -, h⟩ | ⟨-, -, -, h⟩
  · simp [h]
  · simp only [h, if_true, undelivered]
    omega
  · simp [h]
  · simp [h]

/-- While signals are received and nobody asks to stop, a step accounts for every signal. -/
theorem step_conserves {j : Junction} {a : Act} (running : (j.step a).cancelled = false)
    (alive : (j.step a).merge.receiver = true) :
    undelivered j.merge + (j.accepts a).length = undelivered (j.step a).merge + j.receives a := by
  cases a with
  | send i => exact (undelivered_send j i).symm
  | close i => exact (undelivered_close j i).symm
  | receive => exact (undelivered_receive j).symm
  | abandon => cases alive
  | cancel => cases running
  | forward i =>
    cases hf : j.merge.forward? j.cancelled i with
    | none =>
      rw [step_forward_of_none hf]
      rfl
    | some next =>
      obtain ⟨lane, hi, step⟩ := forwardStep_of_forward? hf
      rw [running_of_step running] at step
      rw [step_forward_of_some hf]
      exact (undelivered_forwardStep hi (alive_of_step alive) step).symm

theorem run_conserves {j : Junction} {acts : List Act} (running : (j.run acts).cancelled = false)
    (alive : (j.run acts).merge.receiver = true) :
    undelivered j.merge + (j.accepted acts).length =
      undelivered (j.run acts).merge + j.received acts := by
  induction acts generalizing j with
  | nil => rfl
  | cons a acts ih =>
    have hfirst : _ = _ := step_conserves (running_of_run running) (alive_of_run alive)
    have hrest : _ = _ := ih running alive
    simp only [accepted, received, run_cons, List.length_append]
    omega

/-- The signals on their way by the places where they are. -/
theorem undelivered_eq (m : Merge) :
    undelivered m = total (fun lane => lane.source.held) m.lanes +
      m.lanes.countP (fun lane => lane.forwarder = .holding) + m.buffered := by
  have hlanes (lanes : List Lane) : total laneLoad lanes =
      total (fun lane => lane.source.held) lanes +
        lanes.countP (fun lane => lane.forwarder = .holding) := by
    induction lanes with
    | nil => rfl
    | cons lane lanes ih =>
      simp only [total_cons, laneLoad, ih, List.countP_cons, decide_eq_true_eq]
      omega
  rw [undelivered, hlanes]

lemma undelivered_ofChannels (sources : List Channel) :
    undelivered (.ofChannels sources) = total Channel.held sources := by
  simp only [undelivered, Merge.ofChannels, total, List.foldr_map, Nat.add_zero]
  rfl

/-- What the sources accepted is received, in a source, with a forwarder or in the merged channel.
When no forwarder can go on and a receiver has to wait, all of it is received. -/
theorem signals_conserved (sources : List Channel) (listened : ∀ c ∈ sources, c.receiver = true)
    (acts : List Act) (running : ((start sources).run acts).cancelled = false)
    (alive : ((start sources).run acts).merge.receiver = true) :
    let m := ((start sources).run acts).merge
    let accepted := total Channel.held sources + ((start sources).accepted acts).length
    let received := (start sources).received acts
    accepted = received + total (fun lane => lane.source.held) m.lanes +
        m.lanes.countP (fun lane => lane.forwarder = .holding) + m.buffered ∧
      m.buffered ≤ 1 ∧
      (Quiet m false → m.receive.1 = .pending → accepted = received) := by
  intro m accepted received
  have orderly : Orderly m := orderly_start listened acts
  have conserved : undelivered (start sources).merge + _ = undelivered m + received :=
    run_conserves running alive
  have hstart : undelivered (start sources).merge = total Channel.held sources :=
    undelivered_ofChannels sources
  have hplaces := undelivered_eq m
  refine ⟨by omega, orderly.buffered, ?_⟩
  intro quiet pending
  have empty : m.buffered = 0 := by
    rcases receive_cases m with ⟨-, h⟩ | ⟨-, -, h⟩ | ⟨-, empty, -⟩ | ⟨-, empty, -⟩
    · rw [h] at pending
      cases pending
    · rw [h] at pending
      cases pending
    · exact empty
    · exact empty
  have hnone := undelivered_of_quiet orderly quiet empty
  omega

/-- One source with two signals that nobody sends to, and one without. -/
def twoSources : List Channel :=
  [{ capacity := 2, held := 2, sender := false }, { capacity := 1 }]

/-- A signal is sent, and all three are received one after the other. -/
def draining : List Act :=
  [.forward 0, .send 1, .forward 1, .forward 0, .receive, .forward 1, .forward 0, .receive,
    .forward 0, .receive, .forward 0]

theorem signals_conserved_draining :
    (∀ c ∈ twoSources, c.receiver = true) ∧
      ((start twoSources).run draining).cancelled = false ∧
      ((start twoSources).run draining).merge.receiver = true ∧
      Quiet ((start twoSources).run draining).merge false ∧
      ((start twoSources).run draining).merge.receive.1 = .pending ∧
      total Channel.held twoSources + ((start twoSources).accepted draining).length =
        (start twoSources).received draining := by
  have listened : ∀ c ∈ twoSources, c.receiver = true := by decide
  have quiet : Quiet ((start twoSources).run draining).merge false :=
    Merge.step?_eq_none_iff.mp (by decide)
  have pending : ((start twoSources).run draining).merge.receive.1 = .pending := by decide
  have conserved := signals_conserved twoSources listened draining (by decide) (by decide)
  exact ⟨listened, by decide, by decide, quiet, pending, conserved.2.2 quiet pending⟩

end Junction

end Signpost.Proofs

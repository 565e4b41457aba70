import Signpost.Proofs.Retrying

/-!
# Calls that are asked to stop

Someone may ask a call to stop at any time. No attempt begins from then on. An attempt that is going
on comes to nothing, and a call that waits ends with the fault of its last attempt. What was done
before is what the call would have done anyway.
-/

namespace Signpost.Proofs
open Docker Docker.Retry

section Stopping

variable {α : Type} {p : Policy} {op : Operation α} {stop : Option Nat} {t : Nat}

/-- What a call that is asked to stop at the time `t` ends with, by what the call that nobody stops
is doing at that time. -/
inductive EndsAt (p : Policy) (op : Operation α) (t : Nat) : Outcome α → Prop
  | unmade (before : t = 0) : EndsAt p op t ⟨.error .cancelled, 0, 0⟩
  | attempting {n : Nat} (made : n < (run p op none).attempts) (begun : begins p op n < t)
      (unfinished : t ≤ begins p op n + lasts op n) : EndsAt p op t ⟨.error .cancelled, n + 1, t⟩
  | waiting {n : Nat} {f : Fault} (again : n + 1 < (run p op none).attempts)
      (failed : (op.attempt n).result = .error f) (finished : begins p op n + lasts op n < t)
      (waits : t ≤ begins p op (n + 1)) : EndsAt p op t ⟨.error f, n + 1, t⟩
  | ended (late : (run p op none).elapsed < t) : EndsAt p op t (run p op none)

/-- How a call goes on in a phase. The clock goes on while nothing else can happen. This tells when
further attempts begin, what the call ends with and when it ends. -/
inductive Proceeds (p : Policy) (op : Operation α) (stop : Option Nat) :
    Phase α → Nat → List Nat → Except Fault α → Nat → Prop
  | stop {phase : Phase α} {now : Nat} (stopped : isStopped stop now = true) :
      Proceeds p op stop phase now [] (.error phase.stopped) now
  | answer {phase : Phase α} {now : Nat} {result : Except Fault α}
      (running : isStopped stop now = false) (due : phase.due ≤ now)
      (next : phase.next p op.again = .answer result) : Proceeds p op stop phase now [] result now
  | wait {phase later : Phase α} {now finish : Nat} {begun : List Nat} {result : Except Fault α}
      (running : isStopped stop now = false) (due : phase.due ≤ now)
      (next : phase.next p op.again = .wait later)
      (rest : Proceeds p op stop later now begun result finish) :
      Proceeds p op stop phase now begun result finish
  | attempt {phase : Phase α} {now number finish : Nat} {begun : List Nat}
      {result : Except Fault α} (running : isStopped stop now = false) (due : phase.due ≤ now)
      (next : phase.next p op.again = .attempt (number + 1))
      (rest : Proceeds p op stop (.start now (number + 1) (op.attempt number)) now begun result
        finish) : Proceeds p op stop phase now (now :: begun) result finish
  | tick {phase : Phase α} {now finish : Nat} {begun : List Nat} {result : Except Fault α}
      (running : isStopped stop now = false) (early : now < phase.due)
      (rest : Proceeds p op stop phase (now + 1) begun result finish) :
      Proceeds p op stop phase now begun result finish

/-- What a call does step by step, with the times at which its attempts begin. -/
inductive Takes (p : Policy) (op : Operation α) (stop : Option Nat) : List Nat → Outcome α → Prop
  | unmade (stopped : isStopped stop 0 = true) : Takes p op stop [] ⟨.error .cancelled, 0, 0⟩
  | made {begun : List Nat} {result : Except Fault α} {finish : Nat}
      (running : isStopped stop 0 = false)
      (course : Proceeds p op stop (.start 0 1 (op.attempt 0)) 0 begun result finish) :
      Takes p op stop (0 :: begun) ⟨result, begun.length + 1, finish⟩

/-- How many attempts have begun in a phase. -/
def phaseNumber : Phase α → Nat
  | .attempting number _ _ => number
  | .waiting number _ _ => number

def waitOutcome (p : Policy) (op : Operation α) (stop : Option Nat) (number due : Nat)
    (last : Fault) : Outcome α :=
  if isStopped stop due then ⟨.error last, number, stop.getD due⟩
  else runFrom p op stop number due

/-- What a call in a phase ends with. -/
def outcomeOf (p : Policy) (op : Operation α) (stop : Option Nat) : Phase α → Outcome α
  | .attempting number due result =>
    if isStopped stop due then ⟨.error .cancelled, number, stop.getD due⟩
    else
      match result with
      | .ok a => ⟨.ok a, number, due⟩
      | .error f =>
        if p.givesUp op.again number f then ⟨.error f, number, due⟩
        else waitOutcome p op stop number (due + waited p.interval) f
  | .waiting number due last => waitOutcome p op stop number due last

/-- A phase of a call whose attempts so far took the time that they take. -/
inductive OnTime (p : Policy) (op : Operation α) : Phase α → Prop
  | attempting (n : Nat) : OnTime p op
      (.attempting (n + 1) (begins p op n + lasts op n) (op.attempt n).result)
  | waiting (n : Nat) (last : Fault) : OnTime p op (.waiting n (begins p op n) last)

lemma onTime_start (n : Nat) :
    OnTime p op (.start (begins p op n) (n + 1) (op.attempt n)) :=
  .attempting n

lemma exists_of_isStopped {now : Nat} (stopped : isStopped stop now = true) :
    ∃ t, stop = some t ∧ t ≤ now := by
  cases stop with
  | none => cases stopped
  | some t => exact ⟨t, rfl, by simpa [isStopped] using stopped⟩

/-- Who is asked to stop for the first time now was asked at this very time. -/
lemma eq_some_of_first {now : Nat} (stopped : isStopped stop now = true)
    (running : ∀ time, time < now → isStopped stop time = false) : stop = some now := by
  obtain ⟨t, rfl, le⟩ := exists_of_isStopped stopped
  rcases le.eq_or_lt with rfl | lt
  · rfl
  · simpa [isStopped] using running t lt

lemma runFrom_eq (done now : Nat) :
    runFrom p op stop done now = outcomeOf p op stop (.start now (done + 1) (op.attempt done)) := by
  rw [runFrom]
  simp only [Phase.start, outcomeOf]
  split
  · rfl
  · cases (op.attempt done).result with
    | ok a => rfl
    | error f =>
      by_cases ends : p.givesUp op.again (done + 1) f = true
      · simp [ends]
      · simp only [ends, Bool.false_eq_true, dite_false, if_false, waitOutcome]
        split
        · rename_i stopped
          obtain ⟨t, rfl, -⟩ := exists_of_isStopped stopped
          rfl
        · rfl

/-- A phase that is over goes on as the call does. -/
lemma outcomeOf_of_due {phase : Phase α} (onTime : OnTime p op phase)
    (running : isStopped stop phase.due = false) :
    (∃ result, phase.next p op.again = .answer result ∧
        outcomeOf p op stop phase = ⟨result, phaseNumber phase, phase.due⟩) ∨
      (∃ later, phase.next p op.again = .wait later ∧ OnTime p op later ∧
        phase.due ≤ later.due ∧ phaseNumber later = phaseNumber phase ∧
        outcomeOf p op stop later = outcomeOf p op stop phase) ∨
      (phase.next p op.again = .attempt (phaseNumber phase + 1) ∧
        phase.due = begins p op (phaseNumber phase) ∧
        outcomeOf p op stop (.start phase.due (phaseNumber phase + 1)
          (op.attempt (phaseNumber phase))) = outcomeOf p op stop phase) := by
  cases onTime with
  | attempting n =>
    rw [Phase.due] at running
    cases hresult : (op.attempt n).result with
    | ok a => exact .inl ⟨.ok a, rfl, by simp [outcomeOf, running, phaseNumber, Phase.due]⟩
    | error f =>
      by_cases ends : p.givesUp op.again (n + 1) f = true
      · exact .inl ⟨.error f, by simp [Phase.next, ends],
          by simp [outcomeOf, running, phaseNumber, Phase.due, ends]⟩
      · refine .inr (.inl ⟨.waiting (n + 1) (begins p op (n + 1)) f, ?_, .waiting _ _, ?_, rfl, ?_⟩)
        · simp [Phase.next, ends, begins]
        · exact Nat.le_add_right _ _
        · simp [outcomeOf, running, ends, begins]
  | waiting n last =>
    rw [Phase.due] at running
    refine .inr (.inr ⟨rfl, rfl, ?_⟩)
    rw [phaseNumber, ← runFrom_eq, outcomeOf, waitOutcome, running]
    rfl

lemma outcomeOf_of_stopped {phase : Phase α} {now : Nat} (early : now ≤ phase.due) :
    outcomeOf p op (some now) phase = ⟨.error phase.stopped, phaseNumber phase, now⟩ := by
  have stopped : isStopped (some now) phase.due = true := by simpa [isStopped] using early
  cases phase with
  | attempting | waiting =>
    rw [Phase.due] at stopped
    simp [outcomeOf, waitOutcome, stopped, phaseNumber, Phase.stopped]

/-- However a call goes on, it ends as foreseen, and its attempts begin in due time. -/
theorem outcomeOf_of_course {phase : Phase α} {now finish : Nat} {begun : List Nat}
    {result : Except Fault α} (course : Proceeds p op stop phase now begun result finish)
    (onTime : OnTime p op phase) (early : now ≤ phase.due)
    (before : ∀ time, time < now → isStopped stop time = false) :
    outcomeOf p op stop phase = ⟨result, phaseNumber phase + begun.length, finish⟩ ∧
      begun = (List.range begun.length).map fun i => begins p op (phaseNumber phase + i) := by
  induction course with
  | stop stopped =>
    obtain rfl := eq_some_of_first stopped before
    exact ⟨outcomeOf_of_stopped early, rfl⟩
  | answer running due next =>
    obtain rfl := Nat.le_antisymm early due
    rcases outcomeOf_of_due onTime running with ⟨r, hr, ends⟩ | ⟨_, hw, -⟩ | ⟨ha, -⟩
    · obtain rfl : r = _ := by simpa [hr] using next
      exact ⟨ends, rfl⟩
    · simp [hw] at next
    · simp [ha] at next
  | wait running due next _ ih =>
    obtain rfl := Nat.le_antisymm early due
    rcases outcomeOf_of_due onTime running with
      ⟨_, hr, -⟩ | ⟨w, hw, onTimeLater, le, number, same⟩ | ⟨ha, -⟩
    · simp [hr] at next
    · obtain rfl : w = _ := by simpa [hw] using next
      rw [← same, ← number]
      exact ih onTimeLater le before
    · simp [ha] at next
  | @attempt phase now number finish begun result running due next _ ih =>
    obtain rfl := Nat.le_antisymm early due
    rcases outcomeOf_of_due onTime running with ⟨_, hr, -⟩ | ⟨_, hw, -⟩ | ⟨ha, begin, same⟩
    · simp [hr] at next
    · simp [hw] at next
    · obtain rfl : phaseNumber phase = number := by simpa [ha] using next
      obtain ⟨ends, times⟩ := ih (begin ▸ onTime_start _) (Nat.le_add_right _ _) before
      refine ⟨?_, ?_⟩
      · rw [← same, ends, List.length_cons, Phase.start, phaseNumber, Nat.add_assoc,
          Nat.add_comm 1]
      · rw [List.length_cons, List.range_succ_eq_map, List.map_cons, List.map_map, Nat.add_zero,
          ← begin]
        congr 1
        rw [times]
        simp [Function.comp_def, Phase.start, phaseNumber, Nat.add_assoc, Nat.add_comm 1]
  | tick running lt _ ih =>
    refine ih onTime lt fun time lt => ?_
    rcases Nat.lt_succ_iff_lt_or_eq.mp lt with lt | rfl
    · exact before time lt
    · exact running

/-- Time passes in a phase until it is over or someone asks to stop. -/
lemma course_of_later {phase : Phase α} {now later finish : Nat} {begun : List Nat}
    {result : Except Fault α} (le : now ≤ later) (early : later ≤ phase.due)
    (running : ∀ time, now ≤ time → time < later → isStopped stop time = false)
    (course : Proceeds p op stop phase later begun result finish) :
    Proceeds p op stop phase now begun result finish := by
  induction hleft : later - now generalizing now with
  | zero =>
    obtain rfl : now = later := by omega
    exact course
  | succ left ih =>
    have lt : now < later := by omega
    refine .tick (running now (Nat.le_refl _) lt) (Nat.lt_of_lt_of_le lt early) ?_
    exact ih lt (fun time above => running time (Nat.le_of_succ_le above)) (by omega)

/-- Every call comes to its end. -/
theorem exists_course (stop : Option Nat) {phase : Phase α} {now : Nat}
    (onTime : OnTime p op phase) (early : now ≤ phase.due) :
    ∃ begun result finish, Proceeds p op stop phase now begun result finish := by
  -- induction on the phases that are left
  induction hwork : phase.work p.attempts.toNat using Nat.strongRecOn generalizing phase now with
  | ind work ih =>
    by_cases stopped : isStopped stop phase.due = true
    · obtain ⟨t, rfl, le⟩ := exists_of_isStopped stopped
      refine ⟨[], _, max now t, course_of_later (Nat.le_max_left _ _) (Nat.max_le.mpr ⟨early, le⟩)
        ?_ (.stop ?_)⟩
      · intro time above below
        simp only [isStopped, Option.any_some, decide_eq_false_iff_not]
        omega
      · simp [isStopped]
    · have running : isStopped stop phase.due = false := by simpa using stopped
      have passes {begun : List Nat} {result : Except Fault α} {finish : Nat}
          (course : Proceeds p op stop phase phase.due begun result finish) :
          ∃ begun result finish, Proceeds p op stop phase now begun result finish :=
        ⟨_, _, _, course_of_later early (Nat.le_refl _)
          (fun _ _ lt => isStopped_of_le (Nat.le_of_lt lt) running) course⟩
      rcases outcomeOf_of_due onTime running with ⟨r, hr, -⟩ | ⟨later, hw, onTimeLater, le, -⟩ |
        ⟨ha, begin, -⟩
      · exact passes (.answer running (Nat.le_refl _) hr)
      · have less := Phase.work_wait_lt hw
        obtain ⟨_, _, _, course⟩ := ih _ (hwork ▸ less) onTimeLater le rfl
        exact passes (.wait running (Nat.le_refl _) hw course)
      · have less := Phase.work_attempt_lt ha phase.due (op.attempt (phaseNumber phase))
        obtain ⟨_, _, _, course⟩ :=
          ih _ (hwork ▸ less) (begin ▸ onTime_start _) (Nat.le_add_right _ _) rfl
        exact passes (.attempt running (Nat.le_refl _) ha course)

/-- The times at which the first attempts of a call begin. -/
def beginnings (p : Policy) (op : Operation α) (attempts : Nat) : List Nat :=
  (List.range attempts).map (begins p op)

lemma eq_of_takes {begun : List Nat} {out : Outcome α} (takes : Takes p op stop begun out) :
    out = runUntil p op stop ∧ begun = beginnings p op out.attempts := by
  cases takes with
  | unmade stopped => exact ⟨by rw [runUntil, if_pos stopped], rfl⟩
  | @made begun result finish running course =>
    obtain ⟨ends, times⟩ := outcomeOf_of_course course (onTime_start 0) (Nat.zero_le _) nofun
    refine ⟨?_, ?_⟩
    · rw [runUntil, running, if_neg Bool.false_ne_true, runFrom_eq, ends, Phase.start, phaseNumber,
        Nat.add_comm 1]
    · rw [beginnings, List.range_succ_eq_map, List.map_cons, List.map_map, begins]
      congr 1
      rw [times]
      simp [Function.comp_def, Phase.start, phaseNumber, Nat.add_comm 1]

/-- Taken step by step, a call does what it is said to do. -/
theorem takes_iff {begun : List Nat} {out : Outcome α} :
    Takes p op stop begun out ↔
      out = runUntil p op stop ∧ begun = beginnings p op out.attempts := by
  refine ⟨eq_of_takes, ?_⟩
  have exists_takes : ∃ begun out, Takes p op stop begun out := by
    by_cases stopped : isStopped stop 0 = true
    · exact ⟨_, _, .unmade stopped⟩
    · have onTime : OnTime p op (.start 0 1 (op.attempt 0)) := onTime_start 0
      obtain ⟨_, _, _, course⟩ := exists_course stop onTime (Nat.zero_le _)
      exact ⟨_, _, .made (by simpa using stopped) course⟩
  obtain ⟨others, other, takes⟩ := exists_takes
  obtain ⟨ends, times⟩ := eq_of_takes takes
  rintro ⟨rfl, rfl⟩
  rwa [times, ends] at takes

/-- A call that nobody stops ends with its first final attempt. -/
lemma exists_free_run (p : Policy) (op : Operation α) :
    ∃ n, run p op none = ⟨(op.attempt n).result, n + 1, begins p op n + lasts op n⟩ ∧
      Final p op (n + 1) ∧ ∀ k, k ≤ n → ¬Final p op k := by
  obtain ⟨n, ⟨final, least⟩, -⟩ := exists_first_final p op
  have more (k : Nat) (le : k ≤ n) : ¬Final p op k := fun h => by
    have := least h
    omega
  have unstopped : run p op none = runFrom p op none 0 0 := rfl
  exact ⟨n, by rw [unstopped, runFrom_of_none_final more rfl, runFrom_of_final final rfl], final,
    more⟩

lemma isStopped_of_lt {now : Nat} (lt : now < t) : isStopped (some t) now = false := by
  simpa [isStopped] using lt

lemma runUntil_of_lt {n : Nat} (more : ∀ k, k ≤ n → ¬Final p op k) (begun : begins p op n < t) :
    runUntil p op (some t) = runFrom p op (some t) n (begins p op n) := by
  have later : isStopped (some t) 0 = false := isStopped_of_lt (Nat.zero_lt_of_lt begun)
  rw [runUntil, later, if_neg Bool.false_ne_true,
    runFrom_of_none_final more (isStopped_of_lt begun)]

lemma runFrom_of_stopped_attempt {n now : Nat} (unfinished : t ≤ now + lasts op n) :
    runFrom p op (some t) n now = ⟨.error .cancelled, n + 1, t⟩ := by
  rw [runFrom_eq, Phase.start, outcomeOf_of_stopped unfinished]
  rfl

lemma runFrom_of_stopped_wait {n now : Nat} {f : Fault} (more : ¬Final p op (n + 1))
    (failed : (op.attempt n).result = .error f) (finished : now + lasts op n < t)
    (waits : t ≤ now + lasts op n + waited p.interval) :
    runFrom p op (some t) n now = ⟨.error f, n + 1, t⟩ := by
  have again : p.givesUp op.again (n + 1) f = false := by
    rw [final_iff] at more
    simpa [failed] using more
  have running := isStopped_of_lt finished
  have stopped : isStopped (some t) (now + lasts op n + waited p.interval) = true := by
    simpa [isStopped] using waits
  rw [lasts] at running stopped
  rw [runFrom_eq]
  simp only [Phase.start, outcomeOf, running, failed, again, waitOutcome, stopped,
    Bool.false_eq_true, if_false, if_true, Option.getD_some]

lemma eq_of_endsAt {out : Outcome α} (ends : EndsAt p op t out) :
    out = runUntil p op (some t) := by
  obtain ⟨last, free, final, more⟩ := exists_free_run p op
  cases ends with
  | unmade before =>
    subst before
    rfl
  | attempting made begun unfinished =>
    rw [free] at made
    rw [runUntil_of_lt (fun k le => more k (by dsimp only at made; omega)) begun,
      runFrom_of_stopped_attempt unfinished]
  | @waiting n f again failed finished waits =>
    rw [free] at again
    dsimp only at again
    rw [runUntil_of_lt (n := n) (fun k le => more k (by omega)) (by omega),
      runFrom_of_stopped_wait (more (n + 1) (by omega)) failed finished waits]
  | ended late =>
    rw [free] at late ⊢
    dsimp only at late
    rw [runUntil_of_lt more (by omega), runFrom_of_final final (isStopped_of_lt late)]

/-- The last one of some attempts that begins before a time. -/
lemma exists_last_begun (p : Policy) (op : Operation α) (pos : 0 < t) (last : Nat) :
    ∃ n, begins p op n < t ∧ (n = last ∨ n < last ∧ t ≤ begins p op (n + 1)) := by
  induction last with
  | zero => exact ⟨0, pos, .inl rfl⟩
  | succ last ih =>
    obtain ⟨n, begun, rfl | ⟨lt, next⟩⟩ := ih
    · by_cases further : begins p op (n + 1) < t
      · exact ⟨n + 1, further, .inl rfl⟩
      · exact ⟨n, begun, .inr ⟨Nat.lt_succ_self n, Nat.le_of_not_lt further⟩⟩
    · exact ⟨n, begun, .inr ⟨Nat.lt_succ_of_lt lt, next⟩⟩

/-- At any time a call has not begun, is in an attempt or in a wait, or has ended. -/
lemma exists_endsAt (p : Policy) (op : Operation α) (t : Nat) : ∃ out, EndsAt p op t out := by
  obtain ⟨last, free, -, more⟩ := exists_free_run p op
  rcases Nat.eq_zero_or_pos t with rfl | pos
  · exact ⟨_, .unmade rfl⟩
  · obtain ⟨n, begun, next⟩ := exists_last_begun p op pos last
    by_cases unfinished : t ≤ begins p op n + lasts op n
    · exact ⟨_, .attempting (by rw [free]; dsimp only; omega) begun unfinished⟩
    · have finished := Nat.lt_of_not_le unfinished
      rcases next with rfl | ⟨lt, waits⟩
      · exact ⟨_, .ended (by rw [free]; exact finished)⟩
      · have goesOn := more (n + 1) lt
        simp only [final_iff, not_forall] at goesOn
        obtain ⟨f, failed, -⟩ := goesOn
        exact ⟨_, .waiting (by rw [free]; dsimp only; omega) failed finished waits⟩

theorem endsAt_iff {out : Outcome α} : EndsAt p op t out ↔ out = runUntil p op (some t) := by
  refine ⟨eq_of_endsAt, ?_⟩
  rintro rfl
  obtain ⟨out, ends⟩ := exists_endsAt p op t
  rwa [eq_of_endsAt ends] at ends

lemma begins_mono {n m : Nat} (le : n ≤ m) : begins p op n ≤ begins p op m := by
  induction le with
  | refl => exact Nat.le_refl _
  | step _ ih =>
    rw [begins]
    omega

/-- The attempts that a stopped call makes are first attempts of the call that nobody stops, and
they begin before it is asked to stop. -/
lemma attempts_of_endsAt {out : Outcome α} (ends : EndsAt p op t out) :
    out.attempts ≤ (run p op none).attempts ∧ ∀ n, n < out.attempts → begins p op n < t := by
  cases ends with
  | unmade => exact ⟨Nat.zero_le _, nofun⟩
  | @attempting n made begun =>
    refine ⟨made, fun k lt => Nat.lt_of_le_of_lt (begins_mono (Nat.le_of_lt_succ lt)) begun⟩
  | @waiting n _ again _ finished =>
    refine ⟨Nat.le_of_lt again, fun k lt => ?_⟩
    have order : begins p op k ≤ begins p op n := begins_mono (Nat.le_of_lt_succ lt)
    omega
  | ended late =>
    obtain ⟨last, free, -⟩ := exists_free_run p op
    refine ⟨Nat.le_refl _, fun k lt => ?_⟩
    rw [free] at lt late
    have order : begins p op k ≤ begins p op last := begins_mono (Nat.le_of_lt_succ lt)
    dsimp only at late
    omega

/-- What a request to stop at the time `t` does to a call. -/
structure StopsAtOnce (p : Policy) (op : Operation α) (t : Nat) : Prop where
  /-- What the call ends with, and when, depends on what it would be doing at that time. -/
  outcome : ∀ out, EndsAt p op t out ↔ out = runUntil p op (some t)
  /-- Whoever waits before asking waits as long as anybody can. -/
  delayed : ∀ wait, run p op (some wait) = runUntil p op (some (waited wait))
  /-- Step by step the call does the same, stopped or not, and makes as many attempts. -/
  steps : ∀ stop begun out, Takes p op stop begun out ↔
    out = runUntil p op stop ∧ begun = beginnings p op out.attempts
  /-- The attempts of the stopped call are the first ones of the call that nobody stops. -/
  earlier : ∀ begun out all free, Takes p op (some t) begun out → Takes p op none all free →
    free = run p op none ∧ begun <+: all
  /-- No attempt begins once the call is asked to stop. -/
  unbegun : ∀ begun out, Takes p op (some t) begun out → ∀ time ∈ begun, time < t
  /-- A fault after which the call waits is not that of a stopped call. -/
  genuine : op.again .cancelled = false → ∀ n, n + 1 < (run p op none).attempts →
    (op.attempt n).result ≠ .error .cancelled

/-- A call can be asked to stop at any time. In an attempt it ends at once and the attempt comes to
nothing, in a wait it ends at once with the fault of the last attempt. A request that comes when the
call has ended changes nothing, and all that was done before a request is what would have been done
without it. -/
theorem calls_stop_at_once (p : Policy) (op : Operation α) (t : Nat) : StopsAtOnce p op t where
  outcome _ := endsAt_iff
  delayed _ := rfl
  steps _ _ _ := takes_iff
  earlier begun out all free stopped unstopped := by
    obtain ⟨rfl, rfl⟩ := takes_iff.mp stopped
    obtain ⟨rfl, rfl⟩ := takes_iff.mp unstopped
    have same : runUntil p op none = run p op none := rfl
    obtain ⟨le, -⟩ := attempts_of_endsAt (endsAt_iff.mpr (rfl : runUntil p op (some t) = _))
    obtain ⟨more, sum⟩ := Nat.exists_eq_add_of_le le
    refine ⟨same, ?_⟩
    rw [beginnings, beginnings, same, sum, List.range_add, List.map_append]
    exact List.prefix_append _ _
  unbegun begun out stopped time mem := by
    obtain ⟨rfl, rfl⟩ := takes_iff.mp stopped
    obtain ⟨-, early⟩ := attempts_of_endsAt (endsAt_iff.mpr (rfl : runUntil p op (some t) = _))
    obtain ⟨n, lt, rfl⟩ := List.mem_map.mp mem
    exact early n (List.mem_range.mp lt)
  genuine refuses n again failed := by
    obtain ⟨last, free, -, more⟩ := exists_free_run p op
    rw [free] at again
    exact more (n + 1) (Nat.lt_of_succ_lt_succ again) (.rejected failed refuses)

end Stopping

/-- The request comes at the very end of the second wait. -/
theorem calls_stop_at_once_endOfWait :
    let p : Policy := ⟨5, 10⟩
    let out : Outcome Unit := ⟨.error (.list (.response 503 "unavailable") "list"), 2, 27⟩
    runUntil p blamedThird (some 27) = out ∧ Takes p blamedThird (some 27) [0, 17] out ∧
      (blamedThird.attempt 1).result ≠ .error .cancelled := by
  intro p out
  have stops := calls_stop_at_once p blamedThird 27
  have three : (run p blamedThird none).attempts = 3 := by
    simp [run, runUntil, runFrom, p, blamedThird, isStopped, Policy.givesUp, Fault.isRetryable,
      Fault.ofDaemon]
  have again : 1 + 1 < (run p blamedThird none).attempts := by omega
  have ends : out = runUntil p blamedThird (some 27) :=
    (stops.outcome out).mp (.waiting (n := 1) again rfl (by decide) (by decide))
  exact ⟨ends.symm, (stops.steps _ _ _).mpr ⟨ends, by decide⟩, stops.genuine rfl 1 again⟩

end Signpost.Proofs

import Signpost.Proofs.Course

/-!
# What a call comes to

A call to a daemon that is under way has made some attempts and may make more. As long as the daemon
keeps to its answers, its end is settled when it begins: it answers what the provider would have
answered to a call that takes no time.
-/

namespace Signpost.Proofs
open Docker Docker.Retry

/-- Without a request to stop, the result depends on the results of the attempts that are left, and
not on the time. -/
theorem runFrom_congr {α : Type} {p : Policy} {first second : Operation α} {done : Nat}
    (again : first.again = second.again)
    (agree : ∀ n, done ≤ n → (first.attempt n).result = (second.attempt n).result)
    (now later : Nat) :
    (runFrom p first none done now).result = (runFrom p second none done later).result := by
  induction hleft : p.attempts.toNat - done using Nat.strongRecOn
    generalizing done now later with
  | ind left ih =>
    rw [runFrom, runFrom]
    simp only [isStopped, Option.any_none, Bool.false_eq_true, if_false, again,
      agree done (Nat.le_refl _)]
    cases hresult : (second.attempt done).result with
    | ok a => rfl
    | error f =>
      by_cases ends : p.givesUp second.again (done + 1) f = true
      · simp [ends]
      · simp only [ends, Bool.false_eq_true, dite_false]
        apply ih (p.attempts.toNat - (done + 1)) ?_ ?_ _ _ rfl
        · simp only [Policy.givesUp, Bool.or_eq_true, decide_eq_true_eq, not_or] at ends
          omega
        · intro n hn
          exact agree n (Nat.le_of_succ_le hn)

/-- What a call comes to after `done` attempts if nothing stops it. -/
def comesTo {α : Type} (p : Policy) (op : Operation α) (done : Nat) : Except Fault α :=
  (runFrom p op none done 0).result

lemma comesTo_eq {α : Type} (p : Policy) (op : Operation α) (done : Nat) :
    comesTo p op done =
      match (op.attempt done).result with
      | .ok a => .ok a
      | .error f =>
        if p.givesUp op.again (done + 1) f then .error f else comesTo p op (done + 1) := by
  rw [comesTo, runFrom]
  simp only [isStopped, Option.any_none, Bool.false_eq_true, if_false]
  cases hresult : (op.attempt done).result with
  | ok a => rfl
  | error f =>
    by_cases ends : p.givesUp op.again (done + 1) f = true
    · simp [ends]
    · simp only [ends, Bool.false_eq_true, dite_false, if_false]
      exact runFrom_congr rfl (fun _ _ => rfl) _ _

/-- The attempts that a daemon answers next in a call that has made some. -/
def remaining (d : Daemon) (number : Nat) : Operation (List Container) :=
  { attempt := fun n => d.list (d.asked + (n - number)) }

/-- What a call in some phase comes to. -/
def phaseResult (p : Policy) (d : Daemon) : Phase (List Container) → Except Fault (List Container)
  | .attempting _ _ (.ok containers) => .ok containers
  | .attempting number _ (.error f) =>
    if p.givesUp Fault.isRetryable number f then .error f
    else comesTo p (remaining d number) number
  | .waiting number _ _ => comesTo p (remaining d number) number

lemma comesTo_ask (p : Policy) (d : Daemon) (now number : Nat) :
    phaseResult p d.ask.2 (.start now (number + 1) d.ask.1) =
      comesTo p (remaining d number) number := by
  have later : comesTo p (remaining d number) (number + 1) =
      comesTo p (remaining d.ask.2 (number + 1)) (number + 1) := by
    unfold comesTo
    refine runFrom_congr ?_ ?_ 0 0
    · rfl
    · intro n hn
      have index : d.asked + (n - number) = d.asked + 1 + (n - (number + 1)) := by omega
      simp only [remaining, Daemon.ask, index]
      rfl
  rw [comesTo_eq, later]
  simp only [Phase.start, Daemon.ask, remaining, Nat.sub_self, Nat.add_zero]
  cases hresult : (d.list d.asked).result <;> rfl

lemma rules_eq (settings : Settings.Docker) (d : Daemon) :
    (d.rules settings none).result =
      Docker.rules settings <$> comesTo (.ofSettings settings.retrying) (remaining d 0) 0 := rfl

/-- The rules of containers, or why there are none. -/
def dockerAnswer (settings : Settings.Docker) (result : Except Fault (List Container)) :
    Except Source.Fault (List Rule) :=
  (Docker.rules settings <$> result).mapError .docker

/-- What a call that is under way will answer if its provider keeps to its answers. -/
def willAnswer (stopped : Bool) : Provider → Call → Except Source.Fault (List Rule)
  | _, .ready _ answer => answer
  | .docker settings d, .asking phase =>
    if stopped then .error (.docker phase.stopped)
    else dockerAnswer settings (phaseResult (.ofSettings settings.retrying) d phase)
  | _, .asking phase => .error (.docker phase.stopped)

lemma willAnswer_ready (stopped : Bool) (p : Provider) (due : Nat)
    (answer : Except Source.Fault (List Rule)) :
    willAnswer stopped p (.ready due answer) = answer := by
  cases p <;> rfl

theorem willAnswer_call (s : Service) (p : Provider) :
    willAnswer s.stopsCalls (p.call s.now s.files s.stopsCalls).1
      (p.call s.now s.files s.stopsCalls).2 = answerOf s p := by
  cases p with
  | told | static | file => rfl
  | docker settings d =>
    cases stopped : s.stopsCalls with
    | true => simp [Provider.call, willAnswer, answerOf, stopped]
    | false =>
      simp only [Provider.call, Bool.false_eq_true, if_false, Provider.ask, willAnswer, answerOf,
        stopped, Provider.list, rules_eq, dockerAnswer]
      rw [← comesTo_ask _ d s.now 0]

/-- What follows a phase that is over. -/
theorem phase_next (p : Policy) (phase : Phase (List Container)) (d : Daemon) :
    (phase.next p Fault.isRetryable = .answer (phaseResult p d phase)) ∨
    (∃ later, phase.next p Fault.isRetryable = .wait later ∧
      phaseResult p d later = phaseResult p d phase) ∨
    (∃ number, phase.next p Fault.isRetryable = .attempt (number + 1) ∧
      comesTo p (remaining d number) number = phaseResult p d phase) := by
  cases phase with
  | waiting number due last => exact .inr (.inr ⟨number, rfl, rfl⟩)
  | attempting number due result =>
    cases result with
    | ok containers => exact .inl rfl
    | error f =>
      by_cases ends : p.givesUp Fault.isRetryable number f = true
      · exact .inl (by simp [Phase.next, phaseResult, ends])
      · refine .inr (.inl ⟨.waiting number (due + waited p.interval) f, ?_, ?_⟩)
        · simp [Phase.next, ends]
        · simp [phaseResult, ends]

/-- How a call goes on agrees with what it will answer. -/
theorem willAnswer_proceed? {now : Nat} {stopped : Bool} {p : Provider} {call : Call}
    {onward : Call.Next} (h : p.proceed? now stopped call = some onward) :
    (∃ rules, onward = .answer rules ∧ rules = willAnswer stopped p call) ∨
    (∃ q later, onward = .wait q later ∧ q.origin = p.origin ∧
      willAnswer stopped q later = willAnswer stopped p call) := by
  unfold Provider.proceed? at h
  cases call with
  | ready due answer =>
    by_cases hdue : due ≤ now
    · obtain rfl : Call.Next.answer answer = onward := by simpa [hdue] using h
      exact .inl ⟨answer, rfl, rfl⟩
    · simp [hdue] at h
  | asking phase =>
    cases stopped with
    | true =>
      obtain rfl : Call.Next.answer (.error (.docker phase.stopped)) = onward := by simpa using h
      refine .inl ⟨_, rfl, ?_⟩
      cases p <;> rfl
    | false =>
      by_cases hdue : phase.due ≤ now
      · cases p with
        | told | static | file => simp [hdue] at h
        | docker settings d =>
          obtain rfl : Provider.next settings d now phase = onward := by simpa [hdue] using h
          simp only [Provider.next, willAnswer, Bool.false_eq_true, if_false]
          rcases phase_next (.ofSettings settings.retrying) phase d with hn | ⟨later, hn, hsame⟩ |
            ⟨number, hn, hsame⟩
          · rw [hn]
            refine .inl ⟨dockerAnswer settings _, ?_, rfl⟩
            cases phaseResult (.ofSettings settings.retrying) d phase <;> rfl
          · rw [hn]
            exact .inr ⟨_, _, rfl, rfl, congrArg (dockerAnswer settings) hsame⟩
          · rw [hn]
            refine .inr ⟨_, _, rfl, rfl, ?_⟩
            rw [← hsame, ← comesTo_ask _ d now number]
            rfl
      · simp [hdue] at h

lemma willAnswer_resubscribed {p q : Provider} (h : Resubscribed p q) (stopped : Bool)
    (call : Call) : willAnswer stopped q call = willAnswer stopped p call := by
  cases h with
  | same => rfl
  | again settings d => cases call <;> rfl

end Signpost.Proofs

import Signpost.Clockwork
import Signpost.Docker.Fault
import Signpost.Settings.Basic

/-!
# Retrying

A call that fails may be made again after a while, a limited number of times. A request to stop ends
the attempt or the wait that is going on. Times are milliseconds. The only clock that a call itself
sets is for the wait between two attempts: how long an attempt lasts and when the request comes is
up to others.
-/

namespace Signpost.Docker

/-- How often a call is made at most, and the time between an attempt and the next one. The first
attempt is made even if none is allowed. -/
structure Policy where
  attempts : UInt32 := 3
  interval : Nat := 2000
  deriving DecidableEq, Repr

namespace Policy

def ofSettings (r : Settings.Retrying) : Policy :=
  ⟨r.attempts, 1000 * r.interval.toNat⟩

/-- Whether a fault of the attempt with the given number, counted from one, is the end. -/
def givesUp (p : Policy) (again : Fault → Bool) (number : Nat) (f : Fault) : Bool :=
  decide (p.attempts.toNat ≤ number) || !again f

end Policy

/-- How an attempt ends if nothing stops it. -/
structure Attempt (α : Type) where
  /-- The time that the attempt asks of the clock. -/
  takes : Nat := 0
  result : Except Fault α

/-- How long an attempt lasts: the time that it asks of the clock, which waits no longer than
`longestWait`. -/
def Attempt.lasts {α : Type} (a : Attempt α) : Nat :=
  waited a.takes

/-- What is attempted. -/
structure Operation (α : Type) where
  /-- The attempts in order, counted from zero. -/
  attempt : Nat → Attempt α
  /-- The faults after which another attempt may help. -/
  again : Fault → Bool := Fault.isRetryable

/-- How a call has ended, after how many attempts and how much time. -/
structure Outcome (α : Type) where
  result : Except Fault α
  attempts : Nat
  elapsed : Nat

namespace Retry

/-- Whether a request to stop is there at a time. -/
def isStopped (stop : Option Nat) (time : Nat) : Bool :=
  stop.any fun t => decide (t ≤ time)

/-- Goes on at the time `now`, after `done` attempts, up to the time of the request to stop. -/
def runFrom {α : Type} (p : Policy) (op : Operation α) (stop : Option Nat) (done now : Nat) :
    Outcome α :=
  let finish := now + (op.attempt done).lasts
  if isStopped stop finish then ⟨.error .cancelled, done + 1, stop.getD finish⟩
  else
    match (op.attempt done).result with
    | .ok a => ⟨.ok a, done + 1, finish⟩
    | .error f =>
      if h : p.givesUp op.again (done + 1) f then ⟨.error f, done + 1, finish⟩
      else
        let again := finish + waited p.interval
        if isStopped stop again then ⟨.error f, done + 1, stop.getD finish⟩
        else runFrom p op stop (done + 1) again
termination_by p.attempts.toNat - done
decreasing_by
  simp only [Policy.givesUp, Bool.or_eq_true, decide_eq_true_eq, not_or] at h
  omega

/-- Makes a call at the time zero that is asked to stop at a time, if at all. -/
def runUntil {α : Type} (p : Policy) (op : Operation α) (stop : Option Nat) : Outcome α :=
  if isStopped stop 0 then ⟨.error .cancelled, 0, 0⟩ else runFrom p op stop 0 0

/-- Makes a call at the time zero. Someone else sets a clock and asks it to stop when that wait is
over, if at all. -/
def run {α : Type} (p : Policy) (op : Operation α) (wait : Option Nat) : Outcome α :=
  runUntil p op (wait.map waited)

/-- What a call is doing after `number` attempts have begun. -/
inductive Phase (α : Type)
  | attempting (number due : Nat) (result : Except Fault α)
  | waiting (number due : Nat) (last : Fault)

namespace Phase

variable {α : Type}

/-- When the phase ends if nothing stops it. -/
def due : Phase α → Nat
  | attempting _ due _ => due
  | waiting _ due _ => due

/-- What a call ends with if it is stopped in the phase. -/
def stopped : Phase α → Fault
  | attempting _ _ _ => .cancelled
  | waiting _ _ last => last

/-- Begins the attempt with a number. -/
def start (now number : Nat) (a : Attempt α) : Phase α :=
  attempting number (now + a.lasts) a.result

end Phase

/-- What follows a phase: an answer, a wait, or the attempt with a number. -/
inductive Next (α : Type)
  | answer (result : Except Fault α)
  | wait (phase : Phase α)
  | attempt (number : Nat)

/-- What follows a phase that has come to its end. -/
def Phase.next {α : Type} (p : Policy) (again : Fault → Bool) : Phase α → Next α
  | attempting _ _ (.ok a) => .answer (.ok a)
  | attempting number due (.error f) =>
    if p.givesUp again number f then .answer (.error f)
    else .wait (.waiting number (due + waited p.interval) f)
  | waiting number _ _ => .attempt (number + 1)

namespace Phase

variable {α : Type}

/-- How many phases are left at most, this one too, if so many attempts are allowed. -/
def work (attempts : Nat) : Phase α → Nat
  | attempting number _ _ => 2 * (attempts - number) + 1
  | waiting number _ _ => max 2 (2 * (attempts - number))

theorem work_pos (attempts : Nat) (phase : Phase α) : 0 < phase.work attempts := by
  cases phase <;> simp only [work] <;> omega

theorem work_wait_lt {p : Policy} {again : Fault → Bool} {phase later : Phase α}
    (h : phase.next p again = .wait later) :
    later.work p.attempts.toNat < phase.work p.attempts.toNat := by
  unfold next at h
  split at h
  · simp at h
  · split at h
    · simp at h
    · rename_i goesOn
      obtain rfl : _ = later := by simpa using h
      simp only [Policy.givesUp, Bool.or_eq_true, decide_eq_true_eq, not_or] at goesOn
      simp only [work]
      omega
  · simp at h

theorem work_attempt_lt {p : Policy} {again : Fault → Bool} {phase : Phase α} {number : Nat}
    (h : phase.next p again = .attempt number) (now : Nat) (a : Attempt α) :
    (start now number a).work p.attempts.toNat < phase.work p.attempts.toNat := by
  unfold next at h
  split at h
  · simp at h
  · split at h <;> simp at h
  · obtain rfl : _ = number := by simpa using h
    simp only [start, work]
    omega

end Phase

end Retry

end Signpost.Docker

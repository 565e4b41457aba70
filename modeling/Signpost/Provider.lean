import Signpost.Docker.Daemon
import Signpost.Source.File
import Signpost.Source.Line
import Signpost.Table

/-!
# Providers

A provider lists rules. A call for its rules takes some time, and a rules file or the daemon is
asked anew by each call.
-/

namespace Signpost

/-- A provider that answers what it is told to. -/
structure Told where
  origin : Origin
  answer : Except Source.Fault (List Rule)
  /-- The time that a call asks of the clock. -/
  takes : Nat := 0
  /-- The room of its channel of signals. -/
  capacity : Nat := 1
  /-- The signals that are there from the beginning. -/
  initial : Nat := 1

/-- How long a call lasts. -/
def Told.lasts (t : Told) : Nat :=
  waited t.takes

inductive Provider
  | told (t : Told)
  | static (lines : List String)
  | file (path : Text.Bytes)
  | docker (s : Settings.Docker) (d : Docker.Daemon)

/-- A call for the rules that is under way. -/
inductive Call
  | ready (due : Nat) (answer : Except Source.Fault (List Rule))
  | asking (phase : Docker.Retry.Phase (List Docker.Container))

/-- When a call goes on by itself. -/
def Call.due : Call → Nat
  | ready due _ => due
  | asking phase => phase.due

/-- How a call goes on. -/
inductive Call.Next
  | wait (provider : Provider) (call : Call)
  | answer (rules : Except Source.Fault (List Rule))

namespace Provider

def origin : Provider → Origin
  | told t => t.origin
  | static _ => .static
  | file _ => .file
  | docker _ _ => .docker

/-- What a call for the rules answers if it is let. -/
def list (files : Files.Tree) : Provider → Except Source.Fault (List Rule)
  | told t => t.answer
  | static lines => Source.Line.readAll lines
  | file path => Source.RulesFile.list files path
  | docker s d => (d.rules s none).result.mapError .docker

/-- Asks the daemon for its containers. -/
def ask (s : Settings.Docker) (d : Docker.Daemon) (now number : Nat) : Provider × Call :=
  let (attempt, d) := d.ask
  (docker s d, .asking (.start now number attempt))

/-- Begins a call for the rules at the time `now`. The daemon is not asked if the calls to it are
`stopped`. -/
def call (now : Nat) (files : Files.Tree) (stopped : Bool) : Provider → Provider × Call
  | told t => (told t, .ready (now + t.lasts) t.answer)
  | static lines => (static lines, .ready now ((static lines).list files))
  | file path => (file path, .ready now ((file path).list files))
  | docker s d =>
    if stopped then (docker s d, .ready now (.error (.docker .cancelled))) else ask s d now 1

/-- How a call to the daemon goes on when its phase is over. -/
def next (s : Settings.Docker) (d : Docker.Daemon) (now : Nat)
    (phase : Docker.Retry.Phase (List Docker.Container)) : Call.Next :=
  match phase.next (.ofSettings s.retrying) Docker.Fault.isRetryable with
  | .answer (.ok containers) => .answer (.ok (Docker.rules s containers))
  | .answer (.error f) => .answer (.error (.docker f))
  | .wait phase => .wait (docker s d) (.asking phase)
  | .attempt number =>
    let (provider, call) := ask s d now number
    .wait provider call

/-- How a call goes on at the time `now`, if it can. -/
def proceed? (now : Nat) (stopped : Bool) (p : Provider) : Call → Option Call.Next
  | .ready due answer => if due ≤ now then some (.answer answer) else none
  | .asking phase =>
    if stopped then some (.answer (.error (.docker phase.stopped)))
    else if phase.due ≤ now then
      match p with
      | docker s d => some (next s d now phase)
      | _ => none
    else none

/-- How many items the streams of the provider have. -/
def size : Provider → Nat
  | docker _ d => d.size
  | _ => 0

/-- How often a call is made at most to the daemon. -/
def attempts : Provider → Nat
  | docker s _ => s.retrying.attempts.toNat
  | _ => 0

/-- Whether two providers are of one size and make calls as often. -/
structure Alike (p q : Provider) : Prop where
  size : q.size = p.size
  attempts : q.attempts = p.attempts

end Provider

/-- How many steps a call can take at most, if so many attempts are allowed. -/
def Call.work (attempts : Nat) : Call → Nat
  | ready _ _ => 1
  | asking phase => phase.work attempts

theorem Call.work_pos (attempts : Nat) (c : Call) : 0 < c.work attempts := by
  cases c with
  | ready due answer => exact Nat.one_pos
  | asking phase => exact phase.work_pos attempts

namespace Provider

theorem alike_call (now : Nat) (files : Files.Tree) (stopped : Bool) (p : Provider) :
    Alike p (p.call now files stopped).1 := by
  cases p with
  | docker s d =>
    cases stopped with
    | true => exact ⟨rfl, rfl⟩
    | false => exact ⟨d.size_ask, rfl⟩
  | _ => exact ⟨rfl, rfl⟩

theorem work_call_le (now : Nat) (files : Files.Tree) (stopped : Bool) (p : Provider) :
    (p.call now files stopped).2.work p.attempts ≤ 2 * p.attempts + 1 := by
  cases p with
  | docker s d =>
    cases stopped with
    | true => simp [call, Call.work]
    | false =>
      simp only [call, ask, Call.work, Docker.Retry.Phase.start, Docker.Retry.Phase.work, attempts,
        Bool.false_eq_true, if_false]
      omega
  | _ => simp [call, Call.work]

theorem proceed?_wait {now : Nat} {stopped : Bool} {p q : Provider} {c later : Call}
    (h : p.proceed? now stopped c = some (.wait q later)) :
    Alike p q ∧ later.work p.attempts < c.work p.attempts := by
  unfold proceed? at h
  split at h
  · split at h <;> simp at h
  · split at h
    · simp at h
    · split at h
      · split at h
        · rename_i s d
          simp only [Option.some.injEq, next] at h
          split at h
          · simp at h
          · simp at h
          · rename_i hnext
            obtain ⟨rfl, rfl⟩ : _ = q ∧ _ = later := by simpa using h
            exact ⟨⟨rfl, rfl⟩, Docker.Retry.Phase.work_wait_lt hnext⟩
          · rename_i hnext
            obtain ⟨rfl, rfl⟩ : _ = q ∧ _ = later := by simpa [ask] using h
            exact ⟨⟨rfl, rfl⟩, Docker.Retry.Phase.work_attempt_lt hnext now d.ask.1⟩
        · simp at h
      · simp at h

end Provider

end Signpost

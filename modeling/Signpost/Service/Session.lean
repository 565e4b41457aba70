import Signpost.Clockwork
import Signpost.Service.Run

/-!
# Sessions

A service with all its runs, the time and what comes from outside: signals, changes of files and
requests to stop. A session is at rest when no task of any run can take a step.
-/

namespace Signpost

structure Session where
  service : Service
  runs : List Run := []

namespace Session

def start (files : Files.Tree) (providers : List Provider) : Session :=
  { service := .ofProviders files providers }

/-- The step that is taken next: that of the first run that can take one. -/
def step? (s : Session) : Option Session :=
  (List.range s.runs.length).findSome? fun i =>
    match s.runs[i]? with
    | some r =>
      match r.step? s.service with
      | some (service, r) => some { service, runs := s.runs.set i r }
      | none => none
    | none => none

/-- What is left to do while the time stands still. -/
def work (s : Session) : Nat :=
  total (Run.work s.service) s.runs

def clockwork : Clockwork Session where
  step? := step?
  work := work
  now s := s.service.now
  setTime now s := { s with service := s.service.setTime now }
  dues s := s.runs.flatMap Run.dues

/-- Lets all runs go on while the time stands still. -/
def rest (s : Session) : Session :=
  clockwork.rest s

/-- Lets some time pass. -/
def advance (ms : Nat) (s : Session) : Session :=
  clockwork.advance ms s

/-- The newest token. -/
def token (s : Session) : Nat :=
  s.service.tokens.length - 1

/-- Whether a provider is told what to answer. -/
def isTold (s : Session) (i : Nat) : Bool :=
  match s.service.members[i]?.map Member.provider with
  | some (.told _) => true
  | _ => false

/-- Closes the channels of the providers that are told what to answer. -/
def closeTold (s : Session) (r : Run) : Run :=
  (List.range s.service.members.length).foldl (fun (r : Run) i =>
    if s.isTold i then { r with merge := r.merge.close i } else r) r

/-- Starts a run with the newest token, or with a new one. A provider that is told what to answer
has one channel at a time, so that those of earlier runs are closed. -/
def run (s : Session) (newToken : Bool) : Session :=
  let service :=
    if newToken then { s.service with tokens := s.service.tokens ++ [false] } else s.service
  let (next, r) := service.start (service.tokens.length - 1)
  { service := next, runs := s.runs.map s.closeTold ++ [r] }

/-- Tells those with the newest token to stop. -/
def cancel (s : Session) : Session :=
  { s with service := s.service.cancel s.token }

/-- Sends a signal for a provider that is told what to answer. The newest run receives it. -/
def send (s : Session) (i : Nat) : Signal.Sent × Session :=
  match s.isTold i, s.runs.getLast? with
  | true, some r =>
    let (sent, merge) := r.merge.send i
    (sent, { s with runs := s.runs.dropLast ++ [{ r with merge }] })
  | _, _ => (.noSender, s)

/-- Sends no more signals for a provider that is told what to answer. -/
def close (s : Session) (i : Nat) : Session :=
  if s.isTold i then { s with runs := s.runs.map fun r => { r with merge := r.merge.close i } }
  else s

/-- Tells the feeds of a run of a change of the files. -/
def notice (s : Session) (e : Files.Edit) (r : Run) : Run :=
  (List.range r.feeds.length).foldl (fun (r : Run) i =>
    match s.service.members[i]?, r.feeds[i]?, r.merge.lanes[i]? with
    | some m, some feed, some lane =>
      let next := Subscription.notice s.service.files e ⟨m.provider, feed, lane.source⟩
      { r with merge := r.merge.setSource i next.channel }
    | _, _, _ => r) r

/-- Changes the files. -/
def edit (s : Session) (e : Files.Edit) : Session :=
  { service := { s.service with files := e.apply s.service.files }
    runs := s.runs.map (s.notice e) }

/-- Replaces a provider by another one. -/
def setProvider (s : Session) (i : Nat) (p : Provider) : Session :=
  { s with service := s.service.setProvider i p }

theorem work_step?_lt {s next : Session} (h : s.step? = some next) : next.work < s.work := by
  obtain ⟨i, _, hi⟩ := List.exists_of_findSome?_eq_some h
  split at hi
  · rename_i r hr
    split at hi
    · rename_i service after hstep
      obtain ⟨task, htask⟩ := Run.exists_move?_of_step? hstep
      obtain ⟨hlike, hless⟩ := Run.work_move?_lt htask
      obtain rfl : _ = next := by simpa using hi
      have hruns : total (Run.work service) _ + _ = _ := total_set hr after
      have hsame : Run.work service = Run.work s.service := funext (Run.work_congr hlike)
      simp only [work]
      simp only [hsame] at hruns hless ⊢
      omega
    · simp at hi
  · simp at hi

/-- At rest no run can take a step, and so no task of a run can. -/
theorem move?_rest_eq_none {s : Session} {r : Run} (hr : r ∈ s.rest.runs) (task : Task) :
    r.move? s.rest.service task = none := by
  have hrest : s.rest.step? = none :=
    step?_settle_eq_none (fun _ _ => work_step?_lt) s.work s (Nat.le_refl _)
  obtain ⟨i, hi, hget⟩ := List.getElem_of_mem hr
  simp only [step?, List.findSome?_eq_none_iff] at hrest
  have hnone := hrest i (List.mem_range.2 hi)
  simp only [List.getElem?_eq_getElem hi, hget] at hnone
  cases hstep : r.step? s.rest.service with
  | none => exact Run.step?_eq_none_iff.1 hstep task
  | some next => simp [hstep] at hnone

end Session

end Signpost

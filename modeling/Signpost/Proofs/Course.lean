import Signpost.Proofs.Feeds

/-!
# Courses of a run

A service with one run. The tasks of the run take their steps in any order, and in between signals
are sent, providers change what they answer, files change, time passes and someone asks to stop.
What the run does with its providers and the table is noted.
-/

namespace Signpost.Proofs
open Signal

abbrev Answer := Origin × Except Source.Fault (List Rule)

/-- What a provider answers to a call that begins now and is let. -/
def answerOf (s : Service) : Provider → Except Source.Fault (List Rule)
  | .docker settings d =>
    if s.stopsCalls then .error (.docker .cancelled) else (Provider.docker settings d).list s.files
  | p => p.list s.files

structure Course where
  service : Service
  run : Run

/-- What can happen in a course. -/
inductive Course.Act
  | task (t : Task)
  | send (i : Nat)
  | close (i : Nat)
  /-- A provider that is told what to answer is told something else. -/
  | tell (i : Nat) (t : Told)
  /-- The call that is under way reads its answer anew: a provider may do so until the call ends. -/
  | look
  /-- A daemon answers something else from now on. -/
  | script (i : Nat) (lists : List (Docker.Attempt (List Docker.Container)))
  | edit (e : Files.Edit)
  | pass (ms : Nat)
  | cancel (token : Nat)

/-- What a run does that others can see. -/
inductive Note
  | begun
  | asked (i : Nat)
  | answered (i : Nat) (answer : Answer)
  | replaced
  deriving DecidableEq

namespace Course

def start (s : Service) (token : Nat) : Course :=
  ⟨(s.start token).1, (s.start token).2⟩

/-- The session that has no other run. -/
def session (c : Course) : Session :=
  { service := c.service, runs := [c.run] }

def cancelled (c : Course) : Bool :=
  c.service.isCancelled c.run.token

def look (c : Course) : Course :=
  match c.run.activity with
  | .rebuilding done next (.ready due _) =>
    match c.service.members[next]? with
    | some m =>
      { c with run.activity := .rebuilding done next (.ready due (answerOf c.service m.provider)) }
    | none => c
  | _ => c

def script (c : Course) (i : Nat) (lists : List (Docker.Attempt (List Docker.Container))) :
    Course :=
  match c.service.members[i]?.map Member.provider with
  | some (.docker settings d) =>
    { c with service := c.service.setProvider i (.docker settings { d with lists, asked := 0 }) }
  | _ => c

/-- What is not possible changes nothing: the step of a task that can take none, and what is sent or
told for a provider that is not told what to answer. -/
def step (c : Course) : Act → Course
  | .task t =>
    match c.run.move? c.service t with
    | some (service, run) => ⟨service, run⟩
    | none => c
  | .send i => if c.session.isTold i then { c with run.merge := (c.run.merge.send i).2 } else c
  | .close i => if c.session.isTold i then { c with run.merge := c.run.merge.close i } else c
  | .tell i t =>
    if c.session.isTold i then { c with service := c.service.setProvider i (.told t) } else c
  | .look => c.look
  | .script i lists => c.script i lists
  | .edit e =>
    { service := { c.service with files := e.apply c.service.files }
      run := c.session.notice e c.run }
  | .pass ms => { c with service := c.service.setTime (c.service.now + ms) }
  | .cancel token => { c with service := c.service.cancel token }

def after (c : Course) (acts : List Act) : Course :=
  acts.foldl step c

/-- What is noted when the rules of the providers before `next` are there. -/
def goOnNotes (s : Service) (next : Nat) : List Note :=
  match s.members[next]? with
  | some _ => [.asked next]
  | none => [.replaced]

def rebuildNotes (s : Service) (r : Run) : List Note :=
  if s.isCancelled r.token then []
  else
    match r.activity with
    | .waiting => if r.merge.receive.1 = .signal then .begun :: goOnNotes s 0 else []
    | .rebuilding _ next call =>
      match s.members[next]? with
      | some m =>
        match m.provider.proceed? s.now s.stopsCalls call with
        | some (.answer rules) =>
          .answered next (m.provider.origin, rules) :: goOnNotes s (next + 1)
        | _ => []
      | none => []
    | _ => []

def notes (c : Course) : Act → List Note
  | .task .rebuild => rebuildNotes c.service c.run
  | _ => []

/-- All that is noted, one after the other. -/
def log (c : Course) : List Act → List Note
  | [] => []
  | a :: acts => c.notes a ++ (c.step a).log acts

@[simp]
lemma after_nil (c : Course) : c.after [] = c := rfl

@[simp]
lemma after_cons (c : Course) (a : Act) (acts : List Act) :
    c.after (a :: acts) = (c.step a).after acts := rfl

lemma after_append (c : Course) (first second : List Act) :
    c.after (first ++ second) = (c.after first).after second :=
  List.foldl_append

lemma log_append (c : Course) (first second : List Act) :
    c.log (first ++ second) = c.log first ++ (c.after first).log second := by
  induction first generalizing c with
  | nil => rfl
  | cons a first ih => simp only [List.cons_append, log, ih, after_cons, List.append_assoc]

lemma step_task_of_some {c : Course} {t : Task} {service : Service} {run : Run}
    (h : c.run.move? c.service t = some (service, run)) : c.step (.task t) = ⟨service, run⟩ := by
  simp only [step, h]

lemma step_task_of_none {c : Course} {t : Task} (h : c.run.move? c.service t = none) :
    c.step (.task t) = c := by
  simp only [step, h]

end Course

/-- How a rebuilding goes on that has the rules of the providers before `next`. -/
inductive GoOn (s : Service) (done : Table) (next : Nat) : List Note → Service → Activity → Prop
  | ask {m : Member} (member : s.members[next]? = some m) :
      GoOn s done next [.asked next]
        { s with members := s.members.set next { m with
            provider := (m.provider.call s.now s.files s.stopsCalls).1
            calls := m.calls + 1 } }
        (.rebuilding done next (m.provider.call s.now s.files s.stopsCalls).2)
  | replace (all : s.members[next]? = none) :
      GoOn s done next [.replaced] { s with table := done } .waiting

/-- What the step of the run itself can be, and what is noted. -/
inductive RebuildStep (s : Service) (r : Run) : List Note → Service → Run → Prop
  | stop (told : s.isCancelled r.token = true) : RebuildStep s r [] s r.stop
  | begin {notes : List Note} {t : Service} {activity : Activity}
      (running : s.isCancelled r.token = false) (waiting : r.activity = .waiting)
      (held : 0 < r.merge.buffered) (on : GoOn s [] 0 notes t activity) :
      RebuildStep s r (.begun :: notes) t { r with
        merge := { r.merge with buffered := r.merge.buffered - 1 }
        activity }
  | exhaust (running : s.isCancelled r.token = false) (waiting : r.activity = .waiting)
      (empty : r.merge.buffered = 0) (ended : ∀ lane ∈ r.merge.lanes, lane.forwarder = .ended) :
      RebuildStep s r [] s { r with activity := .exhausted }
  | wait {done : Table} {next : Nat} {call later : Call} {m : Member} {p : Provider}
      (running : s.isCancelled r.token = false) (busy : r.activity = .rebuilding done next call)
      (member : s.members[next]? = some m)
      (proceed : m.provider.proceed? s.now s.stopsCalls call = some (.wait p later)) :
      RebuildStep s r [] (s.setProvider next p) { r with activity := .rebuilding done next later }
  | answer {done : Table} {next : Nat} {call : Call} {m : Member}
      {rules : Except Source.Fault (List Rule)} {notes : List Note} {t : Service}
      {activity : Activity} (running : s.isCancelled r.token = false)
      (busy : r.activity = .rebuilding done next call) (member : s.members[next]? = some m)
      (proceed : m.provider.proceed? s.now s.stopsCalls call = some (.answer rules))
      (on : GoOn s (done ++ Table.contribution m.provider.origin rules) (next + 1) notes t
        activity) :
      RebuildStep s r (.answered next (m.provider.origin, rules) :: notes) t { r with activity }

lemma goOn_goOn (s : Service) (done : Table) (next : Nat) :
    GoOn s done next (Course.goOnNotes s next) (s.goOn done next).1 (s.goOn done next).2 := by
  unfold Course.goOnNotes Service.goOn Service.call?
  cases hm : s.members[next]? with
  | some m => exact .ask hm
  | none => exact .replace hm

theorem rebuildStep_of_receive? {s t : Service} {r next : Run}
    (running : s.isCancelled r.token = false) (waiting : r.activity = .waiting)
    (h : r.receive? s = some (t, next)) :
    RebuildStep s r (Course.rebuildNotes s r) t next := by
  unfold Run.receive? at h
  simp only [Course.rebuildNotes, running, waiting, Bool.false_eq_true, if_false]
  rcases receive_cases r.merge with ⟨-, hr⟩ | ⟨-, held, hr⟩ | ⟨-, empty, ended, hr⟩ | ⟨-, -, -, hr⟩
  · simp [hr] at h
  · rw [hr] at h ⊢
    obtain ⟨rfl, rfl⟩ : _ = t ∧ _ = next := by simpa using h
    exact .begin running waiting held (goOn_goOn s [] 0)
  · rw [hr] at h ⊢
    obtain ⟨rfl, rfl⟩ : s = t ∧ _ = next := by simpa using h
    exact .exhaust running waiting empty ended
  · simp [hr] at h

theorem rebuildStep_of_answer? {s t : Service} {r after : Run} {done : Table} {next : Nat}
    {call : Call} (running : s.isCancelled r.token = false)
    (busy : r.activity = .rebuilding done next call)
    (h : r.answer? s done next call = some (t, after)) :
    RebuildStep s r (Course.rebuildNotes s r) t after := by
  unfold Run.answer? at h
  simp only [Course.rebuildNotes, running, busy, Bool.false_eq_true, if_false]
  cases hm : s.members[next]? with
  | none => simp [hm] at h
  | some m =>
    simp only [hm] at h ⊢
    cases hp : m.provider.proceed? s.now s.stopsCalls call with
    | none => simp [hp] at h
    | some onward =>
      simp only [hp] at h ⊢
      cases onward with
      | wait p later =>
        obtain ⟨rfl, rfl⟩ : _ = t ∧ _ = after := by simpa using h
        exact .wait running busy hm hp
      | answer rules =>
        obtain ⟨rfl, rfl⟩ : _ = t ∧ _ = after := by simpa using h
        exact .answer running busy hm hp (goOn_goOn s _ (next + 1))

theorem rebuildStep_of_rebuild? {s t : Service} {r next : Run}
    (h : r.rebuild? s = some (t, next)) : RebuildStep s r (Course.rebuildNotes s r) t next := by
  unfold Run.rebuild? at h
  cases told : s.isCancelled r.token with
  | true =>
    have nothing : Course.rebuildNotes s r = [] := by simp only [Course.rebuildNotes, told, if_true]
    rw [nothing]
    cases ha : r.activity with
    | stopped => simp [ha] at h
    | waiting | rebuilding | exhausted =>
      obtain ⟨rfl, rfl⟩ : s = t ∧ r.stop = next := by simpa [ha, told] using h
      exact .stop told
  | false =>
    cases ha : r.activity with
    | stopped => simp [ha] at h
    | exhausted => simp [ha, told] at h
    | waiting => exact rebuildStep_of_receive? told ha (by simpa [ha, told] using h)
    | rebuilding done i call => exact rebuildStep_of_answer? told ha (by simpa [ha, told] using h)

/-- Nothing is noted when the run cannot take a step. -/
theorem rebuildNotes_of_none {s : Service} {r : Run} (h : r.rebuild? s = none) :
    Course.rebuildNotes s r = [] := by
  unfold Run.rebuild? at h
  cases told : s.isCancelled r.token with
  | true => simp only [Course.rebuildNotes, told, if_true]
  | false =>
    simp only [Course.rebuildNotes, told, Bool.false_eq_true, if_false]
    cases ha : r.activity with
    | stopped | exhausted => rfl
    | waiting =>
      have hnone : r.receive? s = none := by simpa [ha, told] using h
      unfold Run.receive? at hnone
      rcases receive_cases r.merge with ⟨-, hr⟩ | ⟨-, -, hr⟩ | ⟨-, -, -, hr⟩ | ⟨-, -, -, hr⟩
      · simp [hr]
      · simp [hr] at hnone
      · simp [hr] at hnone
      · simp [hr]
    | rebuilding done i call =>
      have hnone : r.answer? s done i call = none := by simpa [ha, told] using h
      unfold Run.answer? at hnone
      cases hm : s.members[i]? with
      | none => simp only [hm]
      | some m =>
        simp only [hm] at hnone ⊢
        cases hp : m.provider.proceed? s.now s.stopsCalls call with
        | none => rfl
        | some onward => cases onward <;> simp [hp] at hnone

lemma getElem?_setProvider (s : Service) (i : Nat) (p : Provider) (k : Nat) :
    (s.setProvider i p).members[k]? =
      s.members[k]?.map fun m => if i = k then { m with provider := p } else m := by
  rw [Service.setProvider, List.getElem?_modify]
  rfl

/-- Another provider in a place changes nothing that is the same with it. -/
lemma map_setProvider {β : Type} {f : Member → β} {s : Service} {i : Nat} {p : Provider}
    (same : ∀ m, s.members[i]? = some m → f { m with provider := p } = f m) :
    (s.setProvider i p).members.map f = s.members.map f := by
  apply List.ext_getElem?
  intro k
  rw [List.getElem?_map, List.getElem?_map, getElem?_setProvider]
  cases hm : s.members[k]? with
  | none => rfl
  | some m =>
    by_cases hk : i = k
    · subst hk
      simp [same m hm]
    · simp [hk]

lemma isCancelled_cancel {s : Service} {k : Nat} (token : Nat) (h : s.isCancelled k = true) :
    (s.cancel token).isCancelled k = true := by
  simp only [Service.isCancelled, Service.cancel, List.getElem?_set] at h ⊢
  by_cases hk : token = k
  · subst hk
    cases ht : s.tokens[token]? with
    | none => simp [ht] at h
    | some _ =>
      obtain ⟨within, -⟩ := List.getElem?_eq_some_iff.mp ht
      simp [within]
  · rwa [if_neg hk]

lemma tokens_goOn {s t : Service} {done : Table} {next : Nat} {notes : List Note}
    {activity : Activity} (on : GoOn s done next notes t activity) : t.tokens = s.tokens := by
  cases on <;> rfl

namespace Course

/-- What a step can be, and what is noted. -/
inductive StepTo (c : Course) : Act → List Note → Course → Prop
  | still (a : Act) : StepTo c a [] c
  | rebuild {notes : List Note} {service : Service} {run : Run}
      (step : RebuildStep c.service c.run notes service run) :
      StepTo c (.task .rebuild) notes ⟨service, run⟩
  | forward {i : Nat} {lane : Lane} {merge : Merge} (found : c.run.merge.lanes[i]? = some lane)
      (step : ForwardStep c.run.merge c.cancelled i lane merge) :
      StepTo c (.task (.forwarder i)) [] { c with run.merge := merge }
  | feed {i : Nat} {m : Member} {p : Provider} {feeds : List Feed} {merge : Merge}
      (member : c.service.members[i]? = some m) (again : Resubscribed m.provider p)
      (fed : Fed c.run.merge merge) :
      StepTo c (.task (.feed i)) [] ⟨c.service.setProvider i p, { c.run with feeds, merge }⟩
  | send {i : Nat} : StepTo c (.send i) [] { c with run.merge := (c.run.merge.send i).2 }
  | close {i : Nat} : StepTo c (.close i) [] { c with run.merge := c.run.merge.close i }
  | tell {i : Nat} {m : Member} {before t : Told} (member : c.service.members[i]? = some m)
      (told : m.provider = .told before) :
      StepTo c (.tell i t) [] { c with service := c.service.setProvider i (.told t) }
  | look {done : Table} {next due : Nat} {answer : Except Source.Fault (List Rule)} {m : Member}
      (busy : c.run.activity = .rebuilding done next (.ready due answer))
      (member : c.service.members[next]? = some m) :
      StepTo c .look [] { c with
        run.activity := .rebuilding done next (.ready due (answerOf c.service m.provider)) }
  | script {i : Nat} {lists : List (Docker.Attempt (List Docker.Container))} {m : Member}
      {settings : Settings.Docker} {d : Docker.Daemon} (member : c.service.members[i]? = some m)
      (docker : m.provider = .docker settings d) :
      StepTo c (.script i lists) [] { c with
        service := c.service.setProvider i (.docker settings { d with lists, asked := 0 }) }
  | edit {e : Files.Edit} {merge : Merge} (fed : Fed c.run.merge merge) :
      StepTo c (.edit e) []
        ⟨{ c.service with files := e.apply c.service.files }, { c.run with merge }⟩
  | pass (ms : Nat) :
      StepTo c (.pass ms) [] { c with service := c.service.setTime (c.service.now + ms) }
  | cancel (token : Nat) :
      StepTo c (.cancel token) [] { c with service := c.service.cancel token }

lemma told_of_isTold {s : Session} {i : Nat} (h : s.isTold i = true) :
    ∃ m t, s.service.members[i]? = some m ∧ m.provider = .told t := by
  unfold Session.isTold at h
  cases hm : s.service.members[i]? with
  | none => simp [hm] at h
  | some m =>
    cases hp : m.provider with
    | told t => exact ⟨m, t, rfl, hp⟩
    | static | file | docker => simp [hm, hp] at h

lemma stepTo_task (c : Course) (t : Task) :
    StepTo c (.task t) (c.notes (.task t)) (c.step (.task t)) := by
  cases hmove : c.run.move? c.service t with
  | none =>
    rw [step_task_of_none hmove]
    cases t with
    | forwarder | feed => exact .still _
    | rebuild =>
      rw [notes, rebuildNotes_of_none hmove]
      exact .still _
  | some next =>
    obtain ⟨service, run⟩ := next
    rw [step_task_of_some hmove]
    cases t with
    | rebuild => exact .rebuild (rebuildStep_of_rebuild? hmove)
    | feed i =>
      obtain ⟨m, lane, p, feed, source, member, found, again, channel, rfl, rfl⟩ := feed?_eq hmove
      exact .feed member again (fed_setSource found (channelFed_of_channelStep channel))
    | forwarder i =>
      simp only [Run.move?] at hmove
      cases hf : c.run.merge.forward? (c.service.isCancelled c.run.token) i with
      | none => simp [hf] at hmove
      | some merge =>
        obtain ⟨rfl, rfl⟩ : c.service = service ∧ _ = run := by simpa [hf] using hmove
        obtain ⟨lane, found, step⟩ := forwardStep_of_forward? hf
        exact .forward found step

theorem stepTo_step (c : Course) (a : Act) : StepTo c a (c.notes a) (c.step a) := by
  cases a with
  | task t => exact stepTo_task c t
  | pass ms => exact .pass ms
  | cancel token => exact .cancel token
  | send i =>
    simp only [step]
    split
    · exact .send
    · exact .still _
  | close i =>
    simp only [step]
    split
    · exact .close
    · exact .still _
  | tell i t =>
    simp only [step]
    split
    · rename_i h
      obtain ⟨m, before, member, told⟩ := told_of_isTold h
      exact .tell member told
    · exact .still _
  | look =>
    simp only [step, look]
    split
    · rename_i done next due answer busy
      split
      · rename_i m member
        exact .look busy member
      · exact .still _
    · exact .still _
  | script i lists =>
    simp only [step, script]
    split
    · rename_i settings d h
      obtain ⟨m, member, docker⟩ := Option.map_eq_some_iff.mp h
      exact .script member docker
    · exact .still _
  | edit e =>
    obtain ⟨merge, hmerge, fed⟩ := notice_eq c.session e c.run
    simp only [step, hmerge]
    exact .edit fed

/-- A run keeps its token, and whoever is told to stop stays so. -/
theorem kept_step (c : Course) (a : Act) :
    (c.step a).run.token = c.run.token ∧
      ∀ k, c.service.isCancelled k = true → (c.step a).service.isCancelled k = true := by
  have step := stepTo_step c a
  generalize c.notes a = notes at step
  generalize c.step a = d at step ⊢
  cases step with
  | rebuild step =>
    cases step with
    | stop | exhaust | wait => exact ⟨rfl, fun _ => id⟩
    | begin _ _ _ on => exact ⟨rfl, fun _ => by simp [Service.isCancelled, tokens_goOn on]⟩
    | answer _ _ _ _ on => exact ⟨rfl, fun _ => by simp [Service.isCancelled, tokens_goOn on]⟩
  | cancel token => exact ⟨rfl, fun _ => isCancelled_cancel token⟩
  | _ => exact ⟨rfl, fun _ => id⟩

lemma cancelled_step {c : Course} (told : c.cancelled = true) (a : Act) :
    (c.step a).cancelled = true := by
  obtain ⟨token, cancelled⟩ := kept_step c a
  rw [Course.cancelled, token]
  exact cancelled c.run.token told

lemma running_of_step {c : Course} {a : Act} (h : (c.step a).cancelled = false) :
    c.cancelled = false := by
  apply Bool.eq_false_iff.mpr
  intro told
  rw [cancelled_step told a] at h
  cases h

lemma running_of_after {c : Course} {acts : List Act} (h : (c.after acts).cancelled = false) :
    c.cancelled = false := by
  induction acts generalizing c with
  | nil => exact h
  | cons a acts ih => exact running_of_step (ih h)

end Course

end Signpost.Proofs

import Signpost.Proofs.ChangesElsewhere
import Signpost.Proofs.FilePaths
import Signpost.Proofs.LifeCycle
import Signpost.Proofs.SignalSlots
import Signpost.Proofs.TableConvergence

/-!
# A service with a rules file

A run of a service whose only provider is a rules file, as long as nobody asks it to stop. The watch
hands its signals to an open channel with room for one, and a call for the rules is answered at
once.
-/

namespace Signpost.Proofs
open Signal

lemma setSource_only {m : Merge} {lane : Lane} (lanes : m.lanes = [lane]) :
    m.setSource 0 lane.source = m := by
  rw [setSource_eq (congrArg (·[0]?) lanes), lanes, List.set_cons_zero, ← lanes]

namespace Course

/-- The files change; nothing is told of it. -/
def changed (c : Course) (e : Files.Edit) : Course :=
  { c with service := { c.service with files := e.apply c.service.files } }

/-- A signal is sent for the rules file, if there is room for it. -/
def signalled (c : Course) : Course :=
  { c with run.merge := (c.run.merge.send 0).2 }

/-- What holds of a run with a rules file until someone asks it to stop. -/
structure Serves (path : Files.Path) (watch : Files.Watch) (c : Course) : Prop where
  running : c.cancelled = false
  sound : Sound c
  provider : ∃ m, c.service.members = [m] ∧ m.provider = .file path
  feeds : c.run.feeds = [.file (some watch)]
  lane : ∃ lane, c.run.merge.lanes = [lane] ∧ OpenSlot lane.source
  /-- The answer to a call is there when the call begins. -/
  prompt : ∀ done next call, c.run.activity = .rebuilding done next call →
    next = 0 ∧ ∃ due answer, call = .ready due answer ∧ due ≤ c.service.now
  tidy : Tidy c.service.files
  directory : c.service.files.walk path.directory = .ok ⟨watch.target, .directory⟩
  name : watch.name = path.fileName?

variable {path : Files.Path} {watch : Files.Watch} {c : Course}

lemma answers_of_serves (h : Serves path watch c) :
    answers c.service = [(.file, Source.RulesFile.list c.service.files path)] := by
  obtain ⟨m, members, file⟩ := h.provider
  rw [answers, members, List.map_singleton, file]
  rfl

lemma roomy_of_serves (h : Serves path watch c) : Roomy c.run.merge := by
  obtain ⟨lane, lanes, one⟩ := h.lane
  intro i other found
  rw [lanes] at found
  obtain rfl : other = lane := by simpa using List.mem_of_getElem? found
  rw [one.capacity]
  exact Nat.one_pos

/-- A signal for the rules file is on its way, whether there was room for it or not. -/
theorem undelivered_signalled (h : Serves path watch c) :
    0 < undelivered c.signalled.run.merge := by
  obtain ⟨lane, lanes, one⟩ := h.lane
  refine undelivered_of_send (roomy_of_serves h) ?_
  have found : c.run.merge.lanes[0]? = some lane := by rw [lanes]; rfl
  rw [send_eq found]
  exact sent_of_openSlot one

theorem serves_signalled (h : Serves path watch c) : Serves path watch c.signalled := by
  obtain ⟨lane, lanes, one⟩ := h.lane
  have found : c.run.merge.lanes[0]? = some lane := by rw [lanes]; rfl
  refine { h with sound := sound_of_fed h.sound id rfl (fed_send _ _), lane := ?_ }
  refine ⟨{ lane with source := lane.source.trySend.2 }, ?_, openSlot_trySend one⟩
  change (c.run.merge.send 0).2.lanes = _
  rw [send_eq found, setSource_eq found, lanes]
  rfl

theorem serves_changed {e : Files.Edit} (h : Serves path watch c)
    (spares : SparesDirectories c.service.files e) : Serves path watch (c.changed e) := by
  obtain ⟨tidy, kept⟩ := tidy_apply h.tidy spares
  exact { h with
    sound := sound_of_fed h.sound id rfl (.refl _)
    tidy
    directory := (walk_directory h.tidy h.directory).2 tidy kept }

/-- A change that the watch does not notice makes no difference to what is read. -/
theorem answers_changed {e : Files.Edit} (h : Serves path watch c)
    (spares : SparesDirectories c.service.files e)
    (unseen : watch.notices c.service.files e = false) :
    answers (c.changed e).service = answers c.service := by
  have same := readText_congr h.directory (serves_changed h spares).directory (by
    intro name named
    refine get?_apply fun told => ?_
    have sees : watch.sees (.entry ⟨watch.target, name⟩) = true := by
      simp [Files.Watch.sees, h.name, named]
    rw [Files.Watch.notices, List.any_eq_false] at unseen
    exact unseen _ told sees)
  rw [answers_of_serves (serves_changed h spares), answers_of_serves h]
  simp only [Source.RulesFile.list, same]

/-- A change of files signals at once what the watch notices. -/
theorem step_edit (h : Serves path watch c) (e : Files.Edit) :
    c.step (.edit e) =
      if watch.notices c.service.files e then (c.changed e).signalled else c.changed e := by
  obtain ⟨m, members, -⟩ := h.provider
  obtain ⟨lane, lanes, -⟩ := h.lane
  have member : c.session.service.members[0]? = some m := congrArg (·[0]?) members
  have feed : c.run.feeds[0]? = some (.file (some watch)) := congrArg (·[0]?) h.feeds
  have found : c.run.merge.lanes[0]? = some lane := congrArg (·[0]?) lanes
  have noticed : c.session.notice e c.run = noticeAt c.session e c.run 0 := by
    rw [notice_eq_foldl, h.feeds]
    rfl
  have files : c.session.service.files = c.service.files := rfl
  rw [Course.step, noticed]
  simp only [noticeAt, member, feed, found, Subscription.notice, files]
  split
  · simp only [changed, signalled, send_eq found]
  · rw [setSource_only lanes]
    rfl

lemma isTold_of_serves (h : Serves path watch c) (i : Nat) : c.session.isTold i = false := by
  obtain ⟨m, members, file⟩ := h.provider
  unfold Session.isTold
  rw [show c.session.service.members = [m] from members]
  cases i with
  | zero => simp [file]
  | succ i => simp

lemma member_of_serves (h : Serves path watch c) {i : Nat} {m : Member}
    (member : c.service.members[i]? = some m) : i = 0 ∧ m.provider = .file path := by
  obtain ⟨only, members, file⟩ := h.provider
  rw [members] at member
  cases i with
  | zero =>
    obtain rfl : only = m := by simpa using member
    exact ⟨rfl, file⟩
  | succ i => simp at member

lemma feed?_of_serves (h : Serves path watch c) (i : Nat) : c.run.feed? c.service i = none := by
  have running : c.service.isCancelled c.run.token = false := h.running
  unfold Run.feed?
  split
  · rename_i m feed lane member hfeed _
    obtain ⟨rfl, -⟩ := member_of_serves h member
    obtain rfl : _ = feed := by simpa [h.feeds] using hfeed
    simp [Subscription.step?, Subscription.stop?, running]
  · rfl

/-- What is not for a rules file changes nothing. -/
lemma step_still (h : Serves path watch c) :
    (∀ i, c.step (.task (.feed i)) = c) ∧ (∀ i, c.step (.send i) = c) ∧
      (∀ i, c.step (.close i) = c) ∧ (∀ i t, c.step (.tell i t) = c) ∧
      ∀ i lists, c.step (.script i lists) = c := by
  refine ⟨fun i => step_task_of_none (feed?_of_serves h i), fun i => ?_, fun i => ?_, fun i t => ?_,
    fun i lists => ?_⟩
  · rw [step, isTold_of_serves h]
    rfl
  · rw [step, isTold_of_serves h]
    rfl
  · rw [step, isTold_of_serves h]
    rfl
  · rw [step, script]
    split
    · rename_i settings d docker
      obtain ⟨m, member, provider⟩ := Option.map_eq_some_iff.mp docker
      rw [(member_of_serves h member).2] at provider
      cases provider
    · rfl

lemma provider_goOn {s t : Service} {done : Table} {next : Nat} {notes : List Note}
    {activity : Activity} {m : Member} (members : s.members = [m]) (file : m.provider = .file path)
    (on : GoOn s done next notes t activity) :
    (∃ m, t.members = [m] ∧ m.provider = .file path) ∧ t.files = s.files ∧ t.now = s.now ∧
      ∀ done next call, activity = .rebuilding done next call →
        next = 0 ∧ ∃ due answer, call = .ready due answer ∧ due ≤ t.now := by
  cases on with
  | @ask asked member =>
    obtain ⟨rfl, rfl⟩ : next = 0 ∧ m = asked := by
      rw [members] at member
      cases next with
      | zero => exact ⟨rfl, by simpa using member⟩
      | succ next => simp at member
    refine ⟨⟨_, by rw [members]; rfl, by rw [file]; rfl⟩, rfl, rfl, ?_⟩
    rintro _ _ _ ⟨⟩
    rw [file]
    exact ⟨rfl, s.now, _, rfl, Nat.le_refl _⟩
  | replace => exact ⟨⟨m, members, file⟩, rfl, rfl, nofun⟩

lemma serves_rebuild {notes : List Note} {service : Service} {run : Run}
    (h : Serves path watch c) (running : (Course.mk service run).cancelled = false)
    (sound : Sound ⟨service, run⟩) (step : RebuildStep c.service c.run notes service run) :
    Serves path watch ⟨service, run⟩ ∧ service.files = c.service.files := by
  obtain ⟨m, members, file⟩ := h.provider
  cases step with
  | stop told =>
    have before := h.running
    rw [cancelled, told] at before
    cases before
  | begin _ _ _ on =>
    obtain ⟨provider, files, now, prompt⟩ := provider_goOn members file on
    have tidy : Tidy service.files := files ▸ h.tidy
    have directory : service.files.walk path.directory = _ := files ▸ h.directory
    exact ⟨{ h with running, sound, provider, prompt, tidy, directory }, files⟩
  | exhaust =>
    exact ⟨{ h with running, sound, prompt := by simp }, rfl⟩
  | wait _ busy _ proceed =>
    obtain ⟨-, due, answer, rfl, -⟩ := h.prompt _ _ _ busy
    simp [Provider.proceed?] at proceed
  | answer _ _ _ _ on =>
    obtain ⟨provider, files, now, prompt⟩ := provider_goOn members file on
    have tidy : Tidy service.files := files ▸ h.tidy
    have directory : service.files.walk path.directory = _ := files ▸ h.directory
    exact ⟨{ h with running, sound, provider, prompt, tidy, directory }, files⟩

lemma serves_forward {i : Nat} {lane : Lane} {merge : Merge} (h : Serves path watch c)
    (sound : Sound { c with run.merge := merge }) (found : c.run.merge.lanes[i]? = some lane)
    (step : ForwardStep c.run.merge c.cancelled i lane merge) :
    Serves path watch { c with run.merge := merge } := by
  obtain ⟨only, lanes, one⟩ := h.lane
  obtain ⟨rfl, rfl⟩ : i = 0 ∧ only = lane := by
    rw [lanes] at found
    cases i with
    | zero => exact ⟨rfl, by simpa using found⟩
    | succ i => simp at found
  refine { h with sound, lane := ?_ }
  cases step with
  | stop _ told =>
    rw [h.running] at told
    cases told
  | close _ _ _ closed =>
    rw [one.sender] at closed
    cases closed
  | lose _ _ gone =>
    rw [h.sound.receiver h.running] at gone
    cases gone
  | take =>
    refine ⟨⟨{ only.source with held := only.source.held - 1 }, .holding⟩, ?_,
      oneSlot_less one.toOneSlot, one.sender⟩
    simp only [lanes, List.set_cons_zero]
  | put => exact ⟨{ only with forwarder := .idle }, by simp only [lanes, List.set_cons_zero], one⟩

/-- As long as nobody asks it to stop, the run goes on serving the rules file. -/
theorem serves_step {a : Act} (h : Serves path watch c) (running : (c.step a).cancelled = false)
    (quiet : ∀ e, a ≠ .edit e) :
    Serves path watch (c.step a) ∧ (c.step a).service.files = c.service.files := by
  obtain ⟨feed, send, close, tell, script⟩ := step_still h
  have sound := sound_step h.sound a
  have same {d : Course} (hd : d = c) :
      Serves path watch d ∧ d.service.files = c.service.files := by
    rw [hd]
    exact ⟨h, rfl⟩
  cases a with
  | send i => exact same (send i)
  | close i => exact same (close i)
  | tell i t => exact same (tell i t)
  | script i lists => exact same (script i lists)
  | edit e => exact absurd rfl (quiet e)
  | pass ms =>
    refine ⟨{ h with running, sound, prompt := ?_ }, rfl⟩
    intro done next call busy
    obtain ⟨first, due, answer, ready, past⟩ := h.prompt done next call busy
    exact ⟨first, due, answer, ready, Nat.le_add_right_of_le past⟩
  | cancel token =>
    exact ⟨{ h with running, sound }, rfl⟩
  | look =>
    have step := stepTo_step c .look
    generalize c.notes .look = notes at step
    generalize c.step .look = d at step running sound ⊢
    cases step with
    | still => exact same rfl
    | look busy =>
      obtain ⟨first, due, answer, ready, past⟩ := h.prompt _ _ _ busy
      refine ⟨{ h with running, sound, prompt := ?_ }, rfl⟩
      rintro _ _ _ ⟨⟩
      cases ready
      exact ⟨first, _, _, rfl, past⟩
  | task t =>
    cases t with
    | feed i => exact same (feed i)
    | forwarder i =>
      -- the next course has to be a variable before the step is told apart by cases
      have step := stepTo_task c (.forwarder i)
      generalize c.notes (.task (.forwarder i)) = notes at step
      generalize c.step (.task (.forwarder i)) = d at step running sound ⊢
      cases step with
      | still => exact same rfl
      | forward found step => exact ⟨serves_forward h sound found step, rfl⟩
    | rebuild =>
      have step := stepTo_task c .rebuild
      generalize c.notes (.task .rebuild) = notes at step
      generalize c.step (.task .rebuild) = d at step running sound ⊢
      cases step with
      | still => exact same rfl
      | rebuild step => exact serves_rebuild h running sound step

/-- A signal is on its way, or what the run has is what the rules file says now. -/
def UpToDate (c : Course) : Prop :=
  0 < undelivered c.run.merge ∨ Fresh c.service c.run.activity

lemma answers_of_files {d : Course} (h : Serves path watch c) (later : Serves path watch d)
    (files : d.service.files = c.service.files) : answers d.service = answers c.service := by
  rw [answers_of_serves h, answers_of_serves later, files]

theorem upToDate_step {a : Act} (h : Serves path watch c) (running : (c.step a).cancelled = false)
    (quiet : ∀ e, a ≠ .edit e) (upToDate : UpToDate c) : UpToDate (c.step a) := by
  obtain ⟨later, files⟩ := serves_step h running quiet
  have same := answers_of_files h later files
  by_cases scripted : ∃ i lists, a = .script i lists
  · obtain ⟨i, lists, rfl⟩ := scripted
    rw [(step_still h).2.2.2.2]
    exact upToDate
  · have given : ∀ i lists, a ≠ .script i lists := fun i lists ha => scripted ⟨i, lists, ha⟩
    -- a signal is used up by the pass that it starts, and this pass asks for the file anew
    rcases upToDate with pending | fresh
    · rcases undelivered_step h.sound running with le | begun
      · exact .inl (Nat.lt_of_lt_of_le pending le)
      · exact .inr (fresh_step h.running given same (.inr begun))
    · exact .inr (fresh_step h.running given same (.inl fresh))

/-- A change that the watch does not notice leaves the run up to date. -/
theorem upToDate_changed {e : Files.Edit} (h : Serves path watch c)
    (spares : SparesDirectories c.service.files e)
    (unseen : watch.notices c.service.files e = false) (upToDate : UpToDate c) :
    UpToDate (c.changed e) := by
  rcases upToDate with pending | fresh
  · exact .inl pending
  · exact .inr (fresh_of_keeps fresh rfl (answers_changed h spares unseen)
      (keeps_of_members rfl rfl))

/-- A run that cannot move waits for a signal. -/
lemma idle_of_stuck (h : Serves path watch c) (stuck : ∀ t, c.run.move? c.service t = none) :
    c.Idle := by
  refine ⟨stuck, fun done next call busy => ?_⟩
  obtain ⟨rfl, due, answer, rfl, past⟩ := h.prompt done next call busy
  obtain ⟨m, members, -⟩ := h.provider
  have running : c.service.isCancelled c.run.token = false := h.running
  have still := stuck .rebuild
  simp [Run.move?, Run.rebuild?, busy, running, Run.answer?, members, Provider.proceed?, past]
    at still

/-- A run that cannot move has the table that the rules file says. -/
theorem table_of_stuck (h : Serves path watch c) (upToDate : UpToDate c)
    (stuck : ∀ t, c.run.move? c.service t = none) :
    c.service.table = Table.contribution .file (Source.RulesFile.list c.service.files path) := by
  have idle := idle_of_stuck h stuck
  have received := undelivered_of_idle h.sound h.running idle
  have fresh := upToDate.resolve_left (by omega)
  rw [table_of_fresh h.sound h.running idle fresh, answers_of_serves h]
  exact List.flatMap_singleton ..

/-- What is at another place, or leads there, is not taken for the rules file. -/
theorem unseen_of_elsewhere {e : Files.Edit} {name : Files.Name} (h : Serves path watch c)
    (named : path.fileName? = some name) (spares : SparesDirectories c.service.files e)
    (elsewhere : Elsewhere c.service.files ⟨watch.target, name⟩ e) :
    watch.notices c.service.files e = false := by
  have there := (walk_directory (u := c.service.files) h.tidy h.directory).1
  obtain ⟨entry, itself⟩ := toldApart_of_elsewhere h.tidy spares there elsewhere
  rw [Files.Watch.notices, List.any_eq_false]
  intro touch told sees
  cases touch with
  | entry p =>
    obtain ⟨directory, name⟩ := p
    simp only [Files.Watch.sees, h.name, named, Bool.and_eq_true, beq_iff_eq, Option.some.injEq]
      at sees
    obtain ⟨rfl, rfl⟩ := sees
    exact entry told
  | itself id =>
    simp only [Files.Watch.sees, Bool.and_eq_true, beq_iff_eq] at sees
    obtain ⟨rfl, -⟩ := sees
    exact itself told

/-- The watch that a run begins when the directory of the rules file is there. -/
def watchOf (files : Files.Tree) (path : Files.Path) (directory : Files.Identity) : Files.Watch :=
  ⟨directory, ((files.pathTo files.working).join path.directory).fileName?, path.fileName?⟩

theorem serves_start {files : Files.Tree} {directory : Files.Identity} (tidy : Tidy files)
    (there : files.walk path.directory = .ok ⟨directory, .directory⟩) :
    Serves path (watchOf files path directory) (start (.ofProviders files [.file path]) 0) where
  running := rfl
  sound := sound_start _ 0
  provider := ⟨_, rfl, rfl⟩
  feeds := by
    have watching : Files.Watch.start files path = .ok (watchOf files path directory) := by
      rw [Files.Watch.start, there]
      rfl
    simp [start, Service.start, Service.subscribe, Service.ofProviders, Subscription.start,
      watching, Except.toOption]
  lane := ⟨_, rfl, oneSlot_holding, rfl⟩
  prompt := nofun
  tidy
  directory := there
  name := rfl

lemma upToDate_start (files : Files.Tree) (path : Files.Path) :
    UpToDate (start (.ofProviders files [.file path]) 0) :=
  .inl Nat.one_pos

end Course
end Signpost.Proofs

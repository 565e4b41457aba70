import Signpost.Proofs.RulesFileService

/-!
# Reports of changes

Whoever watches a rules file is told of its changes some time after they happened. A signal for a
report is one with the signal that waits already, and yet the file is read again after its last
change: either a signal or a report is on its way, or what the run has is up to date.
-/

namespace Signpost.Proofs
open Signal

/-- A course in which changes of files may be reported later. -/
structure Reporting where
  course : Course
  /-- The reports that are on their way. -/
  reports : Nat := 0

namespace Reporting

inductive Act
  /-- What can happen in a course. Changes of files are reported at once. -/
  | act (a : Course.Act)
  /-- Files change. What the watch is to notice is reported later, and maybe some more times. -/
  | change (e : Files.Edit) (more : Nat)
  /-- A report arrives, if there is one. -/
  | deliver

/-- A run of a service with nothing but a rules file. -/
def start (files : Files.Tree) (path : Files.Path) : Reporting :=
  { course := .start (.ofProviders files [.file path]) 0 }

/-- Whether the watch of a run notices a change. -/
def notices (c : Course) (e : Files.Edit) : Bool :=
  c.run.feeds.any fun
    | .file (some watch) => watch.notices c.service.files e
    | _ => false

/-- How many reports something leads to. -/
def reporting (d : Reporting) : Act → Nat
  | .act (.edit e) => if notices d.course e then 1 else 0
  | .change e more => if notices d.course e then more + 1 else 0
  | _ => 0

def step (d : Reporting) : Act → Reporting
  | .act a => { d with course := d.course.step a }
  | .change e more => ⟨d.course.changed e, d.reports + d.reporting (.change e more)⟩
  | .deliver =>
    match d.reports with
    | 0 => d
    | n + 1 => ⟨d.course.signalled, n⟩

def after (d : Reporting) (acts : List Act) : Reporting :=
  acts.foldl step d

/-- What the run notes in a step. -/
def notes (d : Reporting) : Act → List Note
  | .act a => d.course.notes a
  | _ => []

def log (d : Reporting) : List Act → List Note
  | [] => []
  | a :: acts => d.notes a ++ (d.step a).log acts

/-- How many reports there are altogether. -/
def reportedIn (d : Reporting) : List Act → Nat
  | [] => 0
  | a :: acts => d.reporting a + (d.step a).reportedIn acts

/-- The files that change are no directories. -/
def SparesIn (d : Reporting) : Act → Prop
  | .act (.edit e) => SparesDirectories d.course.service.files e
  | .change e _ => SparesDirectories d.course.service.files e
  | _ => True

def SparesAll (d : Reporting) : List Act → Prop
  | [] => True
  | a :: acts => d.SparesIn a ∧ (d.step a).SparesAll acts

/-- A report is on its way, or the run is up to date. -/
structure Tracks (path : Files.Path) (watch : Files.Watch) (d : Reporting) : Prop where
  serves : d.course.Serves path watch
  current : 0 < d.reports ∨ d.course.UpToDate

variable {path : Files.Path} {watch : Files.Watch} {d : Reporting}

lemma notices_of_serves {c : Course} (h : c.Serves path watch) (e : Files.Edit) :
    notices c e = watch.notices c.service.files e := by
  rw [notices, h.feeds, List.any_cons, List.any_nil, Bool.or_false]

lemma deliver_cases (d : Reporting) :
    (d.reports = 0 ∧ d.step .deliver = d) ∨
      ∃ n, d.reports = n + 1 ∧ d.step .deliver = ⟨d.course.signalled, n⟩ := by
  obtain ⟨course, reports⟩ := d
  cases reports with
  | zero => exact .inl ⟨rfl, rfl⟩
  | succ n => exact .inr ⟨n, rfl, rfl⟩

lemma running_of_step {a : Act} (h : (d.step a).course.cancelled = false) :
    d.course.cancelled = false := by
  cases a with
  | act a => exact Course.running_of_step h
  | change e more => exact h
  | deliver =>
    rcases deliver_cases d with ⟨-, step⟩ | ⟨n, -, step⟩
    · rwa [step] at h
    · rwa [step] at h

lemma running_of_after {acts : List Act} (h : (d.after acts).course.cancelled = false) :
    d.course.cancelled = false := by
  induction acts generalizing d with
  | nil => exact h
  | cons a acts ih => exact running_of_step (ih h)

theorem tracks_step {a : Act} (h : Tracks path watch d) (spares : d.SparesIn a)
    (running : (d.step a).course.cancelled = false) : Tracks path watch (d.step a) := by
  obtain ⟨serves, current⟩ := h
  cases a with
  | act a =>
    by_cases edits : ∃ e, a = .edit e
    · obtain ⟨e, rfl⟩ := edits
      have changed := Course.serves_changed serves spares
      simp only [step, Course.step_edit serves]
      split
      · exact ⟨Course.serves_signalled changed, .inr (.inl (Course.undelivered_signalled changed))⟩
      · rename_i unseen
        -- what is not noticed is no change of the rules file
        exact ⟨changed, current.imp_right
          (Course.upToDate_changed serves spares (Bool.eq_false_iff.mpr unseen))⟩
    · have quiet : ∀ e, a ≠ .edit e := fun e ha => edits ⟨e, ha⟩
      exact ⟨(Course.serves_step serves running quiet).1,
        current.imp_right (Course.upToDate_step serves running quiet)⟩
  | change e more =>
    refine ⟨Course.serves_changed serves spares, ?_⟩
    simp only [step, reporting, notices_of_serves serves]
    split
    · exact .inl (by omega)
    · rename_i unseen
      exact current.imp_right
        (Course.upToDate_changed serves spares (Bool.eq_false_iff.mpr unseen))
  | deliver =>
    rcases deliver_cases d with ⟨-, step⟩ | ⟨n, -, step⟩
    · rw [step]
      exact ⟨serves, current⟩
    · rw [step]
      exact ⟨Course.serves_signalled serves, .inr (.inl (Course.undelivered_signalled serves))⟩

theorem tracks_after {acts : List Act} (h : Tracks path watch d) (spares : d.SparesAll acts)
    (running : (d.after acts).course.cancelled = false) : Tracks path watch (d.after acts) := by
  induction acts generalizing d with
  | nil => exact h
  | cons a acts ih =>
    exact ih (tracks_step h spares.1 (running_of_after running)) spares.2 running

lemma sends_of_serves {c : Course} {a : Course.Act} (h : c.Serves path watch)
    (quiet : ∀ e, a ≠ .edit e) : c.sends a = [] := by
  cases a with
  | send i => simp only [Course.sends, Course.isTold_of_serves h, Bool.false_eq_true, if_false]
  | edit e => exact absurd rfl (quiet e)
  | close | tell | look | script | pass | cancel => rfl
  | task t =>
    cases t with
    | forwarder | rebuild => rfl
    | feed i =>
      simp only [Course.sends, (Course.step_still h).1]
      split
      · rename_i before after hbefore hafter
        rw [hbefore] at hafter
        cases hafter
        exact if_neg (Nat.lt_irrefl _)
      · rfl

lemma undelivered_signalled_le (c : Course) :
    undelivered c.signalled.run.merge ≤ undelivered c.run.merge + 1 := by
  have sent := undelivered_send_eq c.run.merge 0
  have once : [(c.run.merge.send 0).1].count .accepted ≤ 1 := List.count_le_length
  change undelivered (c.run.merge.send 0).2 ≤ _
  omega

/-- A pass begins for a signal that was there or for a report. -/
theorem begun_step {a : Act} (h : Tracks path watch d)
    (running : (d.step a).course.cancelled = false) :
    (d.notes a).count .begun + undelivered (d.step a).course.run.merge + (d.step a).reports ≤
      undelivered d.course.run.merge + d.reports + d.reporting a := by
  cases a with
  | act a =>
    by_cases edits : ∃ e, a = .edit e
    · obtain ⟨e, rfl⟩ := edits
      simp only [step, notes, Course.notes, List.count_nil, reporting, notices_of_serves h.serves,
        Course.step_edit h.serves]
      split
      · have le := undelivered_signalled_le (d.course.changed e)
        change _ ≤ undelivered d.course.run.merge + 1 at le
        omega
      · change _ + undelivered d.course.run.merge + _ ≤ _
        omega
    · have quiet : ∀ e, a ≠ .edit e := fun e ha => edits ⟨e, ha⟩
      have signals := Course.signals_step h.serves.sound running
      rw [sends_of_serves h.serves quiet, List.count_nil] at signals
      change (d.course.notes a).count .begun + undelivered (d.course.step a).run.merge +
        d.reports ≤ _
      omega
  | change e more =>
    simp only [notes, List.count_nil, step]
    change _ + undelivered d.course.run.merge + _ ≤ _
    omega
  | deliver =>
    simp only [notes, List.count_nil]
    rcases deliver_cases d with ⟨-, step⟩ | ⟨n, some, step⟩
    · rw [step]
      omega
    · have le := undelivered_signalled_le d.course
      rw [step]
      change _ + undelivered d.course.signalled.run.merge + n ≤ _
      omega

theorem begun_after {acts : List Act} (h : Tracks path watch d) (spares : d.SparesAll acts)
    (running : (d.after acts).course.cancelled = false) :
    (d.log acts).count .begun ≤ undelivered d.course.run.merge + d.reports + d.reportedIn acts := by
  induction acts generalizing d with
  | nil => exact Nat.zero_le _
  | cons a acts ih =>
    have runningThen : (d.step a).course.cancelled = false := running_of_after running
    have first := begun_step h runningThen
    have rest := ih (tracks_step h spares.1 runningThen) spares.2 running
    simp only [log, reportedIn, List.count_append]
    omega

/-- A run has followed its rules file. -/
structure Follows (path : Files.Path) (directory : Files.Identity) (d : Reporting) : Prop where
  /-- If no task can move and all reports have arrived, the table has the rules of the file. -/
  rules : (∀ t, d.course.run.move? d.course.service t = none) → d.reports = 0 →
    ∀ rules, Source.RulesFile.list d.course.service.files path = .ok rules →
      d.course.service.table = rules.map fun r => { r.extend with origin := .file }
  /-- If the file is not there, cannot be read or is not valid, the table is empty then. -/
  empty : (∀ t, d.course.run.move? d.course.service t = none) → d.reports = 0 →
    ∀ fault, Source.RulesFile.list d.course.service.files path = .error fault →
      d.course.service.table = []
  /-- At most one signal waits in the channel of the watch. Another one is one with it. -/
  merged : ∃ lane, d.course.run.merge.lanes = [lane] ∧ lane.source.held ≤ 1 ∧
    (lane.source.held = 1 → d.course.signalled = d.course)
  /-- What happens under other names is not reported and leaves the run as it is. -/
  others : ∀ e name, path.fileName? = some name → SparesDirectories d.course.service.files e →
    Elsewhere d.course.service.files ⟨directory, name⟩ e →
      (d.course.step (.edit e)).run = d.course.run ∧
      ∀ more, (d.step (.change e more)).course.run = d.course.run ∧
        (d.step (.change e more)).reports = d.reports

lemma signalled_of_full {c : Course} {lane : Lane} (lanes : c.run.merge.lanes = [lane])
    (one : OneSlot lane.source) (full : lane.source.held = 1) : c.signalled = c := by
  have found : c.run.merge.lanes[0]? = some lane := congrArg (·[0]?) lanes
  rw [Course.signalled, send_eq found, trySend_of_taken one full, setSource_only lanes]

/-- What is done under other names is neither noticed nor reported. -/
lemma run_of_elsewhere {e : Files.Edit} {name : Files.Name} (h : d.course.Serves path watch)
    (named : path.fileName? = some name) (spares : SparesDirectories d.course.service.files e)
    (elsewhere : Elsewhere d.course.service.files ⟨watch.target, name⟩ e) :
    (d.course.step (.edit e)).run = d.course.run ∧
      ∀ more, (d.step (.change e more)).course.run = d.course.run ∧
        (d.step (.change e more)).reports = d.reports := by
  have unseen := Course.unseen_of_elsewhere h named spares elsewhere
  refine ⟨?_, fun more => ⟨rfl, ?_⟩⟩
  · rw [Course.step_edit h, unseen]
    rfl
  · simp only [step, reporting, notices_of_serves h, unseen, Bool.false_eq_true, if_false,
      Nat.add_zero]

/-- Whatever happens between a change of the rules file and its report, and however the signals for
the reports become one, the table of a run that has nothing to do has the rules of the file. The
table is made once at the beginning and at most once for each report. -/
theorem file_changes_reach_table (files : Files.Tree) (path : Files.Path)
    (directory : Files.Identity) (tidy : Tidy files)
    (there : files.walk path.directory = .ok ⟨directory, .directory⟩) (acts : List Act)
    (spares : (start files path).SparesAll acts)
    (running : ((start files path).after acts).course.cancelled = false) :
    Follows path directory ((start files path).after acts) ∧
      ((start files path).log acts).count .begun ≤ 1 + (start files path).reportedIn acts := by
  have first : Tracks path (Course.watchOf files path directory) (start files path) :=
    ⟨Course.serves_start tidy there, .inr (Course.upToDate_start files path)⟩
  obtain ⟨serves, current⟩ := tracks_after first spares running
  have table (stuck : ∀ t, ((start files path).after acts).course.run.move?
        ((start files path).after acts).course.service t = none)
      (arrived : ((start files path).after acts).reports = 0) :=
    Course.table_of_stuck serves (current.resolve_left (by omega)) stuck
  refine ⟨⟨?_, ?_, ?_, ?_⟩, begun_after first spares running⟩
  · intro stuck arrived rules valid
    rw [table stuck arrived, valid]
    rfl
  · intro stuck arrived fault invalid
    rw [table stuck arrived, invalid]
    rfl
  · obtain ⟨lane, lanes, one⟩ := serves.lane
    exact ⟨lane, lanes, one.held, signalled_of_full lanes one.toOneSlot⟩
  · intro e name named sparesThen elsewhere
    exact run_of_elsewhere serves named sparesThen elsewhere

def routesPath : Files.Path :=
  Files.Path.ofString "routes.toml"

def routesTo (target : String) : Text.Bytes :=
  Text.Utf8.encode ("[[h]]\nroute = \"/a/\"\ndest = \"" ++ target ++ "\"\n")

/-- The file is made while a pass goes on that did not find it, and made anew while another one goes
on that has read it. The first change is reported twice; another file is written in between. -/
def lateReports : List Act :=
  [.act (.task (.forwarder 0)), .act (.task (.forwarder 0)), .act (.task .rebuild),
    .change (.write routesPath (routesTo "http://first/")) 1, .act (.task .rebuild),
    .deliver, .deliver, .change (.write (Files.Path.ofString "other") []) 0,
    .act (.task (.forwarder 0)), .act (.task (.forwarder 0)), .act (.task .rebuild),
    .change (.replace routesPath (routesTo "http://second/")) 0, .act (.task .rebuild), .deliver,
    .act (.task (.forwarder 0)), .act (.task (.forwarder 0)), .act (.task .rebuild),
    .act (.task .rebuild)]

theorem file_changes_reach_table_lateReports :
    let last := (start {} routesPath).after lateReports
    Tidy {} ∧ ({} : Files.Tree).walk routesPath.directory = .ok ⟨Files.root, .directory⟩ ∧
      (start {} routesPath).SparesAll lateReports ∧ last.course.cancelled = false ∧
      (∀ t, last.course.run.move? last.course.service t = none) ∧ last.reports = 0 ∧
      ((start {} routesPath).log lateReports).count .begun = 3 ∧
      last.course.service.lookUp "h" "/a/x" = ("http://second/x", true) ∧
      Follows routesPath Files.root last := by
  have spares : (start {} routesPath).SparesAll lateReports := by
    simp [lateReports, SparesAll, SparesIn, SparesDirectories]
  have there : ({} : Files.Tree).walk routesPath.directory = .ok ⟨Files.root, .directory⟩ := by
    rfl
  have running : ((start {} routesPath).after lateReports).course.cancelled = false := rfl
  obtain ⟨follows, -⟩ := file_changes_reach_table {} routesPath Files.root tidy_empty there
    lateReports spares running
  exact ⟨tidy_empty, there, spares, running, Run.step?_eq_none_iff.mp rfl, rfl,
    by decide +kernel, by decide +kernel, follows⟩

end Reporting
end Signpost.Proofs

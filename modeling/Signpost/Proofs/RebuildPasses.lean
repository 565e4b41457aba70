import Signpost.Proofs.Course

/-!
# Passes of a run

A pass calls every provider once, one after the other, and then puts the table made of the answers
in place of the old one. A run does one pass after the other, and the table is that of the latest
one that is complete. A run that is told to stop gives up the pass that is under way.
-/

namespace Signpost.Proofs

/-- How many calls for the rules of each provider have begun. -/
def callCounts (s : Service) : List Nat :=
  s.members.map Member.calls

/-- What is noted of calls that were answered. -/
def callNotes (answers : List Answer) : List Note :=
  answers.zipIdx.flatMap fun (answer, i) => [.asked i, .answered i answer]

/-- What is noted of a pass that is complete. -/
def passNotes (answers : List Answer) : List Note :=
  .begun :: callNotes answers ++ [.replaced]

/-- What is noted of a pass that has some answers and waits for the next one. -/
def partNotes (answers : List Answer) : List Note :=
  .begun :: callNotes answers ++ [.asked answers.length]

/-- The table of the latest pass, or the first one if there was no pass. -/
def latestTable (first : Table) (passes : List (List Answer)) : Table :=
  (passes.getLast?.map Table.ofAnswers).getD first

/-- What is noted of the pass that is under way, or that the run gave up when it stopped. -/
inductive Underway (members : Nat) : Activity → List Note → Prop
  | waiting : Underway members .waiting []
  | exhausted : Underway members .exhausted []
  | rebuilding (answers : List Answer) (call : Call) (left : answers.length < members) :
      Underway members (.rebuilding (Table.ofAnswers answers) answers.length call)
        (partNotes answers)
  | stopped : Underway members .stopped []
  | interrupted (answers : List Answer) (left : answers.length < members) :
      Underway members .stopped (partNotes answers)

/-- The log is one complete pass after the other and the beginning of another one, and the table is
that of the latest complete pass. -/
structure Documented (first : Table) (s : Service) (activity : Activity) (log : List Note)
    (passes : List (List Answer)) (current : List Note) : Prop where
  log : log = passes.flatMap passNotes ++ current
  complete : ∀ answers ∈ passes, answers.length = s.members.length
  table : s.table = latestTable first passes
  underway : Underway s.members.length activity current

lemma callNotes_append (answers : List Answer) (answer : Answer) :
    callNotes (answers ++ [answer]) =
      callNotes answers ++ [.asked answers.length, .answered answers.length answer] := by
  simp [callNotes, List.zipIdx_append]

lemma ofAnswers_append (answers : List Answer) (answer : Answer) :
    Table.ofAnswers (answers ++ [answer]) =
      Table.ofAnswers answers ++ Table.contribution answer.1 answer.2 := by
  simp [Table.ofAnswers]

lemma latestTable_append (first : Table) (passes : List (List Answer)) (answers : List Answer) :
    latestTable first (passes ++ [answers]) = Table.ofAnswers answers := by
  simp [latestTable]

lemma underway_stopped {members : Nat} {activity : Activity} {current : List Note}
    (h : Underway members activity current) : Underway members .stopped current := by
  cases h with
  | waiting | exhausted | stopped => exact .stopped
  | rebuilding answers _ left => exact .interrupted answers left
  | interrupted answers left => exact .interrupted answers left

/-- A pass goes on to its next call, or it is complete. -/
theorem documented_goOn {first : Table} {s t : Service} {answers : List Answer}
    {log notes : List Note} {activity : Activity} {passes : List (List Answer)}
    (hlog : log = passes.flatMap passNotes ++ .begun :: callNotes answers)
    (complete : ∀ answers ∈ passes, answers.length = s.members.length)
    (table : s.table = latestTable first passes) (within : answers.length ≤ s.members.length)
    (on : GoOn s (Table.ofAnswers answers) answers.length notes t activity) :
    ∃ passes current, Documented first t activity (log ++ notes) passes current := by
  cases on with
  | ask member =>
    obtain ⟨left, -⟩ := List.getElem?_eq_some_iff.mp member
    refine ⟨passes, partNotes answers, ?_, ?_, table, ?_⟩
    · simp [hlog, partNotes]
    · simpa using complete
    · exact .rebuilding answers _ (by simpa using left)
  | replace all =>
    have full : answers.length = s.members.length :=
      Nat.le_antisymm within (List.getElem?_eq_none_iff.mp all)
    refine ⟨passes ++ [answers], [], ?_, ?_, (latestTable_append first passes answers).symm,
      .waiting⟩
    · simp [hlog, passNotes]
    · intro other mem
      rcases List.mem_append.mp mem with earlier | last
      · exact complete other earlier
      · rw [List.mem_singleton.mp last]
        exact full

theorem documented_rebuildStep {first : Table} {s t : Service} {r next : Run}
    {log notes : List Note} {passes : List (List Answer)} {current : List Note}
    (h : Documented first s r.activity log passes current) (step : RebuildStep s r notes t next) :
    ∃ passes current, Documented first t next.activity (log ++ notes) passes current := by
  obtain ⟨hlog, complete, table, underway⟩ := h
  cases step with
  | stop told =>
    exact ⟨passes, current, by simpa using hlog, complete, table, underway_stopped underway⟩
  | begin running waiting held on =>
    rw [waiting] at underway
    cases underway
    have on : GoOn s (Table.ofAnswers ([] : List Answer)) ([] : List Answer).length _ t _ := on
    rw [List.append_cons]
    apply documented_goOn ?_ complete table (Nat.zero_le _) on
    simp [hlog, callNotes]
  | exhaust running waiting empty ended =>
    rw [waiting] at underway
    cases underway
    exact ⟨passes, [], by simpa using hlog, complete, table, .exhausted⟩
  | @wait done i call later m p running busy member proceed =>
    rw [busy] at underway
    cases underway with
    | rebuilding answers _ left =>
      refine ⟨passes, partNotes answers, by simpa using hlog, ?_, table, ?_⟩
      · simpa [Service.setProvider] using complete
      · exact .rebuilding answers later (by simpa [Service.setProvider] using left)
  | @answer done i call m rules more _ activity running busy member proceed on =>
    rw [busy] at underway
    cases underway with
    | rebuilding answers _ left =>
      have on : GoOn s (Table.ofAnswers (answers ++ [(m.provider.origin, rules)]))
          (answers ++ [(m.provider.origin, rules)]).length more t activity := by
        rw [ofAnswers_append, List.length_append]
        exact on
      rw [List.append_cons]
      apply documented_goOn ?_ complete table ?_ on
      · simp [hlog, partNotes, callNotes_append]
      · simpa using Nat.succ_le_of_lt left

namespace Course

/-- What all steps but that of the run itself leave as it is. -/
structure Aside (c d : Course) : Prop where
  table : d.service.table = c.service.table
  calls : callCounts d.service = callCounts c.service
  underway : ∀ (members : Nat) (current : List Note),
    Underway members c.run.activity current → Underway members d.run.activity current

lemma callCounts_setProvider (s : Service) (i : Nat) (p : Provider) :
    callCounts (s.setProvider i p) = callCounts s :=
  map_setProvider fun _ _ => rfl

theorem step_cases (c : Course) (a : Act) :
    RebuildStep c.service c.run (c.notes a) (c.step a).service (c.step a).run ∨
      c.notes a = [] ∧ Aside c (c.step a) := by
  have step := stepTo_step c a
  generalize c.notes a = notes at step ⊢
  generalize c.step a = d at step ⊢
  cases step with
  | rebuild step => exact .inl step
  | feed | tell | script => exact .inr ⟨rfl, rfl, callCounts_setProvider _ _ _, fun _ _ => id⟩
  | still | forward | send | close | edit | pass | cancel =>
    exact .inr ⟨rfl, rfl, rfl, fun _ _ => id⟩
  | look busy _ =>
    refine .inr ⟨rfl, rfl, rfl, ?_⟩
    intro members current underway
    rw [busy] at underway
    cases underway with
    | rebuilding answers _ left => exact .rebuilding answers _ left

theorem documented_step {first : Table} {c : Course} {log : List Note}
    {passes : List (List Answer)} {current : List Note}
    (h : Documented first c.service c.run.activity log passes current) (a : Act) :
    ∃ passes current, Documented first (c.step a).service (c.step a).run.activity
      (log ++ c.notes a) passes current := by
  rcases step_cases c a with step | ⟨nothing, aside⟩
  · exact documented_rebuildStep h step
  · have length : (c.step a).service.members.length = c.service.members.length := by
      simpa [callCounts] using congrArg List.length aside.calls
    refine ⟨passes, current, by rw [nothing, List.append_nil, h.log], ?_, ?_, ?_⟩
    · rw [length]
      exact h.complete
    · rw [aside.table]
      exact h.table
    · rw [length]
      exact aside.underway _ _ h.underway

theorem documented_after {first : Table} {c : Course} {log : List Note}
    {passes : List (List Answer)} {current : List Note}
    (h : Documented first c.service c.run.activity log passes current) (acts : List Act) :
    ∃ passes current, Documented first (c.after acts).service (c.after acts).run.activity
      (log ++ c.log acts) passes current := by
  induction acts generalizing c log passes current with
  | nil => exact ⟨passes, current, by simpa [Course.log] using h⟩
  | cons a acts ih =>
    obtain ⟨passes, current, hstep⟩ := documented_step h a
    rw [Course.log, ← List.append_assoc]
    exact ih hstep

lemma count_goOn {s t : Service} {done : Table} {next : Nat} {notes : List Note}
    {activity : Activity} (on : GoOn s done next notes t activity) (i : Nat) :
    (callCounts t)[i]? = (callCounts s)[i]?.map (· + notes.count (.asked i)) := by
  cases on with
  | replace all => simp [callCounts, Function.comp_def]
  | @ask m member =>
    simp only [callCounts, List.getElem?_map, getElem?_set_of_getElem? member]
    by_cases hi : i = next
    · subst hi
      simp [member]
    · simp [hi, Ne.symm hi, Function.comp_def]

lemma count_step (c : Course) (a : Act) (i : Nat) :
    (callCounts (c.step a).service)[i]? =
      (callCounts c.service)[i]?.map (· + (c.notes a).count (.asked i)) := by
  rcases step_cases c a with step | ⟨nothing, aside⟩
  · generalize c.notes a = notes at step ⊢
    generalize (c.step a).service = t at step ⊢
    generalize (c.step a).run = next at step
    cases step with
    | stop | exhaust => simp
    | wait => simp [callCounts_setProvider]
    | begin _ _ _ on => simpa using count_goOn on i
    | answer _ _ _ _ on => simpa using count_goOn on i
  · simp [nothing, aside.calls]

/-- As many calls of a provider begin as are noted. -/
theorem count_after (c : Course) (acts : List Act) (i : Nat) :
    (callCounts (c.after acts).service)[i]? =
      (callCounts c.service)[i]?.map (· + (c.log acts).count (.asked i)) := by
  induction acts generalizing c with
  | nil => simp [log]
  | cons a acts ih =>
    rw [after_cons, ih, count_step, Option.map_map, log, List.count_append]
    congr 1
    funext n
    simp [Nat.add_assoc]

/-- A run that is told to stop leaves the table and begins no call. -/
lemma step_of_cancelled {c : Course} (told : c.cancelled = true) (a : Act) :
    (c.step a).service.table = c.service.table ∧ c.notes a = [] ∧
      callCounts (c.step a).service = callCounts c.service := by
  rcases step_cases c a with step | ⟨nothing, aside⟩
  · generalize c.notes a = notes at step ⊢
    generalize (c.step a).service = t at step ⊢
    generalize (c.step a).run = next at step
    rw [Course.cancelled] at told
    cases step with
    | stop => exact ⟨rfl, rfl, rfl⟩
    | begin running | exhaust running | wait running | answer running =>
      rw [told] at running
      cases running
  · exact ⟨aside.table, nothing, aside.calls⟩

theorem after_of_cancelled {c : Course} (told : c.cancelled = true) (acts : List Act) :
    (c.after acts).service.table = c.service.table ∧ c.log acts = [] ∧
      callCounts (c.after acts).service = callCounts c.service := by
  induction acts generalizing c with
  | nil => exact ⟨rfl, rfl, rfl⟩
  | cons a acts ih =>
    obtain ⟨table, notes, calls⟩ := step_of_cancelled told a
    obtain ⟨laterTable, laterNotes, laterCalls⟩ := ih (cancelled_step told a)
    exact ⟨laterTable.trans table, by rw [log, notes, laterNotes]; rfl, laterCalls.trans calls⟩

lemma callCounts_start (s : Service) (token : Nat) :
    callCounts (start s token).service = callCounts s := by
  apply List.ext_getElem
  · simp [callCounts, start, Service.start, Service.subscribe]
  · intro i _ _
    simp [callCounts, start, Service.start, Service.subscribe]

lemma documented_start (s : Service) (token : Nat) :
    Documented s.table (start s token).service (start s token).run.activity [] [] [] :=
  ⟨rfl, by simp, rfl, .waiting⟩

lemma length_after (c : Course) (acts : List Act) :
    (c.after acts).service.members.length = c.service.members.length := by
  have counts : callCounts (c.after acts).service = (callCounts c.service).mapIdx
      fun i n => n + (c.log acts).count (.asked i) := by
    apply List.ext_getElem?
    intro i
    rw [count_after, List.getElem?_mapIdx]
  simpa [callCounts] using congrArg List.length counts

/-- The table from which all queries are answered is always that of the latest complete pass, and
before the first one that of the service at the start, which is empty if the service is new. Passes
do not overlap, and each of them has called every provider once and in order, one call after the
other. A request to stop leaves the table as it is for good, and no call begins after it. -/
theorem snapshots_whole (s : Service) (token : Nat) (acts : List Act) :
    let c := (start s token).after acts
    (∃ (passes : List (List Answer)) (current : List Note),
      (start s token).log acts = passes.flatMap passNotes ++ current ∧
      (∀ answers ∈ passes, answers.length = s.members.length) ∧
      c.service.table = latestTable s.table passes ∧
      Underway s.members.length c.run.activity current) ∧
    (∀ i : Nat, (callCounts c.service)[i]? =
      (callCounts s)[i]?.map (· + ((start s token).log acts).count (.asked i))) ∧
    (∀ d : Course, (d = c ∨ ∃ k, d = c.step (.cancel k)) → d.cancelled = true →
      ∀ more : List Act, (d.after more).service.table = c.service.table ∧ d.log more = [] ∧
        callCounts (d.after more).service = callCounts c.service) := by
  intro c
  have length : c.service.members.length = s.members.length := by
    rw [length_after]
    simpa [callCounts] using congrArg List.length (callCounts_start s token)
  refine ⟨?_, ?_, ?_⟩
  · obtain ⟨passes, current, log, complete, table, underway⟩ :=
      documented_after (documented_start s token) acts
    rw [length] at complete underway
    exact ⟨passes, current, log, complete, table, underway⟩
  · intro i
    rw [← callCounts_start s token]
    exact count_after (start s token) acts i
  · rintro d (rfl | ⟨k, rfl⟩) told more
    · exact after_of_cancelled told more
    · exact after_of_cancelled told more

def ruleFor (server : String) : Rule :=
  { server, pattern := ⟨"", .empty, rfl⟩, target := "/", origin := .static }

/-- A provider with a rule and one that always fails. -/
def twoProviders : Service :=
  .ofProviders {} [.told { origin := .static, answer := .ok [ruleFor "a"] },
    .told { origin := .file, answer := .error (.docker .cancelled) }]

/-- A pass, during which the first provider gets another rule, and the beginning of a second one. -/
def twoPasses : List Act :=
  [.task (.forwarder 0), .task (.forwarder 0), .task .rebuild, .task .rebuild,
    .tell 0 { origin := .static, answer := .ok [ruleFor "b"] }, .task .rebuild,
    .task (.forwarder 1), .task (.forwarder 1), .task .rebuild, .task .rebuild]

theorem snapshots_whole_twoPasses :
    (start twoProviders 0).log twoPasses =
        passNotes [(.static, .ok [ruleFor "a"]), (.file, .error (.docker .cancelled))] ++
          partNotes [(.static, .ok [ruleFor "b"])] ∧
      (((start twoProviders 0).after twoPasses).step (.cancel 0)).cancelled = true ∧
      ((((start twoProviders 0).after twoPasses).step (.cancel 0)).after
        [.task .rebuild, .task .rebuild]).service.table = [ruleFor "a"] := by
  have told : (((start twoProviders 0).after twoPasses).step (.cancel 0)).cancelled = true := rfl
  obtain ⟨-, -, stopped⟩ := snapshots_whole twoProviders 0 twoPasses
  obtain ⟨table, -, -⟩ := stopped _ (.inr ⟨0, rfl⟩) told [.task .rebuild, .task .rebuild]
  have kept : ((start twoProviders 0).after twoPasses).service.table = [ruleFor "a"] := rfl
  exact ⟨rfl, told, table.trans kept⟩

end Course

end Signpost.Proofs

import Mathlib.Data.List.Induction
import Signpost.Proofs.CallOutcome
import Signpost.Proofs.RebuildPasses

/-!
# Composition of the table

The table that a pass puts in place holds the rules of all providers that answered with some, one
provider after the other. A provider that fails leaves no trace, and a query is answered by the
first provider that has a rule for it.
-/

namespace Signpost.Proofs

/-- The rules of the providers that answered with some, each with the origin that its provider
has. -/
def offered (answers : List Answer) : List (Origin × Rule) :=
  answers.flatMap fun answer =>
    match answer.2 with
    | .ok rules => rules.map fun r => (answer.1, r)
    | .error _ => []

/-- A rule as it stands in the table. -/
def entry (offer : Origin × Rule) : Rule :=
  { offer.2.extend with origin := offer.1 }

def composed (answers : List Answer) : Table :=
  (offered answers).map entry

/-- How many rules a provider has answered with. -/
def ruleCount (answer : Answer) : Nat :=
  match answer.2 with
  | .ok rules => rules.length
  | .error _ => 0

/-- The same answer with other origins written on its rules. -/
def relabelled (label : Rule → Origin) (answer : Answer) : Answer :=
  (answer.1, answer.2.map fun rules => rules.map fun r => { r with origin := label r })

lemma extend_relabelled (r : Rule) (origin : Origin) :
    ({ r with origin } : Rule).extend = { r.extend with origin } := by
  unfold Rule.extend
  have eligible : ({ r with origin } : Rule).isPrefixRule = r.isPrefixRule := rfl
  have longer : ({ r with origin } : Rule).longerSource = r.longerSource := rfl
  rw [eligible, longer]
  cases r.isPrefixRule with
  | false => rfl
  | true => cases Pattern.compile r.longerSource <;> rfl

lemma offered_append (first second : List Answer) :
    offered (first ++ second) = offered first ++ offered second :=
  List.flatMap_append

lemma composed_append (first second : List Answer) :
    composed (first ++ second) = composed first ++ composed second := by
  rw [composed, offered_append, List.map_append]
  rfl

lemma composed_cons (answer : Answer) (answers : List Answer) :
    composed (answer :: answers) = composed [answer] ++ composed answers :=
  composed_append [answer] answers

theorem ofAnswers_eq_composed (answers : List Answer) :
    Table.ofAnswers answers = composed answers := by
  induction answers with
  | nil => rfl
  | cons answer answers ih =>
    have first : Table.contribution answer.1 answer.2 = composed [answer] := by
      obtain ⟨origin, outcome⟩ := answer
      cases outcome with
      | error => rfl
      | ok rules => simp [Table.contribution, Table.ofSource, composed, offered, entry]
    rw [composed_cons, ← ih, ← first]
    rfl

lemma length_composed (answers : List Answer) :
    (composed answers).length = total ruleCount answers := by
  induction answers with
  | nil => rfl
  | cons answer answers ih =>
    have first : (composed [answer]).length = ruleCount answer := by
      obtain ⟨origin, outcome⟩ := answer
      cases outcome with
      | error => rfl
      | ok rules => simp [composed, offered, ruleCount]
    rw [composed_cons, List.length_append, ih, first]
    rfl

/-- What a provider fails with makes no difference, and neither does that it was asked. -/
lemma composed_failing (before after : List Answer) (origin : Origin) (fault : Source.Fault) :
    composed (before ++ (origin, .error fault) :: after) = composed (before ++ after) := by
  have nothing : composed [(origin, .error fault)] = [] := rfl
  rw [composed_append, composed_cons, nothing, List.nil_append, composed_append]

lemma composed_relabelled (label : Rule → Origin) (answers : List Answer) :
    composed (answers.map (relabelled label)) = composed answers := by
  induction answers with
  | nil => rfl
  | cons answer answers ih =>
    have first : composed [relabelled label answer] = composed [answer] := by
      obtain ⟨origin, outcome⟩ := answer
      cases outcome with
      | error => rfl
      | ok rules => simp [composed, offered, relabelled, entry, Except.map, extend_relabelled]
    rw [List.map_cons, composed_cons, first, ih, ← composed_cons]

/-- A query that the first rules answer is not passed on to the others; any other one is. -/
theorem lookUp_append (first second : Table) (server path : String) :
    Table.lookUp (first ++ second) server path =
      if (Table.lookUp first server path).2 then Table.lookUp first server path
      else Table.lookUp second server path := by
  induction first with
  | nil => rfl
  | cons r first ih =>
    simp only [List.cons_append, Table.lookUp]
    split
    · rfl
    · exact ih

namespace Course

/-- The latest pass that is complete has got these answers. -/
def LatestPass (s : Service) (token : Nat) (acts : List Act) (answers : List Answer) : Prop :=
  ∃ before current : List Note,
    (start s token).log acts = before ++ passNotes answers ++ current ∧ .replaced ∉ current

lemma length_start (s : Service) (token : Nat) :
    (start s token).service.members.length = s.members.length := by
  simpa [callCounts] using congrArg List.length (callCounts_start s token)

lemma append_cons_inj_of_last {α : Type} {a : α} {x y u v : List α} (hu : a ∉ u) (hv : a ∉ v)
    (h : x ++ a :: u = y ++ a :: v) : x = y ∧ u = v := by
  rcases List.append_eq_append_iff.mp h with ⟨z, rfl, hz⟩ | ⟨z, rfl, hz⟩
  · cases z with
    | nil => exact ⟨(List.append_nil x).symm, (List.cons.inj hz).2⟩
    | cons b z =>
      have mem : a ∈ u := by
        rw [(List.cons.inj hz).2]
        simp
      exact absurd mem hu
  · cases z with
    | nil => exact ⟨List.append_nil y, (List.cons.inj hz).2.symm⟩
    | cons b z =>
      have mem : a ∈ v := by
        rw [(List.cons.inj hz).2]
        simp
      exact absurd mem hv

lemma mem_callNotes {answers : List Answer} {note : Note} (mem : note ∈ callNotes answers) :
    note ≠ .begun ∧ note ≠ .replaced := by
  simp only [callNotes, List.mem_flatMap] at mem
  obtain ⟨⟨answer, i⟩, -, h⟩ := mem
  simp only [List.mem_cons, List.not_mem_nil, or_false] at h
  rcases h with rfl | rfl <;> simp

/-- The answer that is noted, if one is. -/
def answerNoted : Note → Option Answer
  | .answered _ answer => some answer
  | _ => none

lemma filterMap_callNotes (answers : List Answer) :
    (callNotes answers).filterMap answerNoted = answers := by
  induction answers using List.reverseRecOn with
  | nil => rfl
  | append_singleton answers answer ih =>
    rw [callNotes_append, List.filterMap_append, ih]
    rfl

/-- What is noted of a complete pass tells its answers. -/
lemma passNotes_inj {before before' current current' : List Note} {first second : List Answer}
    (unfinished : .replaced ∉ current) (unfinished' : .replaced ∉ current')
    (h : before ++ passNotes first ++ current = before' ++ passNotes second ++ current') :
    first = second := by
  have begins (answers : List Answer) (rest : List Note) (more : List Note) :
      rest ++ passNotes answers ++ more =
        (rest ++ .begun :: callNotes answers) ++ .replaced :: more := by
    simp [passNotes]
  rw [begins, begins] at h
  obtain ⟨h, -⟩ := append_cons_inj_of_last unfinished unfinished' h
  have silent (answers : List Answer) : .begun ∉ callNotes answers :=
    fun mem => (mem_callNotes mem).1 rfl
  obtain ⟨-, calls⟩ := append_cons_inj_of_last (silent first) (silent second) h
  rw [← filterMap_callNotes first, calls, filterMap_callNotes]

lemma replaced_notMem_of_underway {members : Nat} {activity : Activity} {current : List Note}
    (h : Underway members activity current) : .replaced ∉ current := by
  have part (answers : List Answer) : .replaced ∉ partNotes answers := by
    intro mem
    simp only [partNotes, List.cons_append, List.mem_cons, reduceCtorEq, List.mem_append,
      List.not_mem_nil, or_false, false_or] at mem
    exact (mem_callNotes mem).2 rfl
  cases h with
  | waiting | exhausted | stopped => exact List.not_mem_nil
  | rebuilding answers => exact part answers
  | interrupted answers => exact part answers

theorem table_of_latestPass {s : Service} {token : Nat} {acts : List Act} {answers : List Answer}
    (pass : LatestPass s token acts answers) :
    ((start s token).after acts).service.table = composed answers ∧
      answers.length = s.members.length := by
  obtain ⟨before, current, hlog, unfinished⟩ := pass
  obtain ⟨passes, last, log, complete, table, underway⟩ :=
    documented_after (documented_start s token) acts
  rw [length_after, length_start] at complete underway
  have unfinished' := replaced_notMem_of_underway underway
  rw [List.nil_append, hlog] at log
  have some : passes ≠ [] := by
    rintro rfl
    rw [List.flatMap_nil, List.nil_append] at log
    rw [← log] at unfinished'
    exact unfinished' (by simp [passNotes])
  obtain ⟨earlier, latest, rfl⟩ := (List.eq_nil_or_concat passes).resolve_left some
  rw [List.concat_eq_append] at log complete table
  rw [List.flatMap_append, List.flatMap_singleton] at log
  have same : answers = latest := passNotes_inj unfinished unfinished' log
  subst same
  refine ⟨?_, complete answers (by simp)⟩
  rw [table, latestTable_append, ofAnswers_eq_composed]

/-- The origins that the providers of a service have. -/
def origins (s : Service) : List Origin :=
  s.members.map fun m => m.provider.origin

/-- No provider is told to have another origin. -/
def KeepsOrigins (s : Service) (acts : List Act) : Prop :=
  ∀ i t, .tell i t ∈ acts → (origins s)[i]? = some t.origin

lemma origins_setProvider {s : Service} {i : Nat} {m : Member} {p : Provider}
    (member : s.members[i]? = some m) (same : p.origin = m.provider.origin) :
    origins (s.setProvider i p) = origins s := by
  apply map_setProvider
  intro other hother
  obtain rfl : m = other := by simpa [member] using hother
  exact same

lemma origins_goOn {s t : Service} {done : Table} {next : Nat} {notes : List Note}
    {activity : Activity} (on : GoOn s done next notes t activity) :
    origins t = origins s ∧ ∀ i answer, .answered i answer ∉ notes := by
  cases on with
  | replace => exact ⟨rfl, by simp⟩
  | @ask m member =>
    refine ⟨?_, by simp⟩
    have same : (m.provider.call s.now s.files s.stopsCalls).1.origin = m.provider.origin := by
      cases m.provider with
      | told | static | file => rfl
      | docker settings d => cases hstop : s.stopsCalls <;> rfl
    exact map_set_of_getElem? member same

lemma origins_step {c : Course} {a : Act}
    (keeps : ∀ i t, a = .tell i t → (origins c.service)[i]? = some t.origin) :
    origins (c.step a).service = origins c.service ∧
      ∀ i answer, .answered i answer ∈ c.notes a → (origins c.service)[i]? = some answer.1 := by
  have step := stepTo_step c a
  generalize c.notes a = notes at step ⊢
  generalize c.step a = d at step ⊢
  cases step with
  | still | forward | send | close | look | edit | pass | cancel => exact ⟨rfl, by simp⟩
  | rebuild step =>
    cases step with
    | stop | exhaust => exact ⟨rfl, by simp⟩
    | wait _ _ member proceed =>
      rcases willAnswer_proceed? proceed with ⟨rules, h, -⟩ | ⟨q, later, h, same, -⟩
      · cases h
      · cases h
        exact ⟨origins_setProvider member same, by simp⟩
    | begin _ _ _ on =>
      obtain ⟨same, silent⟩ := origins_goOn on
      exact ⟨same, by simp [silent]⟩
    | answer _ _ member _ on =>
      obtain ⟨same, silent⟩ := origins_goOn on
      refine ⟨same, ?_⟩
      intro i answer mem
      rw [List.mem_cons] at mem
      rcases mem with h | h
      · cases h
        simp [origins, member]
      · exact absurd h (silent i answer)
  | @feed i m p _ _ member again =>
    refine ⟨origins_setProvider member ?_, by simp⟩
    obtain ⟨provider, calls, subscriptions⟩ := m
    cases again <;> rfl
  | @tell i m before t member =>
    refine ⟨origins_setProvider member ?_, by simp⟩
    have kept := keeps i t rfl
    simp only [origins, List.getElem?_map, member, Option.map_some, Option.some.injEq] at kept
    exact kept.symm
  | script member docker =>
    refine ⟨origins_setProvider member ?_, by simp⟩
    rw [docker]
    rfl

theorem origins_after {c : Course} {acts : List Act}
    (keeps : ∀ i t, .tell i t ∈ acts → (origins c.service)[i]? = some t.origin) :
    origins (c.after acts).service = origins c.service ∧
      ∀ i answer, .answered i answer ∈ c.log acts → (origins c.service)[i]? = some answer.1 := by
  induction acts generalizing c with
  | nil => exact ⟨rfl, by simp [log]⟩
  | cons a acts ih =>
    obtain ⟨same, noted⟩ := origins_step fun i t h => keeps i t (h ▸ List.mem_cons_self ..)
    obtain ⟨later, laterNoted⟩ := ih (c := c.step a) fun i t mem => by
      rw [same]
      exact keeps i t (List.mem_cons_of_mem _ mem)
    rw [same] at later laterNoted
    refine ⟨later, ?_⟩
    intro i answer mem
    rw [log, List.mem_append] at mem
    rcases mem with now | after
    · exact noted i answer now
    · exact laterNoted i answer after

lemma origins_start (s : Service) (token : Nat) : origins (start s token).service = origins s := by
  have kept (p : Provider) : (Subscription.start s.files p).provider.origin = p.origin := by
    cases p <;> rfl
  apply List.ext_getElem
  · simp [origins, start, Service.start, Service.subscribe]
  · intro i _ _
    simp [origins, start, Service.start, Service.subscribe, kept]

lemma answered_of_latestPass {s : Service} {token : Nat} {acts : List Act} {answers : List Answer}
    (pass : LatestPass s token acts answers) {i : Nat} {answer : Answer}
    (hi : answers[i]? = some answer) : .answered i answer ∈ (start s token).log acts := by
  obtain ⟨before, current, hlog, -⟩ := pass
  rw [hlog]
  simp only [passNotes, callNotes, List.mem_append, List.mem_cons, List.mem_flatMap]
  exact .inl (.inr (.inl (.inr ⟨(answer, i), List.mem_zipIdx_iff_getElem?.mpr hi, by simp⟩)))

/-- Each answer of a pass comes with the origin of the provider that gave it. -/
theorem origins_of_latestPass {s : Service} {token : Nat} {acts : List Act} {answers : List Answer}
    (pass : LatestPass s token acts answers) (keeps : KeepsOrigins s acts) :
    answers.map Prod.fst = origins s := by
  obtain ⟨-, length⟩ := table_of_latestPass pass
  rw [KeepsOrigins, ← origins_start s token] at keeps
  obtain ⟨-, noted⟩ := origins_after keeps
  apply List.ext_getElem?
  intro i
  rw [List.getElem?_map]
  cases hi : answers[i]? with
  | none =>
    have beyond : s.members.length ≤ i := length ▸ List.getElem?_eq_none_iff.mp hi
    simp [origins, List.getElem?_eq_none beyond]
  | some answer =>
    rw [← origins_start s token, noted i answer (answered_of_latestPass pass hi)]
    rfl

/-- A provider that is told to answer at once. -/
def teller (answer : Answer) : Provider :=
  .told { origin := answer.1, answer := answer.2 }

def tellers (answers : List Answer) : Service :=
  .ofProviders {} (answers.map teller)

/-- The first provider signals, and the run does a pass over so many providers. -/
def firstPass (providers : Nat) : List Act :=
  .task (.forwarder 0) :: .task (.forwarder 0) :: List.replicate (providers + 1) (.task .rebuild)

/-- Providers that answer a call at once. -/
inductive Prompt : Provider → Prop
  | told (answer : Answer) : Prompt (teller answer)
  | static (lines : List String) : Prompt (.static lines)
  | file (path : Files.Path) : Prompt (.file path)

/-- What a provider answers to a call that finds these files. -/
def answerFrom (files : Files.Tree) (p : Provider) : Answer :=
  (p.origin, p.list files)

lemma call_of_prompt {p : Provider} (prompt : Prompt p) (now : Nat) (files : Files.Tree)
    (stopped : Bool) : p.call now files stopped = (p, .ready now (answerFrom files p).2) := by
  cases prompt <;> rfl

lemma exists_member {s : Service} {ps : List Provider} {i : Nat} {p : Provider}
    (providers : s.members.map Member.provider = ps) (hi : ps[i]? = some p) :
    ∃ m, s.members[i]? = some m ∧ m.provider = p := by
  rw [← providers, List.getElem?_map] at hi
  exact Option.map_eq_some_iff.mp hi

/-- A call whose answer is there is answered. -/
lemma step_of_ready {c : Course} {done : Table} {next due : Nat} {m : Member}
    {answer : Except Source.Fault (List Rule)} (running : c.cancelled = false)
    (member : c.service.members[next]? = some m)
    (busy : c.run.activity = .rebuilding done next (.ready due answer))
    (ready : due ≤ c.service.now) :
    let on := c.service.goOn (done ++ Table.contribution m.provider.origin answer) (next + 1)
    c.step (.task .rebuild) = ⟨on.1, { c.run with activity := on.2 }⟩ ∧
      c.notes (.task .rebuild) =
        .answered next (m.provider.origin, answer) :: goOnNotes c.service (next + 1) := by
  intro on
  rw [cancelled] at running
  have proceed : m.provider.proceed? c.service.now c.service.stopsCalls (.ready due answer) =
      some (.answer answer) := by
    rw [Provider.proceed?, if_pos ready]
  constructor
  · apply step_task_of_some
    simp only [Run.move?, Run.rebuild?, busy, running, Bool.false_eq_true, if_false, Run.answer?,
      member, proceed]
    rfl
  · simp only [notes, rebuildNotes, busy, running, Bool.false_eq_true, if_false, member, proceed]

lemma goOn_of_prompt (s : Service) (done : Table) {next : Nat} {m : Member}
    (member : s.members[next]? = some m) (prompt : Prompt m.provider) :
    s.goOn done next =
      ({ s with members := s.members.set next { m with calls := m.calls + 1 } },
        .rebuilding done next (.ready s.now (answerFrom s.files m.provider).2)) := by
  simp only [Service.goOn, Service.call?, member, call_of_prompt prompt]

/-- A pass over providers that answer at once goes on to its end. -/
lemma log_replicate_rebuild {c : Course} (done : Table) (due : Nat) (before rest : List Provider)
    (p : Provider) (running : c.cancelled = false) (prompt : ∀ q ∈ rest, Prompt q)
    (providers : c.service.members.map Member.provider = before ++ p :: rest)
    (busy : c.run.activity =
      .rebuilding done before.length (.ready due (answerFrom c.service.files p).2))
    (ready : due ≤ c.service.now) :
    callNotes (before.map (answerFrom c.service.files)) ++ .asked before.length ::
        c.log (List.replicate (rest.length + 1) (.task .rebuild)) =
      callNotes ((before ++ p :: rest).map (answerFrom c.service.files)) ++ [.replaced] := by
  induction rest generalizing c done due before p with
  | nil =>
    have here : (before ++ [p])[before.length]? = some p := by simp
    obtain ⟨m, member, rfl⟩ := exists_member providers here
    obtain ⟨-, noted⟩ := step_of_ready running member busy ready
    have all : c.service.members[before.length + 1]? = none := by
      have length := congrArg List.length providers
      simp only [List.length_map, List.length_append, List.length_singleton] at length
      exact List.getElem?_eq_none (Nat.le_of_eq length)
    have last : goOnNotes c.service (before.length + 1) = [.replaced] := by
      rw [goOnNotes, all]
    simp only [List.length_nil, Nat.zero_add, List.replicate_one, log, noted, last, List.map_append,
      List.map_singleton, callNotes_append, List.length_map, List.append_nil, List.append_assoc,
      List.cons_append, List.nil_append, answerFrom]
  | cons q rest ih =>
    have here : (before ++ p :: q :: rest)[before.length]? = some p := by simp
    have there : (before ++ p :: q :: rest)[before.length + 1]? = some q := by simp
    obtain ⟨m, member, rfl⟩ := exists_member providers here
    obtain ⟨n, following, rfl⟩ := exists_member providers there
    obtain ⟨hstep, noted⟩ := step_of_ready running member busy ready
    rw [goOn_of_prompt c.service _ following (prompt _ (List.mem_cons_self ..))] at hstep
    have asked : goOnNotes c.service (before.length + 1) = [.asked (before.length + 1)] := by
      rw [goOnNotes, following]
    have later : (c.step (.task .rebuild)).service.members.map Member.provider =
        (before ++ [m.provider]) ++ n.provider :: rest := by
      rw [hstep, List.append_assoc]
      dsimp only
      rw [map_set_of_getElem? following]
      · exact providers
      · rfl
    have files : (c.step (.task .rebuild)).service.files = c.service.files := by rw [hstep]
    have hrest := ih (done ++ Table.contribution m.provider.origin (answerFrom c.service.files
        m.provider).2) c.service.now (before ++ [m.provider]) n.provider
      (by rw [hstep]; exact running) (fun q mem => prompt q (List.mem_cons_of_mem _ mem)) later
      (by rw [hstep, List.length_append]; rfl) (Nat.le_of_eq (by rw [hstep]))
    rw [files, List.append_assoc, List.singleton_append, List.map_append, List.map_singleton,
      callNotes_append, List.length_append, List.length_map] at hrest
    rw [← hrest, List.length_cons, List.replicate_succ, log, noted, asked]
    simp [answerFrom]

lemma providers_start {ps : List Provider} (prompt : ∀ p ∈ ps, Prompt p) (files : Files.Tree)
    (token : Nat) :
    (start (.ofProviders files ps) token).service.members.map Member.provider = ps := by
  have subscribed (p : Provider) (h : Prompt p) : (Subscription.start files p).provider = p := by
    cases h <;> rfl
  apply List.ext_getElem
  · simp [start, Service.start, Service.subscribe, Service.ofProviders]
  · intro i _ hi
    simp [start, Service.start, Service.subscribe, Service.ofProviders,
      subscribed _ (prompt _ (List.getElem_mem hi))]

/-- The first provider has signalled, and the run has asked it. -/
def opening : List Act :=
  [.task (.forwarder 0), .task (.forwarder 0), .task .rebuild]

/-- A run that is starting with a provider that has a signal to send. -/
def signalling (files : Files.Tree) (p : Provider) (members : List Member) (feeds : List Feed)
    (channels : List Signal.Channel) : Course where
  service :=
    { files := files
      tokens := [false]
      members := { provider := p, subscriptions := 1 } :: members }
  run := { token := 0, feeds := feeds, merge := .ofChannels (.holding 1 1 :: channels) }

lemma start_of_prompt (files : Files.Tree) {p : Provider} (prompt : Prompt p)
    (ps : List Provider) : ∃ feeds channels, start (.ofProviders files (p :: ps)) 0 =
      signalling files p (start (.ofProviders files ps) 0).service.members feeds channels := by
  cases prompt <;> exact ⟨_, _, rfl⟩

lemma opening_of_prompt (files : Files.Tree) {p : Provider} (prompt : Prompt p)
    (members : List Member) (feeds : List Feed) (channels : List Signal.Channel) :
    let c := signalling files p members feeds channels
    let opened := c.after opening
    c.log opening = [.begun, .asked 0] ∧ opened.cancelled = false ∧
      opened.service.files = files ∧
      opened.service.members.map Member.provider = p :: members.map Member.provider ∧
      opened.run.activity = .rebuilding [] 0 (.ready 0 (answerFrom files p).2) := by
  cases prompt <;> exact ⟨rfl, rfl, rfl, rfl, rfl⟩

/-- Providers that answer at once answer in one pass, with the files as they are. -/
theorem latestPass_of_prompt {ps : List Provider} (some : ps ≠ []) (prompt : ∀ p ∈ ps, Prompt p)
    (files : Files.Tree) : LatestPass (.ofProviders files ps) 0 (firstPass ps.length)
      (ps.map (answerFrom files)) := by
  obtain ⟨p, rest, rfl⟩ := List.exists_cons_of_ne_nil some
  obtain ⟨first, others⟩ := List.forall_mem_cons.mp prompt
  obtain ⟨feeds, channels, hstart⟩ := start_of_prompt files first rest
  obtain ⟨begun, running, tree, providers, busy⟩ := opening_of_prompt files first
    (start (.ofProviders files rest) 0).service.members feeds channels
  rw [← hstart] at begun running tree providers busy
  rw [providers_start others] at providers
  have hrest := log_replicate_rebuild [] 0 [] rest p running others providers
    (by rw [tree]; exact busy) (Nat.zero_le _)
  have none : callNotes [] = [] := rfl
  rw [tree, List.map_nil, none, List.nil_append, List.nil_append, List.length_nil] at hrest
  have split : firstPass (p :: rest).length =
      opening ++ List.replicate (rest.length + 1) (.task .rebuild) := rfl
  refine ⟨[], [], ?_, List.not_mem_nil⟩
  simp only [split, log_append, begun, passNotes, List.cons_append, List.nil_append,
    List.append_nil, ← hrest]

/-- Any answers can be those of a pass. -/
theorem exists_latestPass {answers : List Answer} (some : answers ≠ []) :
    LatestPass (tellers answers) 0 (firstPass answers.length) answers := by
  have tell : ∀ p ∈ answers.map teller, Prompt p := by
    intro p mem
    obtain ⟨answer, -, rfl⟩ := List.mem_map.mp mem
    exact .told answer
  have pass := latestPass_of_prompt (by simpa using some) tell {}
  have same : (answers.map teller).map (answerFrom {}) = answers := by
    rw [List.map_map]
    exact List.map_id answers
  rwa [same, List.length_map] at pass

/-- Any answers can be those of a pass. The table after a pass holds the rules of all providers that
answered with some, spelled out and with the origin of their provider, in the order of the providers
and of their rules. The providers that failed make no difference. A query is answered by the rules
of the first providers if they answer it, and else by those of the others. -/
theorem table_composed (answers : List Answer) :
    (answers ≠ [] → ∃ s token acts, LatestPass s token acts answers) ∧
    (∀ s token acts, LatestPass s token acts answers →
      let t := ((start s token).after acts).service
      answers.length = s.members.length ∧
      (KeepsOrigins s acts → answers.map Prod.fst = origins s) ∧
      t.table = composed answers ∧
      t.table.length = total ruleCount answers ∧
      (∀ label, t.table = composed (answers.map (relabelled label))) ∧
      (∀ before after origin fault, answers = before ++ (origin, .error fault) :: after →
        t.table = composed (before ++ after)) ∧
      (∀ first second server path, answers = first ++ second →
        t.lookUp server path =
          if ((composed first).lookUp server path).2 then (composed first).lookUp server path
          else (composed second).lookUp server path)) := by
  refine ⟨fun some => ⟨_, _, _, exists_latestPass some⟩, ?_⟩
  intro s token acts pass t
  obtain ⟨table, length⟩ := table_of_latestPass pass
  have table : t.table = composed answers := table
  refine ⟨length, origins_of_latestPass pass, table, ?_, ?_, ?_, ?_⟩
  · rw [table, length_composed]
  · intro label
    rw [table, composed_relabelled]
  · rintro before after origin fault rfl
    rw [table, composed_failing]
  · rintro first second server path rfl
    rw [Service.lookUp, table, composed_append, lookUp_append]

/-- A provider that fails between two that have a rule for the same queries. -/
def threeAnswers : List Answer :=
  [(.static, .ok [ruleFor "a"]), (.docker, .error (.docker .cancelled)),
    (.file, .ok [ruleFor "a", ruleFor "b"])]

theorem table_composed_threeAnswers :
    LatestPass (tellers threeAnswers) 0 (firstPass 3) threeAnswers ∧
      ((start (tellers threeAnswers) 0).after (firstPass 3)).service.table =
        [{ ruleFor "a" with origin := .static }, { ruleFor "a" with origin := .file },
          { ruleFor "b" with origin := .file }] := by
  have pass : LatestPass (tellers threeAnswers) 0 (firstPass 3) threeAnswers :=
    exists_latestPass (List.cons_ne_nil _ _)
  obtain ⟨-, composition⟩ := table_composed threeAnswers
  obtain ⟨-, -, table, -⟩ := composition _ _ _ pass
  exact ⟨pass, table.trans rfl⟩

end Course
end Signpost.Proofs

import Signpost.Proofs.CallOutcome
import Signpost.Proofs.PendingSignals
import Signpost.Proofs.RebuildPasses

/-!
# Convergence of the table

The table is made of answers that may be out of date. While the answers stay the same, either a
signal is on its way, or all that the run has is up to date: the answers of the pass in progress and
that of the call under way, or the table.
-/

namespace Signpost.Proofs
open Signal

/-- What the providers would answer now. -/
def answers (s : Service) : List Answer :=
  s.members.map fun m => (m.provider.origin, answerOf s m.provider)

/-- What a run has is what the providers would answer now. -/
inductive Fresh (s : Service) : Activity → Prop
  | waiting (table : s.table = Table.ofAnswers (answers s)) : Fresh s .waiting
  | exhausted (table : s.table = Table.ofAnswers (answers s)) : Fresh s .exhausted
  | rebuilding {next : Nat} {call : Call} {m : Member} (member : s.members[next]? = some m)
      (same : Table.contribution m.provider.origin (willAnswer s.stopsCalls m.provider call) =
        Table.contribution m.provider.origin (answerOf s m.provider)) :
      Fresh s (.rebuilding (Table.ofAnswers ((answers s).take next)) next call)

lemma getElem?_answers {s : Service} {k : Nat} {m : Member} (member : s.members[k]? = some m) :
    (answers s)[k]? = some (m.provider.origin, answerOf s m.provider) := by
  simp [answers, member]

/-- What a provider would answer is the same when all answers are. -/
lemma answer_eq {s t : Service} (same : answers t = answers s) {k : Nat} {m after : Member}
    (member : s.members[k]? = some m) (later : t.members[k]? = some after) :
    after.provider.origin = m.provider.origin ∧
      answerOf t after.provider = answerOf s m.provider := by
  have h := getElem?_answers later
  rw [same, getElem?_answers member] at h
  simpa using h.symm

/-- How a step of others can change what a call under way will answer: not at all, or to what the
provider would answer now. -/
def Keeps (s t : Service) : Prop :=
  ∀ (k : Nat) (m : Member), s.members[k]? = some m → ∃ after, t.members[k]? = some after ∧
    ∀ (origin : Origin) (call : Call),
      Table.contribution origin (willAnswer t.stopsCalls after.provider call) =
        Table.contribution origin (willAnswer s.stopsCalls m.provider call) ∨
      Table.contribution origin (willAnswer t.stopsCalls after.provider call) =
        Table.contribution origin (answerOf t after.provider)

theorem fresh_of_keeps {s t : Service} {activity : Activity} (h : Fresh s activity)
    (table : t.table = s.table) (same : answers t = answers s) (keeps : Keeps s t) :
    Fresh t activity := by
  cases h with
  | waiting fresh => exact .waiting (by rw [table, same, fresh])
  | exhausted fresh => exact .exhausted (by rw [table, same, fresh])
  | @rebuilding next call m member fresh =>
    obtain ⟨after, later, hcall⟩ := keeps next m member
    obtain ⟨origin, answer⟩ := answer_eq same member later
    rw [← same]
    refine .rebuilding later ?_
    rcases hcall after.provider.origin call with unchanged | current
    · rw [unchanged, answer, origin, fresh]
    · exact current

lemma keeps_of_members {s t : Service} (members : t.members = s.members)
    (stops : t.stopsCalls = s.stopsCalls) : Keeps s t := by
  intro k m member
  refine ⟨m, by rw [members, member], ?_⟩
  intro origin call
  rw [stops]
  exact .inl rfl

lemma keeps_setProvider {s : Service} {i : Nat} {m : Member} {p : Provider}
    (member : s.members[i]? = some m)
    (alike : ∀ stopped call, willAnswer stopped p call = willAnswer stopped m.provider call) :
    Keeps s (s.setProvider i p) := by
  intro k other found
  by_cases hk : i = k
  · subst hk
    rw [found] at member
    cases member
    refine ⟨{ m with provider := p }, by simp [getElem?_setProvider, found], ?_⟩
    intro origin call
    exact .inl (congrArg (Table.contribution origin) (alike s.stopsCalls call))
  · exact ⟨other, by simp [getElem?_setProvider, found, hk], fun _ _ => .inl rfl⟩

/-- Calls that are told to stop contribute nothing, and neither would new ones. -/
lemma keeps_cancel (s : Service) (token : Nat) : Keeps s (s.cancel token) := by
  by_cases stops : (s.cancel token).stopsCalls = s.stopsCalls
  · exact keeps_of_members rfl stops
  · have now : (s.cancel token).stopsCalls = true := by
      cases before : s.stopsCalls with
      | true => exact isCancelled_cancel token before
      | false => simpa [before] using stops
    intro k m member
    refine ⟨m, member, ?_⟩
    intro origin call
    rw [now]
    cases call with
    | ready => exact .inl (by rw [willAnswer_ready, willAnswer_ready])
    | asking phase =>
      cases hp : m.provider with
      | told | static | file => exact .inl rfl
      | docker settings d =>
        refine .inr ?_
        simp only [willAnswer, answerOf, now, if_true, Table.contribution]

/-- A pass whose answers so far are up to date begins a call whose answer is, or puts a table in
place that is. -/
theorem fresh_goOn {s t : Service} {done : Table} {next : Nat} {notes : List Note}
    {activity : Activity} (on : GoOn s done next notes t activity)
    (current : done = Table.ofAnswers ((answers s).take next)) (same : answers t = answers s) :
    Fresh t activity := by
  subst current
  cases on with
  | @ask m member =>
    have later := getElem?_set_of_getElem? member { m with
      provider := (m.provider.call s.now s.files s.stopsCalls).1, calls := m.calls + 1 } next
    rw [if_pos rfl] at later
    obtain ⟨-, answer⟩ := answer_eq same member later
    rw [← same]
    refine .rebuilding later ?_
    rw [answer]
    exact congrArg (Table.contribution _) (willAnswer_call s m.provider)
  | replace all =>
    have full : (answers s).take next = answers s := by
      apply List.take_of_length_le
      simpa [answers] using List.getElem?_eq_none_iff.mp all
    refine .waiting ?_
    rw [same, full]

/-- The answers stay the same, and no daemon is given other ones. -/
def Course.Steady (c : Course) : List Course.Act → Prop
  | [] => True
  | a :: acts => (∀ i lists, a ≠ .script i lists) ∧
      answers (c.step a).service = answers c.service ∧ (c.step a).Steady acts

theorem fresh_rebuildStep {s t : Service} {r next : Run} {notes : List Note}
    (step : RebuildStep s r notes t next) (running : s.isCancelled r.token = false)
    (same : answers t = answers s) (h : Fresh s r.activity ∨ .begun ∈ notes) :
    Fresh t next.activity := by
  cases step with
  | stop told =>
    rw [told] at running
    cases running
  | begin _ _ _ on => exact fresh_goOn on rfl same
  | exhaust _ waiting =>
    have fresh := h.resolve_right List.not_mem_nil
    rw [waiting] at fresh
    cases fresh with
    | waiting table => exact .exhausted table
  | @wait _ i call later m p _ busy member proceed =>
    have fresh := h.resolve_right List.not_mem_nil
    rw [busy] at fresh
    cases fresh with
    | rebuilding found fresh =>
      rw [found] at member
      cases member
      have after : (s.setProvider i p).members[i]? = some { m with provider := p } := by
        simp [getElem?_setProvider, found]
      obtain ⟨origin, answer⟩ := answer_eq same found after
      rw [← same]
      refine .rebuilding after ?_
      rw [answer, origin, ← fresh]
      rcases willAnswer_proceed? proceed with ⟨rules, hanswer, -⟩ | ⟨q, other, hwait, -, hsame⟩
      · cases hanswer
      · cases hwait
        exact congrArg (Table.contribution _) hsame
  | @answer _ i call m rules more _ activity _ busy member proceed on =>
    have fresh := h.resolve_right (by cases on <;> simp)
    rw [busy] at fresh
    cases fresh with
    | rebuilding found fresh =>
      rw [found] at member
      cases member
      rcases willAnswer_proceed? proceed with ⟨_, hanswer, hrules⟩ | ⟨q, other, hwait, -⟩
      · cases hanswer
        have grown : Table.ofAnswers ((answers s).take i) ++
            Table.contribution m.provider.origin rules =
              Table.ofAnswers ((answers s).take (i + 1)) := by
          rw [List.take_add_one, getElem?_answers found, Option.toList_some, ofAnswers_append,
            hrules, fresh]
        exact fresh_goOn on grown same
      · cases hwait

namespace Course

theorem fresh_step {c : Course} {a : Act} (running : c.cancelled = false)
    (given : ∀ i lists, a ≠ .script i lists)
    (same : answers (c.step a).service = answers c.service)
    (h : Fresh c.service c.run.activity ∨ .begun ∈ c.notes a) :
    Fresh (c.step a).service (c.step a).run.activity := by
  have step := stepTo_step c a
  generalize c.notes a = notes at step h
  generalize c.step a = d at step same ⊢
  cases step with
  | rebuild step => exact fresh_rebuildStep step running same h
  | still => exact h.resolve_right List.not_mem_nil
  | script => exact absurd rfl (given _ _)
  | forward | send | close | pass | edit =>
    have fresh := h.resolve_right List.not_mem_nil
    exact fresh_of_keeps fresh rfl same (keeps_of_members rfl rfl)
  | cancel token =>
    have fresh := h.resolve_right List.not_mem_nil
    exact fresh_of_keeps fresh rfl same (keeps_cancel c.service token)
  | feed member again =>
    have fresh := h.resolve_right List.not_mem_nil
    refine fresh_of_keeps fresh rfl same (keeps_setProvider member ?_)
    intro stopped call
    exact willAnswer_resubscribed again stopped call
  | tell member told =>
    have fresh := h.resolve_right List.not_mem_nil
    refine fresh_of_keeps fresh rfl same (keeps_setProvider member ?_)
    intro stopped call
    rw [told]
    cases call <;> rfl
  | look busy member =>
    have fresh := h.resolve_right List.not_mem_nil
    rw [busy] at fresh
    cases fresh with
    | rebuilding found =>
      rw [found] at member
      cases member
      exact .rebuilding found (by rw [willAnswer_ready])

/-- While the answers stay the same, a signal is on its way or what the run has is up to date. -/
theorem fresh_after {c : Course} (sound : Sound c) {acts : List Act} (steady : c.Steady acts)
    (running : (c.after acts).cancelled = false)
    (h : 0 < undelivered c.run.merge ∨ Fresh c.service c.run.activity) :
    0 < undelivered (c.after acts).run.merge ∨
      Fresh (c.after acts).service (c.after acts).run.activity := by
  induction acts generalizing c with
  | nil => exact h
  | cons a acts ih =>
    obtain ⟨given, same, rest⟩ := steady
    have now : c.cancelled = false := running_of_step (running_of_after running)
    apply ih (sound_step sound a) rest running
    rcases h with pending | fresh
    · rcases undelivered_step sound (running_of_after running) with le | begun
      · exact .inl (Nat.lt_of_lt_of_le pending le)
      · exact .inr (fresh_step now given same (.inr begun))
    · exact .inr (fresh_step now given same (.inl fresh))

/-- The table of an idle run is what the run has. -/
lemma table_of_fresh {c : Course} (sound : Sound c) (running : c.cancelled = false) (idle : c.Idle)
    (fresh : Fresh c.service c.run.activity) :
    c.service.table = Table.ofAnswers (answers c.service) := by
  rcases activity_of_idle sound running idle with waiting | exhausted
  · rw [waiting] at fresh
    cases fresh with
    | waiting table => exact table
  · rw [exhausted] at fresh
    cases fresh with
    | exhausted table => exact table

theorem table_of_idle {c : Course} (sound : Sound c) {acts : List Act} (steady : c.Steady acts)
    (running : (c.after acts).cancelled = false) (idle : (c.after acts).Idle)
    (pending : 0 < undelivered c.run.merge) :
    (c.after acts).service.table = Table.ofAnswers (answers (c.after acts).service) := by
  have soundThen := sound_after sound acts
  rcases fresh_after sound steady running (.inl pending) with later | fresh
  · rw [undelivered_of_idle soundThen running idle] at later
    cases later
  · exact table_of_fresh soundThen running idle fresh

lemma getLast?_passes {passes : List (List Answer)} (nonempty : passes ≠ []) :
    (passes.flatMap passNotes).getLast? = some .replaced := by
  obtain ⟨earlier, last, rfl⟩ := (List.eq_nil_or_concat passes).resolve_left nonempty
  rw [List.concat_eq_append, List.flatMap_append, List.flatMap_singleton, passNotes,
    ← List.append_assoc]
  exact List.getLast?_concat

/-- An idle run has completed the pass that it noted last. -/
theorem getLast?_log_of_idle {s : Service} {token : Nat} {before more : List Act}
    (running : (((start s token).after before).after more).cancelled = false)
    (idle : (((start s token).after before).after more).Idle)
    (noted : ((start s token).after before).log more ≠ []) :
    (((start s token).after before).log more).getLast? = some .replaced := by
  rw [← after_append] at running idle
  obtain ⟨passes, current, hlog, -, -, underway⟩ :=
    documented_after (documented_start s token) (before ++ more)
  have nothing : current = [] := by
    rcases activity_of_idle (sound_after (sound_start s token) (before ++ more)) running idle
      with waiting | exhausted
    · rw [waiting] at underway
      cases underway
      rfl
    · rw [exhausted] at underway
      cases underway
      rfl
  rw [List.nil_append, log_append, nothing, List.append_nil] at hlog
  have nonempty : passes ≠ [] := by
    rintro rfl
    exact noted (List.append_eq_nil_iff.mp hlog).2
  have last := getLast?_passes nonempty
  rw [← hlog, List.getLast?_append_of_ne_nil _ noted] at last
  exact last

/-- After a signal is handed to a channel a pass begins, whatever the run is doing then. If the
answers stay the same from then on, the table of an idle run is what the providers would answer. The
same holds for signals that are there when the run starts. -/
theorem table_converges (s : Service) (token : Nat) (room : HasRoom s) (before : List Act) :
    let c := (start s token).after before
    (∀ (a : Act) (more : List Act), c.Hands a →
      let d := c.step a
      let e := d.after more
      e.cancelled = false →
        (0 < undelivered e.run.merge ∨ .begun ∈ d.log more) ∧
        (e.Idle → .begun ∈ d.log more ∧ (d.log more).getLast? = some .replaced) ∧
        (d.Steady more → e.Idle → e.service.table = Table.ofAnswers (answers e.service))) ∧
    (0 < undelivered (start s token).run.merge → (start s token).Steady before →
      c.cancelled = false → c.Idle → c.service.table = Table.ofAnswers (answers c.service)) := by
  intro c
  have sound : Sound c := sound_after (sound_start s token) before
  have roomy : Roomy c.run.merge := roomy_after (roomy_start room token) before
  refine ⟨?_, ?_⟩
  · intro a more handed d e running
    have pending : 0 < undelivered d.run.merge := undelivered_of_hands roomy handed
    have later : 0 < undelivered e.run.merge ∨ .begun ∈ d.log more :=
      pending_after (sound_step sound a) running pending
    refine ⟨later, ?_, ?_⟩
    · intro idle
      have received : undelivered e.run.merge = 0 :=
        undelivered_of_idle (sound_after (sound_step sound a) more) running idle
      have begun : .begun ∈ d.log more := later.resolve_left (by omega)
      have hd : d = (start s token).after (before ++ [a]) := by
        rw [after_append]
        rfl
      refine ⟨begun, ?_⟩
      rw [hd] at begun ⊢
      exact getLast?_log_of_idle (hd ▸ running) (hd ▸ idle) (List.ne_nil_of_mem begun)
    · intro steady idle
      exact table_of_idle (sound_step sound a) steady running idle pending
  · intro pending steady running idle
    exact table_of_idle (sound_start s token) steady running idle pending

/-- The first provider gets another rule after it has answered in a pass. -/
def overtakenPass : List Act :=
  [.task (.forwarder 0), .task (.forwarder 0), .task .rebuild, .task .rebuild,
    .tell 0 { origin := .static, answer := .ok [ruleFor "b"] }]

/-- The pass is completed, and so is another one. -/
def nextPass : List Act :=
  [.task .rebuild, .task (.forwarder 1), .task (.forwarder 1), .task .rebuild, .task .rebuild,
    .task .rebuild]

theorem table_converges_overtakenPass :
    HasRoom twoProviders ∧
      ((start twoProviders 0).after overtakenPass).Hands (.send 1) ∧
      .begun ∈ (((start twoProviders 0).after overtakenPass).step (.send 1)).log nextPass ∧
      ((((start twoProviders 0).after overtakenPass).step (.send 1)).after nextPass).service.table =
        [ruleFor "b"] := by
  have room : HasRoom twoProviders := by
    intro m mem t told
    simp only [twoProviders, Service.ofProviders, List.map_cons, List.map_nil, List.mem_cons,
      List.not_mem_nil, or_false] at mem
    rcases mem with rfl | rfl
    · cases told
      exact Nat.one_pos
    · cases told
      exact Nat.one_pos
  have handed : ((start twoProviders 0).after overtakenPass).Hands (.send 1) := by
    right
    exact List.mem_singleton.mpr rfl
  have steady : (((start twoProviders 0).after overtakenPass).step (.send 1)).Steady nextPass :=
    ⟨nofun, rfl, nofun, rfl, nofun, rfl, nofun, rfl, nofun, rfl, nofun, rfl, trivial⟩
  have idle :
      ((((start twoProviders 0).after overtakenPass).step (.send 1)).after nextPass).Idle :=
    ⟨Run.step?_eq_none_iff.mp rfl, nofun⟩
  obtain ⟨signalled, -⟩ := table_converges twoProviders 0 room overtakenPass
  obtain ⟨-, begun, table⟩ := signalled (.send 1) nextPass handed rfl
  exact ⟨room, handed, (begun idle).1, table steady idle⟩

end Course

end Signpost.Proofs

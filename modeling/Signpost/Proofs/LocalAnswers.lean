import Signpost.Proofs.TableComposition

/-!
# Answers from files

A service that has only static rules and rules files. Each answer of a run is what the provider says
about the files as they were at some time between the call for it and the answer.
-/

namespace Signpost.Proofs

/-- Providers that need nothing but the files. -/
inductive Local : Provider → Prop
  | static (lines : List String) : Local (.static lines)
  | file (path : Files.Path) : Local (.file path)

lemma prompt_of_local {p : Provider} (h : Local p) : Course.Prompt p := by
  cases h with
  | static lines => exact .static lines
  | file path => exact .file path

lemma answerOf_of_local {p : Provider} (h : Local p) (s : Service) :
    answerOf s p = p.list s.files := by
  cases h <;> rfl

lemma resubscribed_of_local {p q : Provider} (h : Local p) (again : Resubscribed p q) : q = p := by
  cases again with
  | same => rfl
  | again => cases h

/-- No call to a local provider has to wait for something else. -/
lemma proceed?_of_local {p q : Provider} (h : Local p) (now : Nat) (stopped : Bool)
    (call later : Call) : p.proceed? now stopped call ≠ some (.wait q later) := by
  cases call with
  | ready due answer =>
    unfold Provider.proceed?
    dsimp only
    split <;> simp
  | asking phase => cases h <;> cases stopped <;> simp [Provider.proceed?]

/-- In a concatenation an element stands in one of the parts. -/
lemma append_eq_append_cons {α : Type} {xs ys before more : List α} {a : α}
    (h : xs ++ ys = before ++ a :: more) :
    (∃ rest, xs = before ++ a :: rest) ∨
      ∃ first, before = xs ++ first ∧ ys = first ++ a :: more := by
  rcases List.append_eq_append_iff.mp h with ⟨first, hbefore, hys⟩ | ⟨rest, hxs, hmore⟩
  · exact .inr ⟨first, hbefore, hys⟩
  · cases rest with
    | nil =>
      rw [List.append_nil] at hxs
      exact .inr ⟨[], by rw [hxs, List.append_nil], hmore.symm⟩
    | cons b rest =>
      obtain ⟨rfl, -⟩ := List.cons.inj hmore
      exact .inl ⟨rest, hxs⟩

lemma head_of_split {α : Type} {rest before more : List α} {first a : α} (no : a ∉ rest)
    (h : first :: rest = before ++ a :: more) : before = [] ∧ first = a := by
  rcases List.cons_eq_append_iff.mp h with ⟨rfl, same⟩ | ⟨others, -, hrest⟩
  · exact ⟨rfl, (List.cons.inj same).1.symm⟩
  · exact absurd (by simp [hrest]) no

namespace Course

/-- The providers of a course are these ones, all of which are local. -/
structure OnlyLocal (ps : List Provider) (c : Course) : Prop where
  providers : c.service.members.map Member.provider = ps
  all : ∀ p ∈ ps, Local p

variable {ps : List Provider} {c : Course}

lemma local_of_member (h : OnlyLocal ps c) {i : Nat} {m : Member}
    (member : c.service.members[i]? = some m) : ps[i]? = some m.provider ∧ Local m.provider := by
  have found : ps[i]? = some m.provider := by
    rw [← h.providers, List.getElem?_map, member]
    rfl
  exact ⟨found, h.all _ (List.mem_of_getElem? found)⟩

/-- A pass that goes on keeps the providers, and its next call is answered from the files. -/
lemma goOn_of_local {t : Service} {done : Table} {next : Nat} {notes : List Note}
    {activity : Activity} (h : OnlyLocal ps c) (on : GoOn c.service done next notes t activity) :
    t.members.map Member.provider = ps ∧ (∀ i answer, .answered i answer ∉ notes) ∧
      ∀ done next call, activity = .rebuilding done next call →
        ∃ due p, ps[next]? = some p ∧ call = .ready due (p.list t.files) := by
  cases on with
  | @ask m member =>
    obtain ⟨found, is⟩ := local_of_member h member
    rw [call_of_prompt (prompt_of_local is)]
    refine ⟨(map_set_of_getElem? member ?_).trans h.providers, by simp, ?_⟩
    · rfl
    · rintro _ _ _ ⟨⟩
      exact ⟨_, _, found, rfl⟩
  | replace => exact ⟨h.providers, by simp, nofun⟩

/-- Local providers stay what they are. -/
theorem onlyLocal_step (h : OnlyLocal ps c) (a : Act) : OnlyLocal ps (c.step a) := by
  refine ⟨?_, h.all⟩
  have step := stepTo_step c a
  generalize c.notes a = notes at step
  generalize c.step a = d at step ⊢
  cases step with
  | still | forward | send | close | look | edit | pass | cancel => exact h.providers
  | rebuild step =>
    cases step with
    | stop | exhaust => exact h.providers
    | begin _ _ _ on => exact (goOn_of_local h on).1
    | answer _ _ _ _ on => exact (goOn_of_local h on).1
    | wait _ _ member proceed =>
      exact absurd proceed (proceed?_of_local (local_of_member h member).2 _ _ _ _)
  | feed member again =>
    have same := resubscribed_of_local (local_of_member h member).2 again
    refine (map_setProvider fun other found => ?_).trans h.providers
    obtain rfl := Option.some.inj (member.symm.trans found)
    exact same
  | tell member told =>
    have is := (local_of_member h member).2
    rw [told] at is
    cases is
  | script member docker =>
    have is := (local_of_member h member).2
    rw [docker] at is
    cases is

/-- The answer to a call under way is there. -/
def Answered (c : Course) : Prop :=
  ∀ done next call, c.run.activity = .rebuilding done next call →
    ∃ due answer, call = .ready due answer

/-- What a step has to do with answers: it can note the one that is there, and the call under way
after it is the one before or has an answer from the files. -/
structure Answering (ps : List Provider) (c : Course) (a : Act) : Prop where
  noted : ∀ before i answer more, c.notes a = before ++ .answered i answer :: more →
    before = [] ∧ ∃ done due p, c.run.activity = .rebuilding done i (.ready due answer.2) ∧
      ps[i]? = some p ∧ answer.1 = p.origin
  pending : ∀ done next call, (c.step a).run.activity = .rebuilding done next call →
    (∃ due p, ps[next]? = some p ∧ call = .ready due (p.list (c.step a).service.files)) ∨
      c.notes a = [] ∧ c.run.activity = .rebuilding done next call

lemma answer_of_ready {p : Provider} {now due : Nat} {stopped : Bool}
    {answer rules : Except Source.Fault (List Rule)}
    (proceed : p.proceed? now stopped (.ready due answer) = some (.answer rules)) :
    rules = answer := by
  unfold Provider.proceed? at proceed
  dsimp only at proceed
  split at proceed
  · cases proceed
    rfl
  · cases proceed

theorem answering_step (h : OnlyLocal ps c) (answered : Answered c) (a : Act) :
    Answering ps c a := by
  have step := stepTo_step c a
  generalize hnotes : c.notes a = notes at step
  generalize hnext : c.step a = d at step
  have quiet (nothing : notes = [])
      (same : ∀ done next call, d.run.activity = .rebuilding done next call →
        c.run.activity = .rebuilding done next call) : Answering ps c a := by
    subst nothing
    refine ⟨by simp [hnotes], fun done next call busy => .inr ⟨hnotes, ?_⟩⟩
    exact same done next call (hnext ▸ busy)
  cases step with
  | still | forward | feed | send | close | tell | script | edit | pass | cancel =>
    exact quiet rfl fun _ _ _ => id
  | look busy member =>
    obtain ⟨found, is⟩ := local_of_member h member
    refine ⟨by simp [hnotes], ?_⟩
    rw [hnext]
    rintro _ _ _ ⟨⟩
    rw [answerOf_of_local is]
    exact .inl ⟨_, _, found, rfl⟩
  | rebuild step =>
    cases step with
    | stop | exhaust => exact quiet rfl nofun
    | wait _ _ member proceed =>
      exact absurd proceed (proceed?_of_local (local_of_member h member).2 _ _ _ _)
    | begin _ _ _ on =>
      obtain ⟨-, silent, pending⟩ := goOn_of_local h on
      refine ⟨?_, by rw [hnext]; exact fun _ _ _ busy => .inl (pending _ _ _ busy)⟩
      intro before i answer more split
      rw [hnotes] at split
      obtain ⟨-, other⟩ := head_of_split (silent i answer) split
      cases other
    | answer _ busy member proceed on =>
      obtain ⟨-, silent, pending⟩ := goOn_of_local h on
      refine ⟨?_, by rw [hnext]; exact fun _ _ _ busy => .inl (pending _ _ _ busy)⟩
      intro before i answer more split
      rw [hnotes] at split
      obtain ⟨rfl, same⟩ := head_of_split (silent i answer) split
      cases same
      obtain ⟨due, answer, rfl⟩ := answered _ _ _ busy
      rw [answer_of_ready proceed]
      exact ⟨rfl, _, due, _, busy, (local_of_member h member).1, rfl⟩

/-- When this was all that had been noted, the files were such. -/
def FilesWhen (c : Course) (acts : List Act) (noted : List Note) (files : Files.Tree) : Prop :=
  ∃ first rest, acts = first ++ rest ∧ c.log first = noted ∧ (c.after first).service.files = files

lemma filesWhen_now (c : Course) (acts : List Act) :
    FilesWhen c acts (c.log acts) (c.after acts).service.files :=
  ⟨acts, [], (List.append_nil acts).symm, rfl, rfl⟩

lemma filesWhen_append {acts : List Act} {noted : List Note} {files : Files.Tree}
    (h : FilesWhen c acts noted files) (a : Act) : FilesWhen c (acts ++ [a]) noted files := by
  obtain ⟨first, rest, rfl, noted, tree⟩ := h
  exact ⟨first, rest ++ [a], List.append_assoc first rest [a], noted, tree⟩

/-- What holds of the answers in a run that so far has done these steps: those that are noted, and
the one that is there for the call under way. -/
structure FromFiles (ps : List Provider) (c : Course) (acts : List Act) : Prop where
  only : OnlyLocal ps (c.after acts)
  noted : ∀ before i answer more, c.log acts = before ++ .answered i answer :: more →
    ∃ p files, ps[i]? = some p ∧ answer = answerFrom files p ∧ FilesWhen c acts before files
  pending : ∀ done next call, (c.after acts).run.activity = .rebuilding done next call →
    ∃ due p files, ps[next]? = some p ∧ call = .ready due (p.list files) ∧
      FilesWhen c acts (c.log acts) files

/-- Each step keeps what holds of the answers. -/
theorem fromFiles_step {acts : List Act} (h : FromFiles ps c acts) (a : Act) :
    FromFiles ps c (acts ++ [a]) := by
  have after : c.after (acts ++ [a]) = (c.after acts).step a := by
    rw [after_append]
    rfl
  have log : c.log (acts ++ [a]) = c.log acts ++ (c.after acts).notes a := by
    rw [log_append]
    simp [Course.log]
  have answered : Answered (c.after acts) := by
    intro done next call busy
    obtain ⟨due, p, files, -, rfl, -⟩ := h.pending done next call busy
    exact ⟨due, _, rfl⟩
  have now := answering_step h.only answered a
  refine ⟨by rw [after]; exact onlyLocal_step h.only a, ?_, ?_⟩
  · intro before i answer more hlog
    rw [log] at hlog
    rcases append_eq_append_cons hlog with ⟨rest, earlier⟩ | ⟨first, rfl, noted⟩
    · obtain ⟨p, files, found, hanswer, tree⟩ := h.noted before i answer rest earlier
      exact ⟨p, files, found, hanswer, filesWhen_append tree a⟩
    · obtain ⟨rfl, done, due, p, busy, found, origin⟩ := now.noted first i answer more noted
      obtain ⟨_, q, files, foundToo, hcall, tree⟩ := h.pending done i _ busy
      obtain rfl := Option.some.inj (found.symm.trans foundToo)
      obtain ⟨-, outcome⟩ := Call.ready.inj hcall
      rw [List.append_nil]
      exact ⟨p, files, found, Prod.ext origin outcome, filesWhen_append tree a⟩
  · intro done next call busy
    rw [after] at busy
    rcases now.pending done next call busy with ⟨due, p, found, hcall⟩ | ⟨nothing, before⟩
    · rw [← after] at hcall
      exact ⟨due, p, _, found, hcall, filesWhen_now c (acts ++ [a])⟩
    · obtain ⟨due, p, files, found, hcall, tree⟩ := h.pending done next call before
      rw [log, nothing, List.append_nil]
      exact ⟨due, p, files, found, hcall, filesWhen_append tree a⟩

theorem fromFiles_after (all : ∀ p ∈ ps, Local p) (files : Files.Tree) (token : Nat)
    (acts : List Act) : FromFiles ps (start (.ofProviders files ps) token) acts := by
  -- what has been noted grows at the end, so the acts are taken from there
  induction acts using List.reverseRecOn with
  | nil =>
    have providers := providers_start (fun p mem => prompt_of_local (all p mem)) files token
    refine ⟨⟨providers, all⟩, ?_, nofun⟩
    intro before i answer more hlog
    simp [log] at hlog
  | append_singleton acts a ih => exact fromFiles_step ih a

/-- The files were such while the latest pass that is complete waited for its first answer. -/
def SeenByPass (s : Service) (token : Nat) (acts : List Act) (files : Files.Tree) : Prop :=
  ∃ first rest before, acts = first ++ rest ∧
    (start s token).log first = before ++ [.begun, .asked 0] ∧
    (((start s token).after first).log rest).count .replaced = 1 ∧
    ((start s token).after first).service.files = files

variable {files : Files.Tree} {token : Nat} {acts : List Act} {answers : List Answer}

/-- Each provider has answered a pass with what it says about the files at some time. -/
lemma answer_of_latestPass (all : ∀ p ∈ ps, Local p)
    (pass : LatestPass (.ofProviders files ps) token acts answers) {i : Nat} {answer : Answer}
    (hi : answers[i]? = some answer) :
    ∃ p seen, ps[i]? = some p ∧ answer = answerFrom seen p := by
  obtain ⟨before, more, hlog⟩ := List.append_of_mem (answered_of_latestPass pass hi)
  obtain ⟨p, seen, found, hanswer, -⟩ :=
    (fromFiles_after all files token acts).noted before i answer more hlog
  exact ⟨p, seen, found, hanswer⟩

/-- The first provider has answered with what it says about the files during the pass. -/
theorem first_of_latestPass {p : Provider} (all : ∀ q ∈ p :: ps, Local q) {rest : List Answer}
    {answer : Answer}
    (pass : LatestPass (.ofProviders files (p :: ps)) token acts (answer :: rest)) :
    ∃ seen, answer = answerFrom seen p ∧
      SeenByPass (.ofProviders files (p :: ps)) token acts seen := by
  obtain ⟨before, current, hlog, unfinished⟩ := pass
  have calls : ∃ later, callNotes (answer :: rest) = .asked 0 :: .answered 0 answer :: later :=
    ⟨_, by simp [callNotes]; rfl⟩
  obtain ⟨later, calls⟩ := calls
  have split : before ++ passNotes (answer :: rest) ++ current =
      (before ++ [.begun, .asked 0]) ++ .answered 0 answer :: (later ++ .replaced :: current) := by
    simp [passNotes, calls]
  obtain ⟨q, seen, found, hanswer, first, more, hacts, noted, tree⟩ :=
    (fromFiles_after all files token acts).noted _ _ _ _ (hlog.trans split)
  obtain rfl : p = q := Option.some.inj found
  refine ⟨seen, hanswer, first, more, before, hacts, noted, ?_, tree⟩
  rw [split, hacts, log_append, noted] at hlog
  have silent : .replaced ∉ later := by
    intro mem
    have mem : .replaced ∈ callNotes (answer :: rest) := by simp [calls, mem]
    exact (mem_callNotes mem).2 rfl
  rw [List.append_cancel_left hlog]
  simp [List.count_eq_zero.mpr silent, List.count_eq_zero.mpr unfinished]

end Course
end Signpost.Proofs

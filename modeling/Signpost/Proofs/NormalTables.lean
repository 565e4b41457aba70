import Mathlib.Logic.Relation
import Signpost.Proofs.SpelledOut

/-!
# Normal tables

All rules of a table are spelled out, in every state that a service comes to: with any number of
runs on it, whose tasks take their steps in any order, and whatever its providers answer.
-/

namespace Signpost.Proofs

/-- What can happen to a session. -/
inductive Happens (s : Session) : Session → Prop
  | move {i : Nat} {r next : Run} {t : Task} {service : Service} (found : s.runs[i]? = some r)
      (moves : r.move? s.service t = some (service, next)) :
      Happens s { service, runs := s.runs.set i next }
  | run (newToken : Bool) : Happens s (s.run newToken)
  | send (i : Nat) : Happens s (s.send i).2
  | close (i : Nat) : Happens s (s.close i)
  | edit (e : Files.Edit) : Happens s (s.edit e)
  | cancel (token : Nat) : Happens s { s with service := s.service.cancel token }
  | pass (ms : Nat) : Happens s { s with service := s.service.setTime (s.service.now + ms) }
  | setProvider (i : Nat) (p : Provider) : Happens s (s.setProvider i p)
  /-- A call that is under way will be answered in another way. -/
  | change {i next : Nat} {r : Run} {done : Table} {call : Call} (later : Call)
      (found : s.runs[i]? = some r) (busy : r.activity = .rebuilding done next call) :
      Happens s { s with runs := s.runs.set i { r with activity := .rebuilding done next later } }

/-- The session that comes to rest by itself is one that it can come to. -/
theorem happens_rest (s : Session) : Relation.ReflTransGen Happens s s.rest := by
  apply settle_induction (P := Relation.ReflTransGen Happens s)
  · intro t next reached hstep
    obtain ⟨i, -, hi⟩ := List.exists_of_findSome?_eq_some hstep
    cases found : t.runs[i]? with
    | none => simp [found] at hi
    | some r =>
      cases hrun : r.step? t.service with
      | none => simp [found, hrun] at hi
      | some after =>
        obtain ⟨task, moves⟩ := Run.exists_move?_of_step? hrun
        obtain rfl : { service := after.1, runs := t.runs.set i after.2 } = next := by
          simpa [found, hrun] using hi
        exact reached.tail (.move found moves)
  · exact .refl

def NormalTable (t : Table) : Prop :=
  ∀ r ∈ t, r.extend = r

/-- What a run has of a new table is normal. -/
def NormalActivity : Activity → Prop
  | .rebuilding done _ _ => NormalTable done
  | _ => True

structure NormalSession (s : Session) : Prop where
  table : NormalTable s.service.table
  runs : ∀ r ∈ s.runs, NormalActivity r.activity

lemma normalTable_append {first second : Table} (hfirst : NormalTable first)
    (hsecond : NormalTable second) : NormalTable (first ++ second) := by
  intro r mem
  rcases List.mem_append.mp mem with mem | mem
  · exact hfirst r mem
  · exact hsecond r mem

/-- Whatever a source answers, its share of a table is normal. -/
theorem normalTable_contribution {ε : Type} (origin : Origin) (answer : Except ε (List Rule)) :
    NormalTable (Table.contribution origin answer) := by
  cases answer with
  | error fault => exact fun r mem => absurd mem List.not_mem_nil
  | ok rules =>
    intro r mem
    obtain ⟨original, -, rfl⟩ := List.mem_map.mp mem
    rw [extend_relabelled, extend_extend]

lemma normal_goOn {s t : Service} {done : Table} {next : Nat} {notes : List Note}
    {activity : Activity} (table : NormalTable s.table) (normal : NormalTable done)
    (on : GoOn s done next notes t activity) : NormalTable t.table ∧ NormalActivity activity := by
  cases on with
  | ask member => exact ⟨table, normal⟩
  | replace all => exact ⟨normal, trivial⟩

theorem normal_rebuildStep {s t : Service} {r next : Run} {notes : List Note}
    (table : NormalTable s.table) (normal : NormalActivity r.activity)
    (step : RebuildStep s r notes t next) :
    NormalTable t.table ∧ NormalActivity next.activity := by
  cases step with
  | stop | exhaust => exact ⟨table, trivial⟩
  | begin _ _ _ on => exact normal_goOn table (fun r mem => absurd mem List.not_mem_nil) on
  | wait _ busy =>
    rw [busy] at normal
    exact ⟨table, normal⟩
  | answer _ busy _ _ on =>
    rw [busy] at normal
    exact normal_goOn table (normalTable_append normal (normalTable_contribution _ _)) on

lemma normal_move {s t : Service} {r next : Run} {task : Task} (table : NormalTable s.table)
    (normal : NormalActivity r.activity) (moves : r.move? s task = some (t, next)) :
    NormalTable t.table ∧ NormalActivity next.activity := by
  have step := Course.stepTo_step ⟨s, r⟩ (.task task)
  rw [Course.step_task_of_some moves] at step
  generalize Course.notes ⟨s, r⟩ (.task task) = notes at step
  cases step with
  | still | forward | feed => exact ⟨table, normal⟩
  | rebuild step => exact normal_rebuildStep table normal step

lemma activity_closeTold (s : Session) (r : Run) : (s.closeTold r).activity = r.activity := by
  rw [Session.closeTold]
  induction List.range s.service.members.length generalizing r with
  | nil => rfl
  | cons i rest ih =>
    rw [List.foldl_cons, ih]
    split <;> rfl

lemma normal_set {runs : List Run} {next : Run} (normal : ∀ r ∈ runs, NormalActivity r.activity)
    (h : NormalActivity next.activity) (i : Nat) :
    ∀ r ∈ runs.set i next, NormalActivity r.activity := by
  intro r mem
  rcases List.mem_or_eq_of_mem_set mem with mem | rfl
  · exact normal r mem
  · exact h

/-- Runs that do what they did before are as normal as before. -/
lemma normal_map {runs : List Run} {f : Run → Run} (normal : ∀ r ∈ runs, NormalActivity r.activity)
    (same : ∀ r, (f r).activity = r.activity) : ∀ r ∈ runs.map f, NormalActivity r.activity := by
  intro r mem
  obtain ⟨before, hbefore, rfl⟩ := List.mem_map.mp mem
  rw [same]
  exact normal before hbefore

theorem normalSession_of_happens {s t : Session} (h : NormalSession s) (step : Happens s t) :
    NormalSession t := by
  obtain ⟨table, runs⟩ := h
  cases step with
  | move found moves =>
    have normal := runs _ (List.mem_of_getElem? found)
    obtain ⟨table', normal'⟩ := normal_move table normal moves
    exact ⟨table', normal_set runs normal' _⟩
  | run newToken =>
    refine ⟨by cases newToken <;> exact table, ?_⟩
    intro r mem
    rcases List.mem_append.mp mem with mem | mem
    · exact normal_map runs (activity_closeTold s) r mem
    · rw [List.mem_singleton.mp mem]
      trivial
  | send i =>
    rw [Session.send]
    split
    · rename_i last _ hlast
      refine ⟨table, ?_⟩
      intro r mem
      rcases List.mem_append.mp mem with mem | mem
      · exact runs r (List.mem_of_mem_dropLast mem)
      · rw [List.mem_singleton.mp mem]
        exact runs last (List.mem_of_getLast? hlast)
    · exact ⟨table, runs⟩
  | close i =>
    rw [Session.close]
    split
    · exact ⟨table, normal_map runs fun r => rfl⟩
    · exact ⟨table, runs⟩
  | edit e =>
    refine ⟨table, normal_map runs fun r => ?_⟩
    obtain ⟨merge, hmerge, -⟩ := notice_eq s e r
    rw [hmerge]
  | cancel | pass | setProvider => exact ⟨table, runs⟩
  | change later found busy =>
    have normal := runs _ (List.mem_of_getElem? found)
    rw [busy] at normal
    exact ⟨table, normal_set runs normal _⟩

/-- What can be reached from a normal session is normal. -/
theorem normalSession_of_reached {s t : Session} (h : NormalSession s)
    (reached : Relation.ReflTransGen Happens s t) : NormalSession t := by
  induction reached with
  | refl => exact h
  | tail _ step ih => exact normalSession_of_happens ih step

/-- A rule is left as it is or spelled out, and the latter just if it can be; a second time changes
nothing, and neither does the origin. All rules of the table of a service are spelled out at all
times. -/
theorem tables_normal :
    (∀ r : Rule, (r.extend = r ∨ SpellsOut r r.extend) ∧ (r.extend ≠ r ↔ Spellable r) ∧
      r.extend.extend = r.extend ∧
      ∀ origin, ({ r with origin } : Rule).extend = { r.extend with origin }) ∧
    ∀ files providers s, Relation.ReflTransGen Happens (Session.start files providers) s →
      ∀ r ∈ s.service.table, r.extend = r := by
  refine ⟨fun r => ⟨?_, ?_, extend_extend r, extend_relabelled r⟩, ?_⟩
  · rcases extend_spec r with ⟨-, spelled⟩ | ⟨-, same⟩
    · exact .inr spelled
    · exact .inl same
  · rcases extend_spec r with ⟨spellable, spelled⟩ | ⟨not, same⟩
    · exact iff_of_true (ne_of_spellsOut spelled) spellable
    · exact iff_of_false (not_not_intro same) not
  · intro files providers s reached
    have new : NormalSession (Session.start files providers) :=
      ⟨fun r mem => absurd mem List.not_mem_nil, fun r mem => absurd mem List.not_mem_nil⟩
    exact (normalSession_of_reached new reached).table

/-- A rule that can be spelled out, and one whose source has a parenthesis. -/
def twoRules : List Rule :=
  [{ server := "a", pattern := ⟨"/b/", .concat [.char '/', .char 'b', .char '/'], rfl⟩
     target := "http://h/", origin := .file },
    { server := "b", pattern := ⟨"()/", .concat [.group 1 none .empty, .char '/'], rfl⟩
      target := "http://h/", origin := .file }]

theorem tables_normal_twoRules :
    let new := Session.start {} [.told { origin := .static, answer := .ok twoRules }]
    let s := (new.run false).rest
    Relation.ReflTransGen Happens new s ∧
      s.service.table.map (fun r => (r.pattern.source, r.target)) =
        [("^/b/(.*)", "http://h/$1"), ("()/", "http://h/")] ∧
      ∀ r ∈ s.service.table, r.extend = r := by
  intro new s
  have reached : Relation.ReflTransGen Happens new s :=
    (Relation.ReflTransGen.single (.run false)).trans (happens_rest _)
  obtain ⟨-, normal⟩ := tables_normal
  exact ⟨reached, by decide +kernel, normal _ _ s reached⟩

end Signpost.Proofs

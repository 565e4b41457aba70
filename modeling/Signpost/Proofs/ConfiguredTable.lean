import Signpost.Program
import Signpost.Proofs.LocalAnswers
import Signpost.Proofs.SourceRules

/-!
# The table of the configured providers

A program that asks no daemon has the rules of its rules file, as this was during the pass, and
after them its static rules. A query that the rules file answers is not left to the static rules.
-/

namespace Signpost.Proofs
open Settings

/-- What the rules file adds to a table, if the settings ask for it. -/
inductive FileShare (s : Settings) (seen : Files.Tree → Prop) : Table → Prop
  | off : s.file.enabled = false → FileShare s seen []
  | on {files : Files.Tree} {rules : Table} : s.file.enabled = true → seen files →
      OfFile files (.ofString s.file.path) rules → FileShare s seen rules

/-- What the static rules add to a table, if the settings ask for them. -/
inductive StaticShare (s : Settings) : Table → Prop
  | off : s.staticRules.enabled = false → StaticShare s []
  | on {rules : Table} : s.staticRules.enabled = true → OfLines s.staticRules.rules rules →
      StaticShare s rules

lemma origin_of_ofFile {files : Files.Tree} {path : Files.Path} {rules : Table}
    (h : OfFile files path rules) {r : Rule} (mem : r ∈ rules) : r.origin = .file := by
  cases h with
  | unreadable | invalid | refused => cases mem
  | rules _ _ entered =>
    obtain ⟨i, hi, rfl⟩ := List.getElem_of_mem mem
    obtain ⟨pattern, -, made⟩ := entered.get (entered.length_eq ▸ hi) hi
    exact congrArg Rule.origin made

lemma answeredBy_append {t : Table} {server path : String} {r : Rule}
    (h : AnsweredBy t server path r) (more : Table) : AnsweredBy (t ++ more) server path r := by
  obtain ⟨⟨before, after, rfl, passed⟩, applies, changes⟩ := h
  exact ⟨⟨before, after ++ more, by simp, passed⟩, applies, changes⟩

namespace Course

variable {s : Settings} {daemon : Option Docker.Daemon}

/-- The provider of the rules file, if the settings ask for it. -/
def fileProviders (s : Settings) : List Provider :=
  if s.file.enabled then [.file (Files.Path.ofString s.file.path)] else []

/-- The provider of the static rules, if the settings ask for them. -/
def staticProviders (s : Settings) : List Provider :=
  if s.staticRules.enabled then [.static s.staticRules.rules] else []

lemma providers_eq (noDaemon : s.docker.enabled = false) (daemon : Option Docker.Daemon) :
    Program.providers s daemon = fileProviders s ++ staticProviders s := by
  simp [Program.providers, noDaemon, fileProviders, staticProviders]

lemma local_providers (noDaemon : s.docker.enabled = false) :
    ∀ p ∈ Program.providers s daemon, Local p := by
  rw [providers_eq noDaemon]
  intro p mem
  rcases List.mem_append.mp mem with mem | mem
  · rw [fileProviders] at mem
    split at mem
    · rw [List.mem_singleton.mp mem]
      exact .file _
    · cases mem
  · rw [staticProviders] at mem
    split at mem
    · rw [List.mem_singleton.mp mem]
      exact .static _
    · cases mem

variable {files : Files.Tree} {token : Nat} {acts : List Act} {answers others : List Answer}

lemma composed_singleton (answer : Answer) :
    composed [answer] = Table.contribution answer.1 answer.2 := by
  rw [← ofAnswers_eq_composed]
  exact List.flatMap_singleton ..

/-- The first answers are those about the rules file. -/
lemma fileShare_of_latestPass {ps : List Provider} (all : ∀ p ∈ fileProviders s ++ ps, Local p)
    (pass : LatestPass (.ofProviders files (fileProviders s ++ ps)) token acts (answers ++ others))
    (length : answers.length = (fileProviders s).length) :
    FileShare s (SeenByPass (.ofProviders files (fileProviders s ++ ps)) token acts)
      (composed answers) := by
  cases enabled : s.file.enabled with
  | false =>
    have none : answers = [] :=
      List.eq_nil_of_length_eq_zero (by simp [length, fileProviders, enabled])
    rw [none]
    exact .off enabled
  | true =>
    have only : fileProviders s = [.file (Files.Path.ofString s.file.path)] := if_pos enabled
    rw [only] at all pass length ⊢
    obtain ⟨answer, rfl⟩ := List.length_eq_one_iff.mp length
    obtain ⟨found, rfl, seen⟩ := first_of_latestPass all pass
    rw [composed_singleton]
    exact .on enabled seen (ofFile_contribution found _)

/-- The last answers are those about the static rules. -/
lemma staticShare_of_latestPass {ps : List Provider}
    (all : ∀ p ∈ ps ++ staticProviders s, Local p) (valid : Requirement.ruleFields.Met s)
    (pass : LatestPass (.ofProviders files (ps ++ staticProviders s)) token acts
      (others ++ answers))
    (before : others.length = ps.length) (length : answers.length = (staticProviders s).length) :
    StaticShare s (composed answers) := by
  cases enabled : s.staticRules.enabled with
  | false =>
    have none : answers = [] :=
      List.eq_nil_of_length_eq_zero (by simp [length, staticProviders, enabled])
    rw [none]
    exact .off enabled
  | true =>
    have only : staticProviders s = [.static s.staticRules.rules] := if_pos enabled
    rw [only] at all pass length
    obtain ⟨answer, rfl⟩ := List.length_eq_one_iff.mp length
    obtain ⟨p, found, hp, rfl⟩ := answer_of_latestPass all pass List.getElem?_concat_length
    rw [before, List.getElem?_concat_length] at hp
    obtain rfl := Option.some.inj hp
    rw [composed_singleton]
    exact .on enabled (ofLines_contribution (valid enabled))

/-- The table of a pass has what the rules file adds, and then what the static rules add. -/
theorem shares_of_latestPass (noDaemon : s.docker.enabled = false)
    (valid : Requirement.ruleFields.Met s)
    (pass : LatestPass (.ofProviders files (Program.providers s daemon)) token acts answers) :
    ∃ first second : Table, composed answers = first ++ second ∧
      FileShare s (SeenByPass (.ofProviders files (Program.providers s daemon)) token acts) first ∧
      StaticShare s second := by
  have all : ∀ p ∈ Program.providers s daemon, Local p := local_providers noDaemon
  obtain ⟨-, length⟩ := table_of_latestPass pass
  rw [Service.ofProviders, List.length_map] at length
  rw [providers_eq noDaemon] at all pass length ⊢
  rw [List.length_append] at length
  have split := List.take_append_drop (fileProviders s).length answers
  rw [← split] at pass ⊢
  have ofFile : (answers.take (fileProviders s).length).length = (fileProviders s).length := by
    rw [List.length_take, length]
    omega
  have ofStatic : (answers.drop (fileProviders s).length).length = (staticProviders s).length := by
    rw [List.length_drop, length]
    omega
  exact ⟨_, _, composed_append _ _, fileShare_of_latestPass all pass ofFile,
    staticShare_of_latestPass all valid pass ofFile ofStatic⟩

/-- Without providers the table stays empty. -/
lemma table_of_noProviders (files : Files.Tree) (token : Nat) (acts : List Act) :
    ((start (.ofProviders files []) token).after acts).service.table = [] := by
  obtain ⟨passes, -, -, complete, table, -⟩ :=
    documented_after (documented_start (.ofProviders files []) token) acts
  rw [length_after, length_start] at complete
  rw [table, latestTable]
  cases last : passes.getLast? with
  | none => rfl
  | some answers =>
    have none := List.eq_nil_of_length_eq_zero (complete answers (List.mem_of_getLast? last))
    rw [none]
    rfl

/-- The table of a program that asks no daemon: the rules of the rules file as it was during the
pass, and after them the static rules. Without either of them it stays empty. A query that a rule of
the file answers is answered by the file, whatever the static rules are. -/
theorem configured_table {env : Environment} {configFiles : Files.Tree} {s : Settings}
    (loaded : load env configFiles = .ok s) (noDaemon : s.docker.enabled = false)
    (daemon : Option Docker.Daemon) (files : Files.Tree) :
    let service := Service.ofProviders files (Program.providers s daemon)
    (s.file.enabled = true ∨ s.staticRules.enabled = true →
      ∃ acts answers, LatestPass service 0 acts answers) ∧
    (s.file.enabled = false → s.staticRules.enabled = false → ∀ token acts,
      ((start service token).after acts).service.table = []) ∧
    ∀ token acts answers, LatestPass service token acts answers →
      let t := ((start service token).after acts).service
      ∃ first second : Table, t.table = first ++ second ∧
        FileShare s (SeenByPass service token acts) first ∧ StaticShare s second ∧
        ∀ server path, (∃ r ∈ first, r.appliesTo server = true ∧ r.redirect path ≠ path) →
          ∃ r ∈ first, r.origin = .file ∧ AnsweredBy t.table server path r ∧
            t.lookUp server path = (r.redirect path, true) := by
  intro service
  have all := @local_providers s daemon noDaemon
  refine ⟨?_, ?_, ?_⟩
  · intro enabled
    have some : Program.providers s daemon ≠ [] := by
      rw [providers_eq noDaemon, fileProviders, staticProviders]
      rcases enabled with file | static
      · simp [file]
      · simp [static]
    exact ⟨_, _, latestPass_of_prompt some (fun p mem => prompt_of_local (all p mem)) files⟩
  · intro noFile noStatic token acts
    have none : Program.providers s daemon = [] := by
      simp [providers_eq noDaemon, fileProviders, staticProviders, noFile, noStatic]
    rw [show service = .ofProviders files [] by rw [← none]]
    exact table_of_noProviders files token acts
  · intro token acts answers pass t
    obtain ⟨first, second, parts, file, static⟩ :=
      shares_of_latestPass noDaemon (met_of_load loaded .ruleFields) pass
    have table : t.table = first ++ second := (table_of_latestPass pass).1.trans parts
    refine ⟨first, second, table, file, static, ?_⟩
    rintro server path ⟨r, mem, applies, changes⟩
    obtain ⟨answering, answered⟩ := exists_answeredBy mem applies changes
    have whole := answeredBy_append answered second
    rw [← table] at whole
    have own : answering ∈ first := by
      obtain ⟨before, after, split, -⟩ := answered.first
      simp [split]
    refine ⟨answering, own, ?_, whole, lookUp_of_answeredBy whole⟩
    cases file with
    | off => cases own
    | on _ _ rules => exact origin_of_ofFile rules own

/-- A rules file and a static rule are asked for, with rules for the same queries. -/
def bothSources : Environment :=
  [("PROXY_FILE_ENABLED", Text.Utf8.encode "true"),
    ("PROXY_STATIC_ENABLED", Text.Utf8.encode "true"),
    ("PROXY_STATIC_RULES", Text.Utf8.encode "h, /a/, http://static/")]

def bothSettings : Settings where
  file := { enabled := true }
  staticRules := { enabled := true, rules := ["h, /a/, http://static/"] }

def fileForAll : Files.Tree :=
  rootWith "[[default]]\nroute = \"/a/\"\ndest = \"http://file/\"\n"

def bothService : Service :=
  .ofProviders fileForAll (Program.providers bothSettings none)

lemma bothService_pass : ∃ answers, LatestPass bothService 0 (firstPass 2) answers ∧
    (composed answers).lookUp "h" "/a/x" = ("http://file/x", true) := by
  have all := @local_providers bothSettings none rfl
  refine ⟨_, latestPass_of_prompt (List.cons_ne_nil _ _) (fun p mem => prompt_of_local (all p mem))
    fileForAll, ?_⟩
  decide +kernel

theorem configured_table_bothSources :
    load bothSources {} = .ok bothSettings ∧
      ∃ first second : Table,
        ((start bothService 0).after (firstPass 2)).service.table = first ++ second ∧
        FileShare bothSettings (SeenByPass bothService 0 (firstPass 2)) first ∧
        StaticShare bothSettings second ∧
        (first ++ second).lookUp "h" "/a/x" = ("http://file/x", true) := by
  have loaded : load bothSources {} = .ok bothSettings := rfl
  obtain ⟨answers, pass, answer⟩ := bothService_pass
  obtain ⟨-, -, configured⟩ := configured_table loaded rfl none fileForAll
  obtain ⟨first, second, table, file, static, -⟩ := configured 0 _ _ pass
  refine ⟨loaded, first, second, table, file, static, ?_⟩
  rw [← table]
  exact (congrArg (Table.lookUp · "h" "/a/x") (table_of_latestPass pass).1).trans answer

end Course
end Signpost.Proofs

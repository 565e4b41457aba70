import Mathlib.Data.List.Pairwise
import Mathlib.Data.String.Basic
import Signpost.Proofs.HostIsolation
import Signpost.Proofs.PrefixRules
import Signpost.Proofs.Sequences
import Signpost.Source.File

/-!
# Precedence of hosts in a rules file

The rules of the key `default` come last in a rules file. The keys that are written as every host
stand among the others, in the order of the texts. When every host-specific key comes before them,
a query for a host is answered by a rule of this host, if there is one that changes its path.
-/

namespace Signpost.Proofs
open Source RulesFile

/-- The rules for every host come after all others. -/
def CatchAllLast (rules : List Rule) : Prop :=
  rules.Pairwise fun first second => first.isCatchAll = true → second.isCatchAll = true

/-- A text that stands for every host. -/
def IsEveryHost (key : String) : Prop :=
  key = "" ∨ key = "*"

/-- The rules that a rules file has under each key. -/
def Holds (files : Files.Tree) (path : Files.Path) (servers : List (String × List FileRule)) :
    Prop :=
  ∃ text, files.readText path = .ok text ∧ (Toml.read text >>= decode) = .ok servers

/-- A key of a host comes before the keys that stand for every host, if both have rules. -/
def HostsFirst (servers : List (String × List FileRule)) : Prop :=
  ∀ every ∈ servers, ∀ host ∈ servers, every.2 ≠ [] → host.2 ≠ [] → IsEveryHost every.1 →
    host.1 ≠ defaultKey → ¬IsEveryHost host.1 → host.1 < every.1

/-- The rule that a query is answered by: the first one for its server that changes its path. -/
structure AnsweredBy (t : Table) (server path : String) (r : Rule) : Prop where
  first : ∃ before after, t = before ++ r :: after ∧
    ∀ other ∈ before, other.appliesTo server = true → other.redirect path = path
  applies : r.appliesTo server = true
  changes : r.redirect path ≠ path

/-- Keys are in the order of their texts. -/
theorem keyLe_iff (a b : String) : keyLe a b = true ↔ a ≤ b := by
  have numbered (cs ds : List Char) :
      (cs.map Char.toNat).lex (ds.map Char.toNat) = true ↔ cs < ds := by
    rw [List.lex_eq_true_iff_lt]
    constructor
    · intro h
      by_contra other
      rcases (not_lt.mp other).lt_or_eq with greater | same
      · exact lt_asymm h (List.map_lt (fun _ _ => id) greater)
      · rw [same] at h
        exact lt_irrefl _ h
    · exact List.map_lt fun _ _ => id
  rw [keyLe, Bool.not_eq_true', Bool.eq_false_iff, ne_eq, numbered, String.le_iff_toList_le, not_lt]

section Keys

variable {α : Type} {e : String × α} {entries : List (String × α)}

lemma mem_insertKey {f : String × α} : f ∈ insertKey e entries ↔ f = e ∨ f ∈ entries := by
  induction entries with
  | nil => simp [insertKey]
  | cons first rest ih =>
    unfold insertKey
    split
    · exact List.mem_cons
    · rw [List.mem_cons, List.mem_cons, ih]
      exact or_left_comm

lemma sorted_insertKey (h : entries.Pairwise fun a b => a.1 ≤ b.1) :
    (insertKey e entries).Pairwise fun a b => a.1 ≤ b.1 := by
  induction entries with
  | nil => exact List.pairwise_singleton _ _
  | cons first rest ih =>
    obtain ⟨below, sorted⟩ := List.pairwise_cons.mp h
    unfold insertKey
    split
    · rename_i le
      rw [keyLe_iff] at le
      refine List.pairwise_cons.mpr ⟨?_, h⟩
      intro other mem
      rcases List.mem_cons.mp mem with rfl | mem
      · exact le
      · exact le_trans le (below other mem)
    · rename_i greater
      rw [keyLe_iff, not_le] at greater
      refine List.pairwise_cons.mpr ⟨?_, ih sorted⟩
      intro other mem
      rcases mem_insertKey.mp mem with rfl | mem
      · exact le_of_lt greater
      · exact below other mem

/-- The entries in the order of their keys. -/
def sortedKeys (entries : List (String × α)) : List (String × α) :=
  entries.foldr insertKey []

lemma mem_sortedKeys {f : String × α} : f ∈ sortedKeys entries ↔ f ∈ entries := by
  induction entries with
  | nil => rfl
  | cons first rest ih => rw [sortedKeys, List.foldr_cons, mem_insertKey, List.mem_cons, ← ih]; rfl

lemma sorted_sortedKeys (entries : List (String × α)) :
    (sortedKeys entries).Pairwise fun a b => a.1 ≤ b.1 := by
  induction entries with
  | nil => exact List.Pairwise.nil
  | cons first rest ih => exact sorted_insertKey ih

/-- The entries of all keys but `default`, in order. -/
def specificKeys (entries : List (String × α)) : List (String × α) :=
  (sortedKeys entries).filter (·.1 != defaultKey)

lemma mem_specificKeys {f : String × α} :
    f ∈ specificKeys entries ↔ f ∈ entries ∧ f.1 ≠ defaultKey := by
  rw [specificKeys, List.mem_filter, mem_sortedKeys, bne_iff_ne]

lemma ordered_eq (entries : List (String × α)) : ordered entries = specificKeys entries ++
    ((sortedKeys entries).filter (·.1 == defaultKey)).map fun e => ("*", e.2) := rfl

end Keys

lemma server_rule {server : String} {line : FileRule} {r : Rule}
    (made : RulesFile.rule server line = .ok r) : r.server = server := by
  unfold RulesFile.rule Rule.make at made
  split at made
  · cases made
    rfl
  · cases made

/-- The rules of a file stand under the keys that they were written under, in order. -/
theorem servers_of_list {files : Files.Tree} {path : Files.Path} {rules : List Rule}
    (accepted : list files path = .ok rules) :
    ∃ servers, Holds files path servers ∧
      rules.map Rule.server = (ordered servers).flatMap fun e => e.2.map fun _ => e.1 := by
  unfold RulesFile.list at accepted
  split at accepted
  · cases accepted
  · rename_i text htext
    unfold RulesFile.read at accepted
    split at accepted
    · cases accepted
    · rename_i servers hservers
      dsimp only at accepted
      split at accepted
      · rename_i made hmade
        cases accepted
        refine ⟨servers, ⟨text, htext, hservers⟩, ?_⟩
        have own (e : String × FileRule) (r : Rule) (made : rule e.1 e.2 = .ok r) :
            r.server = e.1 := server_rule made
        rw [map_eq_of_forall₂ (mapM_eq_ok_iff.mp hmade) own, List.map_flatMap]
        simp only [List.map_map, Function.comp_def]
      · cases accepted

lemma catchAllLast_iff {rules : List Rule} : CatchAllLast rules ↔
    (rules.map Rule.server).Pairwise fun first second =>
      IsEveryHost first → IsEveryHost second := by
  rw [CatchAllLast, List.pairwise_map]
  simp only [isCatchAll_iff, IsEveryHost]

/-- No rule for every host that stands under the first key comes before one for a host. -/
def Follows (first second : String × List FileRule) : Prop :=
  first.2 ≠ [] → second.2 ≠ [] → IsEveryHost first.1 → IsEveryHost second.1

lemma follows_iff {first second : String × List FileRule} :
    Follows first second ↔ ∀ a ∈ first.2.map fun _ => first.1, ∀ b ∈ second.2.map fun _ => second.1,
      IsEveryHost a → IsEveryHost b := by
  constructor
  · intro h a memFirst b memSecond
    obtain ⟨line, hfirst, rfl⟩ := List.mem_map.mp memFirst
    obtain ⟨other, hsecond, rfl⟩ := List.mem_map.mp memSecond
    exact h (List.ne_nil_of_mem hfirst) (List.ne_nil_of_mem hsecond)
  · intro h someFirst someSecond
    obtain ⟨line, hfirst⟩ := List.exists_mem_of_ne_nil _ someFirst
    obtain ⟨other, hsecond⟩ := List.exists_mem_of_ne_nil _ someSecond
    exact h _ (List.mem_map_of_mem hfirst) _ (List.mem_map_of_mem hsecond)

/-- Only keys that are written as every host can come before a key of a host. -/
lemma catchAllLast_iff_specific {rules : List Rule} {servers : List (String × List FileRule)}
    (keys : rules.map Rule.server = (ordered servers).flatMap fun e => e.2.map fun _ => e.1) :
    CatchAllLast rules ↔ (specificKeys servers).Pairwise Follows := by
  have within (e : String × List FileRule) :
      (e.2.map fun _ => e.1).Pairwise fun first second =>
        IsEveryHost first → IsEveryHost second := by
    rw [List.pairwise_map]
    exact List.pairwise_of_forall fun _ _ => id
  have last (e : String × List FileRule) (lines : List FileRule) : Follows e ("*", lines) :=
    fun _ _ _ => .inr rfl
  rw [catchAllLast_iff, keys, List.pairwise_flatMap]
  simp only [← follows_iff]
  rw [ordered_eq, List.pairwise_append]
  refine ⟨fun h => h.2.1, fun h => ⟨fun e _ => within e, h, ?_, ?_⟩⟩
  -- the rules of `default` are for every host, so they may follow anything
  · rw [List.pairwise_map]
    exact List.pairwise_of_forall fun _ _ => last _ _
  · intro e _ every mem
    obtain ⟨entry, -, rfl⟩ := List.mem_map.mp mem
    exact last e entry.2

/-- Whether the rules for every host come last can be read off the keys. -/
lemma pairwise_specificKeys_iff {servers : List (String × List FileRule)} :
    (specificKeys servers).Pairwise Follows ↔ HostsFirst servers := by
  have sorted : (specificKeys servers).Pairwise fun a b => a.1 ≤ b.1 :=
    (sorted_sortedKeys servers).filter _
  constructor
  · intro h every memEvery host memHost someEvery someHost isEvery noDefault isHost
    have notDefault : every.1 ≠ defaultKey := by
      rcases isEvery with key | key <;> rw [key] <;> decide
    -- two keys of a sorted list can only be compared by a symmetric relation, which therefore has
    -- to say which of them comes first
    let Either (a b : String × List FileRule) : Prop :=
      (a.1 ≤ b.1 ∧ Follows a b) ∨ (b.1 ≤ a.1 ∧ Follows b a)
    have symm : Std.Symm Either := ⟨fun _ _ => Or.symm⟩
    have either : (specificKeys servers).Pairwise Either := (sorted.and h).imp Or.inl
    rcases either.forall_of_forall (fun e _ => .inl ⟨le_rfl, fun _ _ => id⟩)
        (mem_specificKeys.mpr ⟨memEvery, notDefault⟩)
        (mem_specificKeys.mpr ⟨memHost, noDefault⟩) with ⟨-, follows⟩ | ⟨le, -⟩
    · exact absurd (follows someEvery someHost isEvery) isHost
    · exact lt_of_le_of_ne le fun same => isHost (same ▸ isEvery)
  · intro h
    refine sorted.imp_of_mem ?_
    intro every host memEvery memHost le someEvery someHost isEvery
    obtain ⟨memEvery, -⟩ := mem_specificKeys.mp memEvery
    obtain ⟨memHost, noDefault⟩ := mem_specificKeys.mp memHost
    by_contra isHost
    exact absurd (h every memEvery host memHost someEvery someHost isEvery noDefault isHost)
      (not_lt.mpr le)

lemma servers_ofSource (origin : Origin) (rules : List Rule) :
    (Table.ofSource origin rules).map Rule.server = rules.map Rule.server := by
  rw [Table.ofSource, List.map_map]
  exact List.map_congr_left fun r _ => server_extend r

lemma lookUp_of_answeredBy {t : Table} {server path : String} {r : Rule}
    (h : AnsweredBy t server path r) : t.lookUp server path = (r.redirect path, true) := by
  obtain ⟨⟨before, after, rfl, passed⟩, applies, changes⟩ := h
  induction before with
  | nil => simp [Table.lookUp, applies, changes]
  | cons other before ih =>
    have silent : ¬(other.appliesTo server = true ∧ other.redirect path ≠ path) :=
      fun h => h.2 (passed other (List.mem_cons_self ..) h.1)
    rw [List.cons_append, Table.lookUp]
    simp only [Bool.and_eq_true, bne_iff_ne, silent, if_false]
    exact ih fun s mem => passed s (List.mem_cons_of_mem _ mem)

/-- A query that some rule answers is answered by the first one that does. -/
lemma exists_answeredBy {t : Table} {server path : String} {r : Rule} (mem : r ∈ t)
    (applies : r.appliesTo server = true) (changes : r.redirect path ≠ path) :
    ∃ first, AnsweredBy t server path first := by
  induction t with
  | nil => cases mem
  | cons other t ih =>
    by_cases answers : other.appliesTo server = true ∧ other.redirect path ≠ path
    · exact ⟨other, ⟨[], t, rfl, by simp⟩, answers.1, answers.2⟩
    · rcases List.mem_cons.mp mem with rfl | mem
      · exact absurd ⟨applies, changes⟩ answers
      · obtain ⟨first, ⟨before, after, rfl, passed⟩, firstApplies, firstChanges⟩ := ih mem
        refine ⟨first, ⟨other :: before, after, rfl, ?_⟩, firstApplies, firstChanges⟩
        intro s mem
        rcases List.mem_cons.mp mem with rfl | mem
        · exact fun applies => not_not.mp fun changes => answers ⟨applies, changes⟩
        · exact passed s mem

/-- When the rules for every host come last, a host with a rule for a path is not answered by one
of them. -/
theorem host_answers {t : Table} {server path : String} {r : Rule} (last : CatchAllLast t)
    (mem : r ∈ t) (host : r.isCatchAll = false) (own : r.server = server)
    (changes : r.redirect path ≠ path) :
    ∃ first, AnsweredBy t server path first ∧ first.isCatchAll = false ∧ first.server = server := by
  have applies : r.appliesTo server = true := by simp [Rule.appliesTo, own]
  obtain ⟨first, answered⟩ := exists_answeredBy mem applies changes
  have specific : first.isCatchAll = false := by
    obtain ⟨before, after, rfl, passed⟩ := answered.first
    rw [Bool.eq_false_iff]
    intro every
    obtain ⟨-, later, -⟩ := List.pairwise_append.mp last
    rcases List.mem_append.mp mem with mem | mem
    · exact changes (passed r mem applies)
    · rcases List.mem_cons.mp mem with rfl | mem
      · simp [every] at host
      · have also := (List.pairwise_cons.mp later).1 r mem every
        simp [also] at host
  refine ⟨first, answered, specific, ?_⟩
  simpa [Rule.appliesTo, specific] using answered.applies

/-- In the rules of a file those for every host come last exactly if the keys of hosts come before
the keys that are written as every host. Then a query for a host is answered by a rule of this host,
if the file has one that changes the path. -/
theorem host_precedence {files : Files.Tree} {path : Files.Path} {rules : List Rule}
    (accepted : list files path = .ok rules) :
    (∃ servers, Holds files path servers ∧ (CatchAllLast rules ↔ HostsFirst servers)) ∧
    (CatchAllLast rules → ∀ host query,
      (∃ r ∈ rules, r.isCatchAll = false ∧ r.server = host ∧ r.extend.redirect query ≠ query) →
      let t := Table.ofSource .file rules
      ∃ r ∈ t, r.isCatchAll = false ∧ r.server = host ∧ AnsweredBy t host query r ∧
        t.lookUp host query = (r.redirect query, true)) := by
  obtain ⟨servers, holds, keys⟩ := servers_of_list accepted
  refine ⟨⟨servers, holds, ?_⟩, ?_⟩
  · rw [catchAllLast_iff_specific keys, pairwise_specificKeys_iff]
  · rintro last host query ⟨r, mem, specific, own, changes⟩ t
    have lastExtended : CatchAllLast t := by
      rwa [catchAllLast_iff, servers_ofSource, ← catchAllLast_iff]
    have memExtended : { r.extend with origin := .file } ∈ t := List.mem_map_of_mem mem
    have specificExtended : ({ r.extend with origin := .file } : Rule).isCatchAll = false := by
      rw [Rule.isCatchAll, server_extend]
      exact specific
    obtain ⟨first, answered, firstSpecific, firstOwn⟩ :=
      host_answers lastExtended memExtended specificExtended ((server_extend r).trans own) changes
    obtain ⟨before, after, split, -⟩ := answered.first
    have firstMem : first ∈ t := by simp [split]
    exact ⟨first, firstMem, firstSpecific, firstOwn, answered, lookUp_of_answeredBy answered⟩

def rulesPath : Files.Path :=
  .ofString "routes.toml"

lemma ok_of_toOption {ε α : Type} {outcome : Except ε α} {a : α}
    (h : outcome.toOption = some a) : outcome = .ok a := by
  cases outcome with
  | error fault => cases h
  | ok made => exact congrArg Except.ok (Option.some.inj h)

/-- The root directory with a rules file in it. -/
def rootWith (text : String) : Files.Tree where
  fresh := 2
  entries := [(⟨Files.root, rulesPath⟩, ⟨1, .file (Text.Utf8.encode text)⟩)]

/-- The rules of a file that sends one prefix to two places. -/
def samePrefix (first second : String) : List Rule :=
  let slashes : Pattern := ⟨"/a/", .concat [.char '/', .char 'a', .char '/'], rfl⟩
  [{ server := first, pattern := slashes, target := "http://first/", origin := .file },
    { server := second, pattern := slashes, target := "http://second/", origin := .file }]

/-- The key `default` is written before that of a host, and is the lesser one. -/
def defaultFirst : Files.Tree :=
  rootWith ("[[default]]\nroute = \"/a/\"\ndest = \"http://second/\"\n" ++
    "[[h]]\nroute = \"/a/\"\ndest = \"http://first/\"\n")

theorem host_precedence_defaultFirst :
    list defaultFirst rulesPath = .ok (samePrefix "h" "*") ∧
      CatchAllLast (samePrefix "h" "*") ∧
      ∃ r ∈ Table.ofSource .file (samePrefix "h" "*"), r.server = "h" ∧
        AnsweredBy (Table.ofSource .file (samePrefix "h" "*")) "h" "/a/x" r := by
  have accepted : list defaultFirst rulesPath = .ok (samePrefix "h" "*") :=
    ok_of_toOption (by decide +kernel)
  have last : CatchAllLast (samePrefix "h" "*") := by
    unfold CatchAllLast
    decide
  obtain ⟨-, precedence⟩ := host_precedence accepted
  have changes : ∃ r ∈ samePrefix "h" "*", r.isCatchAll = false ∧ r.server = "h" ∧
      r.extend.redirect "/a/x" ≠ "/a/x" := by
    decide +kernel
  obtain ⟨r, mem, -, own, answered, -⟩ := precedence last "h" "/a/x" changes
  exact ⟨accepted, last, r, mem, own, answered⟩

/-- The key `*` comes before that of a host. -/
def starFirst : Files.Tree :=
  rootWith ("[[h]]\nroute = \"/a/\"\ndest = \"http://second/\"\n" ++
    "[[\"*\"]]\nroute = \"/a/\"\ndest = \"http://first/\"\n")

/-- A rule for every host that is written under `*` is asked before that of a host. -/
theorem starFirst_precedes :
    list starFirst rulesPath = .ok (samePrefix "*" "h") ∧
      ¬CatchAllLast (samePrefix "*" "h") ∧
      (∃ r ∈ samePrefix "*" "h", r.isCatchAll = false ∧ r.server = "h" ∧
        r.extend.redirect "/a/x" ≠ "/a/x") ∧
      (Table.ofSource .file (samePrefix "*" "h")).lookUp "h" "/a/x" = ("http://first/x", true) ∧
      ¬∃ r ∈ Table.ofSource .file (samePrefix "*" "h"), r.isCatchAll = false ∧
        AnsweredBy (Table.ofSource .file (samePrefix "*" "h")) "h" "/a/x" r := by
  have answer : (Table.ofSource .file (samePrefix "*" "h")).lookUp "h" "/a/x" =
      ("http://first/x", true) := by
    decide +kernel
  have others : ∀ r ∈ Table.ofSource .file (samePrefix "*" "h"), r.isCatchAll = false →
      r.redirect "/a/x" ≠ "http://first/x" := by
    decide +kernel
  refine ⟨ok_of_toOption (by decide +kernel), ?_, by decide +kernel, answer, ?_⟩
  · unfold CatchAllLast
    decide
  · rintro ⟨r, mem, host, answered⟩
    have sent := lookUp_of_answeredBy answered
    rw [answer, Prod.mk.injEq] at sent
    exact others r mem host sent.1.symm

end Signpost.Proofs

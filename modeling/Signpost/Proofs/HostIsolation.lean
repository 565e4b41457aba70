import Mathlib.Logic.Relation
import Mathlib.Tactic.ByContra
import Signpost.Table

/-!
# Isolation of hosts

A query is answered by the rules of its own host and by those for every host. What a table says
about other hosts makes no difference to it, and all hosts that a table does not name are alike.
-/

namespace Signpost.Proofs

variable {server path : String} {t u : Table} {r s : Rule}

/-- A rule for one host, which is not the queried one. -/
def OfOtherHost (server : String) (r : Rule) : Prop :=
  r.server ≠ "" ∧ r.server ≠ "*" ∧ r.server ≠ server

instance (server : String) : DecidablePred (OfOtherHost server) :=
  fun _ => inferInstanceAs (Decidable (_ ∧ _))

/-- A table without the rules of other hosts. -/
def ownRules (server : String) (t : Table) : Table :=
  t.filter fun r => ¬OfOtherHost server r

/-- The rules for every host. -/
def commonRules (t : Table) : Table :=
  t.filter Rule.isCatchAll

/-- A change of the rules of other hosts. Their places among the other rules may change too. -/
inductive OtherHostEdit (server : String) : Table → Table → Prop
  | insert (before after : Table) {r : Rule} (other : OfOtherHost server r) :
      OtherHostEdit server (before ++ after) (before ++ r :: after)
  | delete (before after : Table) {r : Rule} (other : OfOtherHost server r) :
      OtherHostEdit server (before ++ r :: after) (before ++ after)
  | change (before after : Table) {r s : Rule} (other : OfOtherHost server r)
      (still : OfOtherHost server s) :
      OtherHostEdit server (before ++ r :: after) (before ++ s :: after)
  | swap (before after : Table) {r s : Rule} (other : OfOtherHost server r ∨ OfOtherHost server s) :
      OtherHostEdit server (before ++ r :: s :: after) (before ++ s :: r :: after)

lemma appliesTo_iff : r.appliesTo server = true ↔ ¬OfOtherHost server r := by
  simp only [Rule.appliesTo, Rule.isCatchAll, Bool.or_eq_true, beq_iff_eq, OfOtherHost, or_assoc,
    not_and_or, not_not]

lemma isCatchAll_iff : r.isCatchAll = true ↔ r.server = "" ∨ r.server = "*" := by
  simp only [Rule.isCatchAll, Bool.or_eq_true, beq_iff_eq]

lemma ownRules_append (first second : Table) :
    ownRules server (first ++ second) = ownRules server first ++ ownRules server second :=
  List.filter_append ..

lemma ownRules_cons_of_other (other : OfOtherHost server r) (t : Table) :
    ownRules server (r :: t) = ownRules server t := by
  rw [ownRules, List.filter_cons_of_neg (by simpa using other)]
  rfl

lemma ownRules_cons_of_own (own : ¬OfOtherHost server r) (t : Table) :
    ownRules server (r :: t) = r :: ownRules server t := by
  rw [ownRules, List.filter_cons_of_pos (by simpa using own)]
  rfl

/-- The rules of other hosts are passed over wherever they stand. -/
theorem lookUp_ownRules (t : Table) (server path : String) :
    (ownRules server t).lookUp server path = t.lookUp server path := by
  induction t with
  | nil => rfl
  | cons r t ih =>
    by_cases other : OfOtherHost server r
    · have passed : r.appliesTo server = false := by
        rw [Bool.eq_false_iff, ne_eq, appliesTo_iff]
        exact not_not_intro other
      rw [ownRules_cons_of_other other, ih]
      simp only [Table.lookUp, passed, Bool.false_and, Bool.false_eq_true, if_false]
    · rw [ownRules_cons_of_own other]
      simp only [Table.lookUp, ih]

/-- Tables with the same rules for a host and for every host answer its queries alike. -/
lemma lookUp_eq_of_ownRules (same : ownRules server u = ownRules server t) (path : String) :
    u.lookUp server path = t.lookUp server path := by
  rw [← lookUp_ownRules u, same, lookUp_ownRules]

lemma ownRules_edit (edit : OtherHostEdit server t u) : ownRules server u = ownRules server t := by
  cases edit with
  | insert before after other | delete before after other =>
    rw [ownRules_append, ownRules_append, ownRules_cons_of_other other]
  | change before after other still =>
    rw [ownRules_append, ownRules_append, ownRules_cons_of_other other,
      ownRules_cons_of_other still]
  | @swap before after r s other =>
    rw [ownRules_append, ownRules_append]
    congr 1
    -- at most one of the two is left, so their order makes no difference
    rcases other with other | other
    · by_cases both : OfOtherHost server s
      · simp only [ownRules_cons_of_other other, ownRules_cons_of_other both]
      · simp only [ownRules_cons_of_other other, ownRules_cons_of_own both]
    · by_cases both : OfOtherHost server r
      · simp only [ownRules_cons_of_other other, ownRules_cons_of_other both]
      · simp only [ownRules_cons_of_other other, ownRules_cons_of_own both]

lemma ownRules_edits (edits : Relation.ReflTransGen (OtherHostEdit server) t u) :
    ownRules server u = ownRules server t := by
  induction edits with
  | refl => rfl
  | tail _ edit ih => rw [ownRules_edit edit, ih]

lemma servers_eq (t : Table) :
    t.servers = (t.map Rule.server).filter fun host => host ≠ "" ∧ host ≠ "*" := by
  rw [Table.servers, List.filter_map]
  congr 1
  apply List.filter_congr
  intro r _
  rw [Bool.eq_iff_iff, Bool.not_eq_true', Bool.eq_false_iff, ne_eq, isCatchAll_iff]
  simp

/-- A host that no rule is for alone has only the rules for every host. -/
lemma ownRules_of_notMem (unnamed : server ∉ t.servers) : ownRules server t = commonRules t := by
  apply List.filter_congr
  intro r mem
  have common : ¬OfOtherHost server r ↔ r.server = "" ∨ r.server = "*" := by
    rw [OfOtherHost, not_and_or, not_and_or, not_not, not_not, not_not, ← or_assoc]
    refine or_iff_left_of_imp fun same => ?_
    by_contra host
    rw [not_or] at host
    apply unnamed
    rw [servers_eq, List.mem_filter, ← same]
    exact ⟨List.mem_map_of_mem mem, by simpa using host⟩
  rw [Bool.eq_iff_iff, isCatchAll_iff, decide_eq_true_eq, common]

lemma lookUp_of_notMem (unnamed : server ∉ t.servers) (path : String) :
    t.lookUp server path = (commonRules t).lookUp server path := by
  rw [← lookUp_ownRules t, ownRules_of_notMem unnamed]

/-- The rules for every host answer all hosts alike. -/
lemma lookUp_commonRules (t : Table) (first second path : String) :
    (commonRules t).lookUp first path = (commonRules t).lookUp second path := by
  induction t with
  | nil => rfl
  | cons r t ih =>
    unfold commonRules at ih ⊢
    by_cases every : r.isCatchAll = true
    · rw [List.filter_cons_of_pos every]
      simp only [Table.lookUp, Rule.appliesTo, every, Bool.true_or, Bool.true_and, ih]
    · rwa [List.filter_cons_of_neg every]

/-- A query gets the answer that it would get without the rules of other hosts, however these rules
are changed. The servers of a table are those of its rules for one host, in order and as often as
they occur, and hosts that are not among them get the same answers. -/
theorem hosts_isolated (t : Table) (path : String) :
    (∀ server, (ownRules server t).lookUp server path = t.lookUp server path) ∧
    (∀ server u, Relation.ReflTransGen (OtherHostEdit server) t u →
      u.lookUp server path = t.lookUp server path) ∧
    t.servers = ((t.map Rule.server).filter fun host => host ≠ "" ∧ host ≠ "*") ∧
    "" ∉ t.servers ∧ "*" ∉ t.servers ∧
    ∀ first second, first ∉ t.servers → second ∉ t.servers →
      t.lookUp first path = t.lookUp second path := by
  refine ⟨fun server => lookUp_ownRules t server path, ?_, servers_eq t, ?_, ?_, ?_⟩
  · intro server u edits
    exact lookUp_eq_of_ownRules (ownRules_edits edits) path
  · simp [servers_eq]
  · simp [servers_eq]
  · intro first second noFirst noSecond
    rw [lookUp_of_notMem noFirst, lookUp_of_notMem noSecond]
    exact lookUp_commonRules t first second path

/-- A rule that puts a text before every path. -/
def prefixing (server text : String) : Rule :=
  { server, pattern := ⟨"^", .look .textStart, rfl⟩, target := text, origin := .static }

def fourRules : Table :=
  [prefixing "b" "/b", prefixing "a" "/a", prefixing "c" "/c", prefixing "*" "/any"]

/-- The first rule is gone, another one stands in its place, and the third one has moved up. -/
def fourRulesEdited : Table :=
  [prefixing "d" "/d", prefixing "c" "/c", prefixing "a" "/a", prefixing "*" "/any"]

theorem hosts_isolated_fourRules :
    Relation.ReflTransGen (OtherHostEdit "a") fourRules fourRulesEdited ∧
      fourRulesEdited.lookUp "a" "/x" = fourRules.lookUp "a" "/x" ∧
      fourRules.lookUp "a" "/x" = ("/a/x", true) ∧
      fourRules.servers = ["b", "a", "c"] ∧
      fourRules.lookUp "e" "/x" = fourRules.lookUp "*" "/x" := by
  have delete : OtherHostEdit "a" fourRules fourRules.tail :=
    .delete [] _ (by decide)
  have insert : OtherHostEdit "a" fourRules.tail (prefixing "d" "/d" :: fourRules.tail) :=
    .insert [] _ (by decide)
  have swap : OtherHostEdit "a" (prefixing "d" "/d" :: fourRules.tail) fourRulesEdited :=
    .swap [prefixing "d" "/d"] [prefixing "*" "/any"] (.inr (by decide))
  have edits : Relation.ReflTransGen (OtherHostEdit "a") fourRules fourRulesEdited :=
    ((Relation.ReflTransGen.single delete).tail insert).tail swap
  obtain ⟨-, edited, servers, -, any, alike⟩ := hosts_isolated fourRules "/x"
  have named : fourRules.servers = ["b", "a", "c"] := servers.trans (by decide)
  exact ⟨edits, edited "a" fourRulesEdited edits, by decide +kernel, named,
    alike "e" "*" (by simp [named]) any⟩

end Signpost.Proofs

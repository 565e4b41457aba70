import Signpost.Proofs.HostIsolation
import Signpost.Proofs.Replacement
import Signpost.Proofs.TableComposition

/-!
# The first rule that changes a path

A query is answered by the first rule for its server, or for every server, that makes another path
of the queried one. A rule that puts the same text in the place of what it matches is passed over,
like one for another server and one that matches nothing.
-/

namespace Signpost.Proofs

variable {t : Table} {server path target : String} {r : Rule}

/-- The target is the path with all matches of the rule's pattern replaced. -/
def Redirects (r : Rule) (path target : String) : Prop :=
  Replaced r.pattern.expr (Pattern.Template.read r.target.toList) (.ofText path.toList) true
    target.toList

structure Answers (server path target : String) (r : Rule) : Prop where
  applies : r.server = "" ∨ r.server = "*" ∨ r.server = server
  redirects : Redirects r path target
  changes : target ≠ path

def PassedOver (server path : String) (r : Rule) : Prop :=
  OfOtherHost server r ∨ Redirects r path path

/-- The rule at an index answers a query, and all rules before it are passed over. -/
structure AnsweredAt (t : Table) (server path : String) (i : Nat) (target : String) : Prop where
  answers : ∃ r, t[i]? = some r ∧ Answers server path target r
  passed : ∀ j < i, ∀ s, t[j]? = some s → PassedOver server path s

lemma redirects_iff : Redirects r path target ↔ r.redirect path = target := by
  rw [Redirects, replaced_iff, Rule.redirect, Pattern.replaceAll]
  constructor
  · intro h
    rw [h, String.ofList_toList]
  · rintro rfl
    rw [String.toList_ofList]

lemma answers_iff : Answers server path target r ↔
    r.appliesTo server = true ∧ r.redirect path = target ∧ target ≠ path := by
  have applies : r.appliesTo server = true ↔
      r.server = "" ∨ r.server = "*" ∨ r.server = server := by
    rw [Rule.appliesTo, Bool.or_eq_true, isCatchAll_iff, beq_iff_eq, or_assoc]
  constructor
  · rintro ⟨own, redirects, changes⟩
    exact ⟨applies.mpr own, redirects_iff.mp redirects, changes⟩
  · rintro ⟨own, redirects, changes⟩
    exact ⟨applies.mp own, redirects_iff.mpr redirects, changes⟩

lemma passedOver_iff : PassedOver server path r ↔
    (r.appliesTo server = true → r.redirect path = path) := by
  rw [PassedOver, redirects_iff, appliesTo_iff]
  exact or_iff_not_imp_left

lemma lookUp_cons_of_answers (h : Answers server path target r) :
    Table.lookUp (r :: t) server path = (target, true) := by
  obtain ⟨applies, rfl, changes⟩ := answers_iff.mp h
  simp only [Table.lookUp, applies, bne_iff_ne.mpr changes, Bool.and_self, if_true]

lemma lookUp_cons_of_passedOver (h : PassedOver server path r) :
    Table.lookUp (r :: t) server path = t.lookUp server path := by
  have silent : ¬(r.appliesTo server = true ∧ r.redirect path ≠ path) :=
    fun answers => answers.2 (passedOver_iff.mp h answers.1)
  rw [Table.lookUp]
  simp only [Bool.and_eq_true, bne_iff_ne, silent, if_false]

lemma answers_or_passedOver (server path : String) (r : Rule) :
    (∃ target, Answers server path target r) ∨ PassedOver server path r := by
  by_cases passed : PassedOver server path r
  · exact .inr passed
  · obtain ⟨applies, changes⟩ := Classical.not_imp.mp (passedOver_iff.not.mp passed)
    exact .inl ⟨_, answers_iff.mpr ⟨applies, rfl, changes⟩⟩

lemma not_passedOver_of_answers (h : Answers server path target r) : ¬PassedOver server path r := by
  obtain ⟨applies, rfl, changes⟩ := answers_iff.mp h
  exact fun passed => changes (passedOver_iff.mp passed applies)

lemma answeredAt_cons_of_answers (h : Answers server path target r) {i : Nat} {other : String} :
    AnsweredAt (r :: t) server path i other ↔ i = 0 ∧ other = target := by
  constructor
  · rintro ⟨⟨s, present, answers⟩, passed⟩
    cases i with
    | zero =>
      cases present
      refine ⟨rfl, ?_⟩
      rw [← redirects_iff.mp answers.redirects, redirects_iff.mp h.redirects]
    | succ i =>
      exact absurd (passed 0 (Nat.zero_lt_succ i) r rfl) (not_passedOver_of_answers h)
  · rintro ⟨rfl, rfl⟩
    exact ⟨⟨r, rfl, h⟩, fun j before => absurd before (Nat.not_lt_zero j)⟩

lemma answeredAt_cons_of_passedOver (h : PassedOver server path r) {i : Nat} :
    AnsweredAt (r :: t) server path i target ↔
      ∃ j, i = j + 1 ∧ AnsweredAt t server path j target := by
  constructor
  · rintro ⟨⟨s, present, answers⟩, passed⟩
    cases i with
    | zero =>
      cases present
      exact absurd h (not_passedOver_of_answers answers)
    | succ j => exact ⟨j, rfl, ⟨s, present, answers⟩, fun k before => passed (k + 1) (by omega)⟩
  · rintro ⟨j, rfl, ⟨s, present, answers⟩, passed⟩
    refine ⟨⟨s, present, answers⟩, fun k before s hs => ?_⟩
    cases k with
    | zero =>
      cases hs
      exact h
    | succ k => exact passed k (by omega) s hs

lemma not_answeredAt_nil {i : Nat} : ¬AnsweredAt [] server path i target := by
  rintro ⟨⟨r, present, -⟩, -⟩
  cases present

/-- An answer that changes the path is that of the first rule that can give one. -/
theorem lookUp_eq_true_iff (t : Table) (server path target : String) :
    t.lookUp server path = (target, true) ↔ ∃ i, AnsweredAt t server path i target := by
  induction t with
  | nil => simp [Table.lookUp, not_answeredAt_nil]
  | cons r t ih =>
    rcases answers_or_passedOver server path r with ⟨own, answers⟩ | passed
    · simp only [lookUp_cons_of_answers answers, answeredAt_cons_of_answers answers,
        exists_eq_left, Prod.mk.injEq, and_true, eq_comm]
    · rw [lookUp_cons_of_passedOver passed, ih]
      simp only [answeredAt_cons_of_passedOver passed]
      constructor
      · rintro ⟨j, later⟩
        exact ⟨j + 1, j, rfl, later⟩
      · rintro ⟨i, j, -, later⟩
        exact ⟨j, later⟩

lemma lookUp_of_unchanged (unchanged : (t.lookUp server path).2 = false) :
    t.lookUp server path = (path, false) := by
  induction t with
  | nil => rfl
  | cons r t ih =>
    rcases answers_or_passedOver server path r with ⟨own, answers⟩ | passed
    · rw [lookUp_cons_of_answers answers] at unchanged
      cases unchanged
    · rw [lookUp_cons_of_passedOver passed] at unchanged ⊢
      exact ih unchanged

lemma lookUp_eq_false_iff (t : Table) (server path : String) :
    t.lookUp server path = (path, false) ↔ ¬∃ i target, AnsweredAt t server path i target := by
  constructor
  · rintro kept ⟨i, target, answered⟩
    rw [(lookUp_eq_true_iff t server path target).mpr ⟨i, answered⟩] at kept
    cases kept
  · intro nowhere
    apply lookUp_of_unchanged
    by_contra changed
    rw [Bool.not_eq_false] at changed
    obtain ⟨i, answered⟩ := (lookUp_eq_true_iff t server path _).mp (Prod.ext rfl changed)
    exact nowhere ⟨i, _, answered⟩

/-- A rule that makes another path matches a piece of the path. -/
lemma matchesIn_of_answers (h : Answers server path target r) :
    MatchesIn r.pattern.expr path.toList := by
  have changed : r.pattern.expr.replaceAll path.toList r.target.toList ≠ path.toList := by
    rw [replaced_iff.mp h.redirects, ne_eq, String.toList_inj]
    exact h.changes
  exact matchesIn_of_ne changed

lemma lookUp_without (before after : Table) (h : Redirects r path path) :
    Table.lookUp (before ++ r :: after) server path =
      Table.lookUp (before ++ after) server path := by
  rw [lookUp_append, lookUp_append, lookUp_cons_of_passedOver (.inr h)]

/-- A query gets another path exactly if there is a first rule that is for its server, or for every
server, and makes that path of the queried one; else it gets its own path back. This rule matches a
piece of the path. A rule that makes the same path of it can as well be left out. -/
theorem first_effective_rule_wins (t : Table) (server path : String) :
    (∀ target, t.lookUp server path = (target, true) ↔ ∃ i, AnsweredAt t server path i target) ∧
    (t.lookUp server path = (path, false) ↔ ¬∃ i target, AnsweredAt t server path i target) ∧
    (∀ target, t.lookUp server path = (target, true) → target ≠ path ∧
      ∃ i r, AnsweredAt t server path i target ∧ t[i]? = some r ∧
        MatchesIn r.pattern.expr path.toList) ∧
    ∀ before r after, t = before ++ r :: after → Redirects r path path →
      t.lookUp server path = Table.lookUp (before ++ after) server path := by
  refine ⟨lookUp_eq_true_iff t server path, lookUp_eq_false_iff t server path, ?_, ?_⟩
  · intro target answer
    obtain ⟨i, answered⟩ := (lookUp_eq_true_iff t server path target).mp answer
    obtain ⟨r, present, answers⟩ := answered.answers
    exact ⟨answers.changes, i, r, answered, present, matchesIn_of_answers answers⟩
  · rintro before r after rfl same
    exact lookUp_without before after same

/-- A rule for another server, one that puts a slash in the place of each slash, one that matches
nothing, and two that make another path. -/
def fiveRules : Table :=
  let slash : Pattern := ⟨"/", .char '/', rfl⟩
  [{ server := "b", pattern := slash, target := "/b/", origin := .docker },
    { server := "a", pattern := slash, target := "/", origin := .static },
    { server := "*", pattern := ⟨"z", .char 'z', rfl⟩, target := "/", origin := .static },
    { server := "", pattern := slash, target := "/any/", origin := .static },
    { server := "a", pattern := slash, target := "/a/", origin := .file }]

theorem first_effective_rule_wins_fiveRules :
    AnsweredAt fiveRules "a" "/x/y" 3 "/any/x/any/y" ∧
      fiveRules.lookUp "a" "/x/y" = ("/any/x/any/y", true) ∧
      (∃ r ∈ fiveRules, MatchesIn r.pattern.expr "/x/y".toList) ∧
      Redirects fiveRules[1] "/x/y" "/x/y" ∧
      Table.lookUp (fiveRules.eraseIdx 1) "a" "/x/y" = ("/any/x/any/y", true) := by
  have other : PassedOver "a" "/x/y" fiveRules[0] := passedOver_iff.mpr (by decide +kernel)
  have same : Redirects fiveRules[1] "/x/y" "/x/y" := redirects_iff.mpr (by decide +kernel)
  have silent : PassedOver "a" "/x/y" fiveRules[2] := passedOver_iff.mpr (by decide +kernel)
  have answers : Answers "a" "/x/y" "/any/x/any/y" fiveRules[3] :=
    answers_iff.mpr (by decide +kernel)
  have answered : AnsweredAt fiveRules "a" "/x/y" 3 "/any/x/any/y" := by
    refine (answeredAt_cons_of_passedOver other).mpr ⟨2, rfl, ?_⟩
    refine (answeredAt_cons_of_passedOver (.inr same)).mpr ⟨1, rfl, ?_⟩
    refine (answeredAt_cons_of_passedOver silent).mpr ⟨0, rfl, ?_⟩
    exact (answeredAt_cons_of_answers answers).mpr ⟨rfl, rfl⟩
  obtain ⟨wins, -, matched, without⟩ := first_effective_rule_wins fiveRules "a" "/x/y"
  have answer := (wins "/any/x/any/y").mpr ⟨3, answered⟩
  obtain ⟨-, i, r, -, present, piece⟩ := matched "/any/x/any/y" answer
  have rest := without [fiveRules[0]] fiveRules[1] (fiveRules.drop 2) rfl same
  exact ⟨answered, answer, ⟨r, List.mem_of_getElem? present, piece⟩, same, rest.symm.trans answer⟩

end Signpost.Proofs

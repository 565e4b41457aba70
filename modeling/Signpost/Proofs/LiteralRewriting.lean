import Signpost.Proofs.LiteralSearch
import Signpost.Proofs.PrefixRewriting
import Signpost.Proofs.SpelledOut

/-!
# Literal rewriting

A rule whose source is a text without special characters and without a slash at its end means: put
the target in the place of the text, wherever it occurs.
-/

namespace Signpost.Proofs
open Pattern Pattern.Expr

section Compiling

variable {source : String} (some : source ≠ "")
  (literal : ∀ c ∈ source.toList, isLiteral c = true)
include some literal

lemma read_literal : Expr.read source.toList =
    if weightLimit < 32 * source.toList.length + 112 then .error .tooHeavy
    else .ok (literalExpr source.toList) := by
  have noDot := dot_notMem_of_literal literal
  have nonempty : source.toList ≠ [] := mt String.toList_eq_nil_iff.mp some
  rw [read_ofItems (readsAlone_of_literal literal) nonempty, List.count_eq_zero.mpr noDot,
    map_single_of_notMem noDot]
  rfl

/-- A text without special characters is a pattern if it is not too long. -/
lemma exists_compile_literal_iff : (∃ pattern, Pattern.compile source = .ok pattern) ↔
    32 * source.toList.length + 112 ≤ weightLimit := by
  constructor
  · rintro ⟨⟨text, e, read⟩, compiled⟩
    obtain rfl : text = source := compile_eq_ok compiled
    by_contra long
    rw [read_literal some literal, if_pos (Nat.not_le.mp long)] at read
    cases read
  · intro fits
    have read := read_literal some literal
    rw [if_neg (Nat.not_lt.mpr fits)] at read
    exact ⟨_, compile_of_read read⟩

lemma expr_of_compile_literal {pattern : Pattern} (h : Pattern.compile source = .ok pattern) :
    pattern.expr = literalExpr source.toList := by
  obtain ⟨text, e, read⟩ := pattern
  obtain rfl : text = source := compile_eq_ok h
  rw [read_literal some literal] at read
  split at read
  · cases read
  · exact (Except.ok.inj read).symm

end Compiling

/-- What makes a text the source of a literal rule. -/
structure LiteralSource (source : String) : Prop where
  nonempty : source ≠ ""
  literal : ∀ c ∈ source.toList, isLiteral c = true
  noSlash : source.toList.getLast? ≠ some '/'

lemma make_eq_ok_iff {origin : Origin} {server source target : String} {r : Rule} :
    Rule.make origin server source target = .ok r ↔
      ∃ pattern, Pattern.compile source = .ok pattern ∧
        r = { server, pattern, target, origin } := by
  rw [Rule.make]
  cases Pattern.compile source with
  | ok pattern => simp [eq_comm]
  | error fault => simp

/-- A literal rule stays as it is, and replaces what occurs of its source. -/
lemma substituted_redirect_iff {r : Rule} (h : LiteralSource r.pattern.source)
    (plain : '$' ∉ r.target.toList) {path : String} {out : List Char} :
    Substituted r.pattern.source.toList r.target.toList path.toList out ↔
      out = (r.extend.redirect path).toList := by
  have nonempty : r.pattern.source.toList ≠ [] := mt String.toList_eq_nil_iff.mp h.nonempty
  have expr : r.pattern.expr = literalExpr r.pattern.source.toList :=
    expr_of_compile_literal h.nonempty h.literal (compile_of_read r.pattern.read_source)
  rw [extend_of_noSlash h.noSlash, Rule.redirect, Pattern.replaceAll, String.toList_ofList, expr,
    substituted_iff nonempty fun m _ => expand_of_plain plain _ m, eq_comm]

namespace Course

/-- A service with a single rule answers by this rule. -/
lemma lookUp_of_only {s : Service} {token : Nat} {acts : List Act} {answers : List Answer}
    {origin : Origin} {r : Rule} (pass : LatestPass s token acts answers)
    (only : offered answers = [(origin, r)]) {host : String}
    (applies : r.isCatchAll = true ∨ r.server = host) (path : String) :
    ((start s token).after acts).service.lookUp host path =
      (r.extend.redirect path, r.extend.redirect path != path) := by
  have table : ((start s token).after acts).service.table = [entry (origin, r)] := by
    rw [(table_of_latestPass pass).1, composed, only]
    rfl
  have server : (entry (origin, r)).server = r.server := server_extend r
  have applied : (entry (origin, r)).appliesTo host = true := by
    rw [Rule.appliesTo, Rule.isCatchAll, server]
    simpa [Rule.isCatchAll] using applies
  rw [Service.lookUp, table, lookUp_singleton applied]
  rfl

/-- A text without special characters makes a rule if it is not too long. A service with no other
rule, which has no slash at the end of its source and no reference in its target, answers a query by
putting the target in the place of all occurrences of the source, from left to right. -/
theorem literal_rewritten {origin : Origin} {server source target : String}
    (h : LiteralSource source) (plain : '$' ∉ target.toList) :
    ((∃ r, Rule.make origin server source target = .ok r) ↔
        32 * source.toList.length + 112 ≤ weightLimit) ∧
      ∀ r ping, Rule.make origin server source target = .ok r →
        ∀ s token acts answers label, LatestPass s token acts answers →
          offered answers = [(label, { r with ping })] →
          ∀ host, server = "" ∨ server = "*" ∨ server = host → ∀ path, ∃ out : String,
            (∀ text, Substituted source.toList target.toList path.toList text ↔
              text = out.toList) ∧
            ((start s token).after acts).service.lookUp host path = (out, out != path) := by
  constructor
  · rw [← exists_compile_literal_iff h.nonempty h.literal]
    simp [make_eq_ok_iff]
  · intro r ping made s token acts answers label pass only host admitted path
    obtain ⟨pattern, compiled, rfl⟩ := make_eq_ok_iff.mp made
    obtain rfl : pattern.source = source := compile_eq_ok compiled
    let rule : Rule := { server, pattern, target, origin, ping }
    have applies : rule.isCatchAll = true ∨ rule.server = host := by
      rw [Rule.isCatchAll, Bool.or_eq_true, beq_iff_eq, beq_iff_eq, or_assoc]
      exact admitted
    have replaced (text : List Char) :
        Substituted pattern.source.toList target.toList path.toList text ↔
          text = (rule.extend.redirect path).toList :=
      substituted_redirect_iff (r := rule) h plain
    exact ⟨_, replaced, lookUp_of_only pass only applies path⟩

/-- A rule with letters outside ASCII whose source occurs in its target. -/
def literalRule : Rule where
  server := "*"
  pattern := ⟨"길길", .concat [.char '길', .char '길'], rfl⟩
  target := "길길/"
  origin := .file

/-- Of occurrences that overlap the first one is replaced, what is put is not replaced again, and a
path without occurrences is not changed. -/
theorem literal_rewritten_literalRule :
    LiteralSource "길길" ∧ '$' ∉ "길길/".toList ∧
      Rule.make .file "*" "길길" "길길/" = .ok literalRule ∧
      let answers : List Answer := [(.static, .ok [literalRule])]
      LatestPass (tellers answers) 0 (firstPass 1) answers ∧
        let t := ((start (tellers answers) 0).after (firstPass 1)).service
        t.lookUp "h" "/길길길길길길길x" = ("/길길/길길/길길/길x", true) ∧
          t.lookUp "h" "/길/길" = ("/길/길", false) := by
  have h : LiteralSource "길길" :=
    { nonempty := by decide
      literal := List.all_eq_true.mp (by decide)
      noSlash := by decide }
  have plain : '$' ∉ "길길/".toList := by decide
  have made : Rule.make .file "*" "길길" "길길/" = .ok literalRule := rfl
  refine ⟨h, plain, made, ?_⟩
  intro answers
  have pass : LatestPass (tellers answers) 0 (firstPass 1) answers :=
    exists_latestPass (List.cons_ne_nil _ _)
  obtain ⟨-, rewritten⟩ := literal_rewritten h plain
  have answered := rewritten _ none made _ _ _ _ _ pass rfl "h" (.inr (.inl rfl))
  refine ⟨pass, ?_, ?_⟩
  · obtain ⟨out, only, found⟩ := answered "/길길길길길길길x"
    have replaced : Substituted "길길".toList "길길/".toList "/길길길길길길길x".toList
        "/길길/길길/길길/길x".toList :=
      .keep (by decide) (.put (.put (.put (.keep (by decide) (.keep (by decide) .nil)))))
    obtain rfl := String.toList_inj.mp ((only _).mp replaced)
    exact found
  · obtain ⟨out, only, found⟩ := answered "/길/길"
    have kept : Substituted "길길".toList "길길/".toList "/길/길".toList "/길/길".toList :=
      .keep (by decide) (.keep (by decide) (.keep (by decide) (.keep (by decide) .nil)))
    obtain rfl := String.toList_inj.mp ((only _).mp kept)
    exact found

end Course
end Signpost.Proofs

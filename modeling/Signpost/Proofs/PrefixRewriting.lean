import Signpost.Proofs.LiteralPattern
import Signpost.Proofs.PrefixRules
import Signpost.Proofs.TableComposition

/-!
# Prefix rewriting

A rule whose source is a text with a slash at its end means: where a path begins with the text, put
the target in its place.
-/

namespace Signpost.Proofs
open Pattern

/-- What makes a rule a rule about a plain prefix. The longer pattern is accepted up to a length. -/
structure PlainPrefix (r : Rule) : Prop where
  slash : r.pattern.source.toList.getLast? = some '/'
  literal : ∀ c ∈ r.pattern.source.toList, isLiteral c = true
  plain : '$' ∉ r.target.toList
  fits : 32 * r.pattern.source.toList.length + 312 ≤ Expr.weightLimit

namespace PlainPrefix

variable {r : Rule} (h : PlainPrefix r)
include h

lemma longer_extend :
    ∃ longer : Pattern, longer.expr = prefixExpr r.pattern.source.toList ∧
      r.extend = { r with pattern := longer, target := Rule.dropSlash r.target ++ "/$1" } := by
  have text : Expr.read r.longerSource.toList = .ok (prefixExpr r.pattern.source.toList) := by
    rw [toList_longerSource h.slash]
    rw [read_prefixExpr h.literal, if_neg (Nat.not_lt.mpr h.fits)]
  have noGroup : '(' ∉ r.pattern.source.toList := by
    intro mem
    have literal := h.literal _ mem
    revert literal
    decide
  exact ⟨_, rfl, extend_of_longer h.slash noGroup h.plain (compile_of_read text)⟩

lemma redirect_of_longer (path : String) :
    r.extend.redirect path = String.ofList ((prefixExpr r.pattern.source.toList).replaceAll
      path.toList (Rule.dropSlash r.target ++ "/$1").toList) := by
  obtain ⟨longer, expr, hextend⟩ := h.longer_extend
  rw [hextend, Rule.redirect, Pattern.replaceAll, expr]

lemma redirect_other {path : String} (other : ¬ r.pattern.source.toList <+: path.toList) :
    r.extend.redirect path = path := by
  have chars : ∀ e ∈ r.pattern.source.toList.map Expr.char, IsSingle e := by
    intro e mem
    obtain ⟨c, -, rfl⟩ := List.mem_map.mp mem
    exact .char c
  have missed (own rest : List Char) (text : path.toList = own ++ rest) :
      ¬List.Forall₂ TakesChar (r.pattern.source.toList.map .char) own := by
    intro takes
    obtain rfl := takesAll_chars_iff.mp takes
    exact other ⟨rest, text.symm⟩
  rw [h.redirect_of_longer]
  exact (congrArg String.ofList (replaceAll_lineExpr_of_not_takes chars missed _)).trans
    String.ofList_toList

lemma redirect_prefix {line tail : String} (noFeed : '\n' ∉ line.toList)
    (ends : tail.toList = [] ∨ tail.toList.head? = some '\n') :
    r.extend.redirect (r.pattern.source ++ line ++ tail) =
      Rule.dropSlash r.target ++ "/" ++ line ++ tail := by
  have nonempty : r.pattern.source.toList.map Expr.char ≠ [] := by
    intro none
    have slash := h.slash
    rw [List.map_eq_nil_iff.mp none] at slash
    cases slash
  have replaced := replaceAll_lineExpr_of_takes nonempty (takesAll_chars_iff.mpr rfl) noFeed ends
    (notMem_dropSlash h.plain)
  rw [h.redirect_of_longer, String.toList_append, String.toList_append]
  exact (congrArg String.ofList replaced).trans (by simp [← String.toList_inj])

/-- What follows the prefix is kept, also what comes after the first line. -/
lemma redirect_append (rest : String) :
    r.extend.redirect (r.pattern.source ++ rest) = Rule.dropSlash r.target ++ "/" ++ rest := by
  obtain ⟨line, tail, rfl, noFeed, ends⟩ := exists_line rest
  have replaced := h.redirect_prefix noFeed ends
  simpa only [String.append_assoc] using replaced

end PlainPrefix

lemma lookUp_singleton {r : Rule} {host : String} (applies : r.appliesTo host = true)
    (path : String) : Table.lookUp [r] host path = (r.redirect path, r.redirect path != path) := by
  rw [Table.lookUp, applies, Bool.true_and]
  cases changed : r.redirect path != path with
  | true => rfl
  | false =>
    rw [bne_eq_false_iff_eq] at changed
    rw [changed]
    rfl

namespace Course

/-- A service with a single rule, which is one about a plain prefix, answers a query by putting the
target in the place of the prefix, and leaves all other paths as they are. -/
theorem prefix_rewritten {s : Service} {token : Nat} {acts : List Act} {answers : List Answer}
    {origin : Origin} {r : Rule} (pass : LatestPass s token acts answers)
    (only : offered answers = [(origin, r)]) (h : PlainPrefix r) {host : String}
    (applies : r.isCatchAll = true ∨ r.server = host) (path : String) :
    let t := ((start s token).after acts).service
    (¬ r.pattern.source.toList <+: path.toList → t.lookUp host path = (path, false)) ∧
      ∀ line tail, path = r.pattern.source ++ line ++ tail → '\n' ∉ line.toList →
        tail.toList = [] ∨ tail.toList.head? = some '\n' →
        let target := Rule.dropSlash r.target ++ "/" ++ line ++ tail
        t.lookUp host path = (target, target != path) := by
  intro t
  have table : t.table = [entry (origin, r)] := by
    rw [(table_of_latestPass pass).1, composed, only]
    rfl
  have server : (entry (origin, r)).server = r.server := by
    obtain ⟨longer, -, hextend⟩ := h.longer_extend
    rw [entry, hextend]
  have applied : (entry (origin, r)).appliesTo host = true := by
    rw [Rule.appliesTo, Rule.isCatchAll, server]
    simpa [Rule.isCatchAll] using applies
  have answered : t.lookUp host path =
      (r.extend.redirect path, r.extend.redirect path != path) := by
    rw [Service.lookUp, table, lookUp_singleton applied]
    rfl
  refine ⟨?_, ?_⟩
  · intro other
    rw [answered, h.redirect_other other, bne_self_eq_false]
  · rintro line tail rfl noFeed ends
    rw [answered, h.redirect_prefix noFeed ends]

/-- A rule with letters outside ASCII, for a single host. -/
def plainRule : Rule where
  server := "host"
  pattern := ⟨"/길/", .concat [.char '/', .char '길', .char '/'], rfl⟩
  target := "http://h/a/"
  origin := .file

/-- The prefix is taken away once, and the rest of the first line is kept with what follows it. -/
theorem prefix_rewritten_plainRule :
    PlainPrefix plainRule ∧
      let answers : List Answer := [(.static, .ok [plainRule])]
      LatestPass (tellers answers) 0 (firstPass 1) answers ∧
        let t := ((start (tellers answers) 0).after (firstPass 1)).service
        t.lookUp "host" "/길/x/길/\n/길/" = ("http://h/a/x/길/\n/길/", true) ∧
          t.lookUp "host" "/x/길/" = ("/x/길/", false) := by
  have h : PlainPrefix plainRule :=
    { slash := by decide
      literal := List.all_eq_true.mp (by decide)
      plain := by decide
      fits := by decide }
  refine ⟨h, ?_⟩
  intro answers
  have pass : LatestPass (tellers answers) 0 (firstPass 1) answers :=
    exists_latestPass (List.cons_ne_nil _ _)
  obtain ⟨-, rewritten⟩ := prefix_rewritten pass rfl h (.inr rfl) "/길/x/길/\n/길/"
  obtain ⟨kept, -⟩ := prefix_rewritten pass rfl h (.inr rfl) "/x/길/"
  have answered := rewritten "x/길/" "\n/길/" (by decide) (by decide) (by decide)
  refine ⟨pass, answered.trans (by decide), kept (by decide)⟩

end Course
end Signpost.Proofs

import Mathlib.Data.List.Basic
import Signpost.Rule

/-!
# Prefix rules

What it takes for a rule to be spelled out, what its longer source is, and what its target becomes.
-/

namespace Signpost.Proofs
open Pattern

lemma toList_dropSlash {text : String} (slash : text.toList.getLast? = some '/') :
    (Rule.dropSlash text).toList ++ ['/'] = text.toList := by
  rw [Rule.dropSlash, if_pos slash, String.toList_ofList]
  exact List.dropLast_append_getLast? _ slash

/-- The slash that is taken from the source is put back. -/
lemma toList_longerSource {r : Rule} (slash : r.pattern.source.toList.getLast? = some '/') :
    r.longerSource.toList = '^' :: r.pattern.source.toList ++ "(.*)".toList := by
  rw [← toList_dropSlash slash, Rule.longerSource, String.toList_append, String.toList_append]
  simp

lemma notMem_dropSlash {text : String} {c : Char} (h : c ∉ text.toList) :
    c ∉ (Rule.dropSlash text).toList := by
  rw [Rule.dropSlash]
  split
  · rw [String.toList_ofList]
    exact fun mem => h (List.dropLast_subset _ mem)
  · exact h

lemma compile_eq_ok {source : String} {pattern : Pattern}
    (h : Pattern.compile source = .ok pattern) : pattern.source = source := by
  rw [Pattern.compile] at h
  split at h
  · cases h
    rfl
  · cases h

lemma compile_of_read {source : String} {e : Expr} (h : Expr.read source.toList = .ok e) :
    Pattern.compile source = .ok ⟨source, e, h⟩ := by
  rw [Pattern.compile]
  split
  · rename_i found hfound
    obtain rfl : found = e := by simpa [h] using hfound.symm
    rfl
  · rename_i fault hfault
    rw [h] at hfault
    cases hfault

/-- A rule is left as it is, or it is a prefix rule and its longer source reads as a pattern. -/
theorem extend_cases (r : Rule) :
    r.extend = r ∨
      ∃ longer : Pattern, r.pattern.source.toList.getLast? = some '/' ∧
        '(' ∉ r.pattern.source.toList ∧ longer.source = r.longerSource ∧
        r.extend = { r with pattern := longer, target := Rule.dropSlash r.target ++ "/$1" } := by
  rw [Rule.extend]
  split
  · rename_i eligible
    simp only [Rule.isPrefixRule, Bool.and_eq_true, beq_iff_eq, Bool.not_eq_true'] at eligible
    obtain ⟨⟨slash, noGroup⟩, -⟩ := eligible
    cases compiled : Pattern.compile r.longerSource with
    | error fault => exact .inl rfl
    | ok longer =>
      refine .inr ⟨longer, slash, ?_, compile_eq_ok compiled, rfl⟩
      simpa using noGroup
  · exact .inl rfl

lemma server_extend (r : Rule) : r.extend.server = r.server := by
  unfold Rule.extend
  split
  · split <;> rfl
  · rfl

lemma occursIn_reference {target : List Char} (plain : '$' ∉ target) :
    Rule.occursIn "$1".toList target = false := by
  induction target with
  | nil => rfl
  | cons c target ih =>
    have hc : c ≠ '$' := fun same => plain (same ▸ List.mem_cons_self ..)
    have rest : '$' ∉ target := fun mem => plain (List.mem_cons_of_mem c mem)
    rw [Rule.occursIn, ih rest, Bool.or_false]
    simp [List.isPrefixOf, hc.symm]

theorem extend_of_longer {r : Rule} (slash : r.pattern.source.toList.getLast? = some '/')
    (noGroup : '(' ∉ r.pattern.source.toList) (plain : '$' ∉ r.target.toList) {longer : Pattern}
    (h : Pattern.compile r.longerSource = .ok longer) :
    r.extend = { r with pattern := longer, target := Rule.dropSlash r.target ++ "/$1" } := by
  have eligible : r.isPrefixRule = true := by
    rw [Rule.isPrefixRule, slash, occursIn_reference plain]
    simpa using noGroup
  rw [Rule.extend, if_pos eligible, h]

lemma pieces_of_text {cs : List Char} (plain : '$' ∉ cs) (rest : List Char) :
    Template.pieces .text (cs ++ rest) = cs.map .char ++ Template.pieces .text rest := by
  induction cs with
  | nil => rfl
  | cons c cs ih =>
    have hc : c ≠ '$' := fun same => plain (same ▸ List.mem_cons_self ..)
    have hcs : '$' ∉ cs := fun mem => plain (List.mem_cons_of_mem c mem)
    rw [List.cons_append, Template.pieces, if_neg hc, ih hcs]
    rfl

lemma expand_chars (names : List (String × Nat)) (m : Match) (cs : List Char) :
    Template.expand names m (cs.map .char) = cs := by
  induction cs with
  | nil => rfl
  | cons c cs ih =>
    rw [List.map_cons, Template.expand, List.flatMap_cons, ← Template.expand, ih]
    rfl

/-- What a text without references gives is the text. -/
lemma expand_of_plain {text : List Char} (plain : '$' ∉ text) (names : List (String × Nat))
    (m : Match) : Template.expand names m (Template.read text) = text := by
  have whole := pieces_of_text plain []
  rw [List.append_nil, Template.pieces, List.append_nil] at whole
  rw [Template.read, whole, expand_chars]

/-- What a text with a reference to the first group after it gives for a match. -/
lemma expand_reference {front : String} (plain : '$' ∉ front.toList) (names : List (String × Nat))
    (m : Match) :
    Template.expand names m (Template.read (front ++ "/$1").toList) =
      (front ++ "/").toList ++ (m.group? 1).getD [] := by
  have reference : Template.pieces .text "/$1".toList = [.char '/', .group 1] := by decide
  rw [String.toList_append, Template.read, pieces_of_text plain, reference]
  rw [Template.expand, List.flatMap_append, ← Template.expand, expand_chars, String.toList_append]
  simp [Template.Piece.expand]

/-- What the target of a rule that is spelled out gives for a match. -/
theorem expand_target {target : String} (plain : '$' ∉ target.toList) (names : List (String × Nat))
    (m : Match) :
    Template.expand names m (Template.read (Rule.dropSlash target ++ "/$1").toList) =
      (Rule.dropSlash target ++ "/").toList ++ (m.group? 1).getD [] :=
  expand_reference (notMem_dropSlash plain) names m

end Signpost.Proofs

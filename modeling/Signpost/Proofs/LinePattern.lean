import Signpost.Proofs.AnchoredSearch
import Signpost.Proofs.LineSearch
import Signpost.Proofs.LongerPattern
import Signpost.Proofs.PrefixRules

/-!
# Patterns that take the rest of the line

Some single characters at the start of the text, and a group for the rest of the line. The longer
pattern of a plain prefix is one of these, and so is the pattern of a container without a route.
-/

namespace Signpost.Proofs
open Pattern Pattern.Expr

/-- Single characters at the start of the text, and then the rest of the line. -/
def lineExpr (singles : List Expr) : Expr :=
  .concat (.look .textStart :: singles ++ [restOfLine])

lemma anchored_lineExpr (es : List Expr) : anchored (lineExpr es) = true := rfl

variable {es : List Expr} {p : Place}

lemma matchAt_lineExpr (start : p.before = none) : (lineExpr es).matchAt p ∅ =
    attemptAll (es ++ [restOfLine]) 0 (fun q groups _ => .matched q groups) p [] ∅ := by
  rw [matchAt, lineExpr, attempt, List.cons_append, attemptAll]
  simp [attempt, Look.holds, start, forks]

lemma matchAt_lineExpr_of_not_takes (singles : ∀ e ∈ es, IsSingle e) (start : p.before = none)
    (other : ∀ own rest, p.after = own ++ rest → ¬List.Forall₂ TakesChar es own) :
    (lineExpr es).matchAt p ∅ = .failed ∅ := by
  rw [matchAt_lineExpr start, attemptAll_of_not_takes singles other]

/-- The group holds what follows the single characters up to the end of the line. -/
lemma matchAt_lineExpr_of_takes {own line tail : List Char} (takes : List.Forall₂ TakesChar es own)
    (start : p.before = none) (text : p.after = own ++ line ++ tail) (noFeed : '\n' ∉ line)
    (ends : tail = [] ∨ tail.head? = some '\n') :
    (lineExpr es).matchAt p ∅ =
      .matched (past p (own ++ line)) [(1, ⟨past p own, past p (own ++ line)⟩)] := by
  rw [List.append_assoc] at text
  have rest : (past p own).after = line ++ tail := after_past text
  have enough : line.length < (past p own).after.length + 1 := by
    rw [rest, List.length_append]
    omega
  have group : attemptAll [restOfLine] 0 (fun q groups _ => .matched q groups) (past p own) [] ∅ =
      loop (attempt (.set CharSet.notLineFeed)) 0 true
        (fun q groups _ => .matched q ((1, ⟨past p own, q⟩) :: groups))
        ((past p own).after.length + 1) (past p own) [] ∅ := rfl
  rw [matchAt_lineExpr start, attemptAll_of_takes takes text, group, past_append]
  exact loop_line noFeed ends rest enough (fun _ _ => rfl) (fun _ _ _ => rfl) []

lemma replaceAll_lineExpr_of_not_takes (singles : ∀ e ∈ es, IsSingle e) {text : List Char}
    (other : ∀ own rest, text = own ++ rest → ¬List.Forall₂ TakesChar es own)
    (template : List Char) :
    (lineExpr es).replaceAll text template = text :=
  replaceAll_of_failed (anchored_lineExpr es)
    (matchAt_lineExpr_of_not_takes (p := .ofText text) singles rfl other) template

/-- A text is its first line and what is left from the line feed on. -/
lemma exists_line (text : String) : ∃ line tail : String, text = line ++ tail ∧
    '\n' ∉ line.toList ∧ (tail.toList = [] ∨ tail.toList.head? = some '\n') := by
  have split (cs : List Char) : ∃ line tail, cs = line ++ tail ∧ '\n' ∉ line ∧
      (tail = [] ∨ tail.head? = some '\n') := by
    induction cs with
    | nil => exact ⟨[], [], rfl, List.not_mem_nil, .inl rfl⟩
    | cons c cs ih =>
      by_cases feed : c = '\n'
      · exact ⟨[], c :: cs, rfl, List.not_mem_nil, .inr (congrArg some feed)⟩
      · obtain ⟨line, tail, rfl, noFeed, ends⟩ := ih
        refine ⟨c :: line, tail, rfl, ?_, ends⟩
        exact List.not_mem_cons_of_ne_of_not_mem (Ne.symm feed) noFeed
  obtain ⟨line, tail, whole, noFeed, ends⟩ := split text.toList
  refine ⟨.ofList line, .ofList tail, ?_, ?_, ?_⟩
  · rw [← String.toList_inj, whole]
    simp
  · rwa [String.toList_ofList]
  · rwa [String.toList_ofList]

/-- What the single characters match is replaced by the target, and the rest of the text is kept. -/
theorem replaceAll_lineExpr_of_takes {own line tail : List Char} (some : es ≠ [])
    (takes : List.Forall₂ TakesChar es own) (noFeed : '\n' ∉ line)
    (ends : tail = [] ∨ tail.head? = .some '\n') {front : String} (plain : '$' ∉ front.toList) :
    (lineExpr es).replaceAll (own ++ line ++ tail) (front ++ "/$1").toList =
      (front ++ "/").toList ++ line ++ tail := by
  have nonempty : own ++ line ≠ [] := by
    apply List.append_ne_nil_of_left_ne_nil
    rintro rfl
    exact some (List.forall₂_nil_right_iff.mp takes)
  let p := Place.ofText (own ++ line ++ tail)
  have text : p.after = own ++ (line ++ tail) := List.append_assoc ..
  obtain ⟨rest, replaced, after⟩ := replaceAll_of_matched (anchored_lineExpr es)
    (matchAt_lineExpr_of_takes (p := p) takes rfl rfl noFeed ends) (front ++ "/$1").toList
  have taken : (past p own).textTo (past p (own ++ line)) = line := by
    rw [past_append]
    exact textTo_past (after_past text)
  have group (whole : Span) :
      Match.group? ⟨whole, [(1, ⟨past p own, past p (own ++ line)⟩)]⟩ 1 = .some line :=
    congrArg _ taken
  rw [replaced, expand_reference plain, after (before_past _ _ (.inr nonempty)),
    after_past (p := p) rfl, group, Option.getD_some]

end Signpost.Proofs

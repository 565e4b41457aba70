import Signpost.Proofs.AnchoredSearch
import Signpost.Proofs.LongerPattern
import Signpost.Proofs.PrefixRules

/-!
# Which prefix rules are anchored

The start of the text that stands before a longer source belongs to its first alternative. A rule
that is spelled out is anchored if there is no other alternative, or if the others are anchored by
themselves.
-/

namespace Signpost.Proofs
open Pattern Pattern.Expr

/-- The alternatives of an expression after the first one. -/
def laterAlternatives : Expr → List Expr
  | .choice branches => branches.tail
  | _ => []

lemma anchoredAll_iff (branches : List Expr) :
    anchoredAll branches = true ↔ ∀ e ∈ branches, anchored e = true := by
  induction branches with
  | nil => simp [anchoredAll]
  | cons e branches ih => simp [anchoredAll, ih]

lemma anchored_first (items : List Expr) :
    anchored (ofItems (.look .textStart :: items)) = true := by
  cases items <;> rfl

/-- What comes after an anchored alternative does not move its start. -/
lemma anchored_append {items : List Expr} (h : anchored (ofItems items) = true) (e : Expr) :
    anchored (ofItems (items ++ [e])) = true := by
  match items with
  | [] => cases h
  | [first] => exact h
  | first :: second :: items => exact h

/-- The longer expression is anchored if the alternatives after the first are. -/
theorem anchored_longer {a : Alternatives}
    (h : (∃ items, a = .one items) ∨
      ∀ e ∈ laterAlternatives (ofBranches a.exprs), anchored e = true) :
    anchored a.longer = true := by
  cases a with
  | one items => exact anchored_first _
  | several first between last =>
    have later := h.resolve_left (by simp)
    have branches : ofBranches (Alternatives.several first between last).exprs =
        .choice (ofItems first :: (between ++ [ofItems last])) := by
      cases between <;> rfl
    have longer : (Alternatives.several first between last).longer =
        .choice (ofItems (.look .textStart :: first) ::
          (between ++ [ofItems (last ++ [restOfLine])])) := by
      cases between <;> rfl
    rw [branches] at later
    rw [longer, anchored, anchoredAll_iff]
    intro e mem
    rw [List.mem_cons, List.mem_append, List.mem_singleton] at mem
    rcases mem with rfl | mem | rfl
    · exact anchored_first first
    · exact later e (List.mem_append_left _ mem)
    · exact anchored_append (later _ (List.mem_append_right _ (List.mem_singleton_self _))) _

/-- A prefix rule that is spelled out sends a path to a place under its target or leaves it as it
is, and its pattern matches at the start of the path only. This is so if the source has one
alternative, or if every other one is anchored by itself. -/
theorem extended_anchored {r : Rule} (changed : r.extend ≠ r) (plain : '$' ∉ r.target.toList)
    (single : '|' ∉ r.pattern.source.toList ∨
      ∀ e ∈ laterAlternatives r.pattern.expr, anchored e = true) :
    (∀ path, r.extend.redirect path = path ∨
      (Rule.dropSlash r.target ++ "/").toList <+: (r.extend.redirect path).toList) ∧
    ∀ place m, r.extend.pattern.expr.find place = some m →
      m.whole.start = place ∧ place.before = none := by
  obtain ⟨longer, slash, noGroup, source, hextend⟩ := (extend_cases r).resolve_left changed
  have text := longer.read_source
  rw [source, toList_longerSource slash] at text
  obtain ⟨a, branches, hlonger, one⟩ := read_longer noGroup r.pattern.read_source text
  have whole : anchored longer.expr = true := by
    rw [hlonger]
    apply anchored_longer
    rw [← branches]
    exact single.imp one id
  rw [hextend]
  refine ⟨?_, fun place m found => start_of_find whole found⟩
  intro path
  rw [Rule.redirect, Pattern.replaceAll]
  cases attempted : longer.expr.matchAt (.ofText path.toList) ∅ with
  | failed tried =>
    left
    rw [replaceAll_of_failed whole attempted, String.ofList_toList]
  | matched stop groups =>
    right
    obtain ⟨rest, replaced, -⟩ := replaceAll_of_matched whole attempted
      (Rule.dropSlash r.target ++ "/$1").toList
    rw [replaced, expand_target plain, String.toList_ofList, List.append_assoc]
    exact List.prefix_append _ _

/-- The second alternative is anchored by itself. -/
def bothAnchored : Rule where
  server := "*"
  pattern := ⟨"/a/|^/b/", .choice [.concat [.char '/', .char 'a', .char '/'],
    .concat [.look .textStart, .char '/', .char 'b', .char '/']], rfl⟩
  target := "http://h/"
  origin := .static

theorem extended_anchored_bothAnchored :
    bothAnchored.extend ≠ bothAnchored ∧
      (∀ path, bothAnchored.extend.redirect path = path ∨
        (Rule.dropSlash bothAnchored.target ++ "/").toList <+:
          (bothAnchored.extend.redirect path).toList) ∧
      bothAnchored.extend.redirect "/b/c" = "http://h/c" := by
  have changed : bothAnchored.extend ≠ bothAnchored := by decide +kernel
  have plain : '$' ∉ bothAnchored.target.toList := by decide
  have later : ∀ e ∈ laterAlternatives bothAnchored.pattern.expr, anchored e = true := by
    intro e mem
    obtain rfl := List.mem_singleton.mp mem
    rfl
  obtain ⟨sends, -⟩ := extended_anchored changed plain (.inr later)
  exact ⟨changed, sends, by decide +kernel⟩

/-- The second alternative is not anchored. -/
def eitherPrefix : Rule where
  server := "*"
  pattern := ⟨"/a|/b/", .choice [.concat [.char '/', .char 'a'],
    .concat [.char '/', .char 'b', .char '/']], rfl⟩
  target := "http://h/"
  origin := .static

/-- The second alternative of a source is replaced wherever it stands. -/
theorem eitherPrefix_unanchored :
    eitherPrefix.extend ≠ eitherPrefix ∧ '$' ∉ eitherPrefix.target.toList ∧
      eitherPrefix.extend.redirect "/x/b/y" = "/xhttp://h/y" ∧
      ¬ (eitherPrefix.extend.redirect "/x/b/y" = "/x/b/y" ∨
        (Rule.dropSlash eitherPrefix.target ++ "/").toList <+:
          (eitherPrefix.extend.redirect "/x/b/y").toList) := by
  decide +kernel

end Signpost.Proofs

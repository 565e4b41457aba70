import Mathlib.Data.List.Infix
import Signpost.Proofs.TableComposition
import Signpost.Proofs.PrefixRules

/-!
# Rules that are spelled out

When a rule is spelled out and what it is then. A rule that is spelled out has a parenthesis in its
source, so that nothing is left to be done, and so it is with a rule whose longer source is refused.
-/

namespace Signpost.Proofs

variable {r : Rule}

/-- The second text is the first one less one slash at its end. -/
inductive LessOneSlash : String → String → Prop
  | slash (text : String) : LessOneSlash (text ++ "/") text
  | bare {text : String} (none : ∀ front, text ≠ front ++ "/") : LessOneSlash text text

/-- What it takes for a rule to be spelled out. -/
structure Spellable (r : Rule) : Prop where
  slash : ∃ front, r.pattern.source = front ++ "/"
  noGroup : '(' ∉ r.pattern.source.toList
  noReference : ∀ before after, r.target ≠ before ++ "$1" ++ after
  accepted : ∃ longer, Pattern.compile ("^" ++ r.pattern.source ++ "(.*)") = .ok longer

/-- The second rule is the first one spelled out. -/
structure SpellsOut (r s : Rule) : Prop where
  source : s.pattern.source = "^" ++ r.pattern.source ++ "(.*)"
  target : ∃ front, LessOneSlash r.target front ∧ s.target = front ++ "/$1"
  server : s.server = r.server
  origin : s.origin = r.origin
  ping : s.ping = r.ping

lemma lessOneSlash_dropSlash (text : String) : LessOneSlash text (Rule.dropSlash text) := by
  by_cases slash : text.toList.getLast? = some '/'
  · obtain ⟨front, rfl⟩ : ∃ front, text = front ++ "/" := Text.getLast?_toList_iff.mp slash
    have less : Rule.dropSlash (front ++ "/") = front := by
      rw [Rule.dropSlash, if_pos slash, ← String.toList_inj]
      simp
    rw [less]
    exact .slash front
  · rw [Rule.dropSlash, if_neg slash]
    exact .bare fun front same => slash (Text.getLast?_toList_iff.mpr ⟨front, same⟩)

lemma occursIn_iff {part text : List Char} : Rule.occursIn part text = true ↔ part <:+: text := by
  induction text with
  | nil => simp [Rule.occursIn]
  | cons c text ih =>
    rw [Rule.occursIn, Bool.or_eq_true, List.isPrefixOf_iff_prefix, ih, List.infix_cons_iff]

lemma occursIn_reference_iff {target : String} :
    Rule.occursIn "$1".toList target.toList = true ↔
      ∃ before after, target = before ++ "$1" ++ after := by
  rw [occursIn_iff]
  constructor
  · rintro ⟨before, after, h⟩
    refine ⟨String.ofList before, String.ofList after, ?_⟩
    rw [← String.toList_inj, ← h]
    simp
  · rintro ⟨before, after, rfl⟩
    exact ⟨before.toList, after.toList, by simp⟩

lemma isPrefixRule_iff :
    r.isPrefixRule = true ↔ (∃ front, r.pattern.source = front ++ "/") ∧
      '(' ∉ r.pattern.source.toList ∧ ∀ before after, r.target ≠ before ++ "$1" ++ after := by
  have noReference : Rule.occursIn "$1".toList r.target.toList = false ↔
      ∀ before after, r.target ≠ before ++ "$1" ++ after := by
    rw [← Bool.not_eq_true, occursIn_reference_iff]
    simp only [not_exists, ne_eq]
  rw [Rule.isPrefixRule, Bool.and_eq_true, Bool.and_eq_true, beq_iff_eq, Text.getLast?_toList_iff,
    Bool.not_eq_true', Bool.not_eq_true', noReference, and_assoc]
  simp

lemma longerSource_eq (slash : ∃ front, r.pattern.source = front ++ "/") :
    r.longerSource = "^" ++ r.pattern.source ++ "(.*)" := by
  rw [← String.toList_inj, toList_longerSource (Text.getLast?_toList_iff.mpr slash)]
  simp

/-- A rule is spelled out if that can be done, and is left as it is if not. -/
theorem extend_spec (r : Rule) :
    (Spellable r ∧ SpellsOut r r.extend) ∨ (¬Spellable r ∧ r.extend = r) := by
  by_cases eligible : r.isPrefixRule = true
  · obtain ⟨slash, noGroup, noReference⟩ := isPrefixRule_iff.mp eligible
    cases compiled : Pattern.compile r.longerSource with
    | ok longer =>
      refine .inl ⟨⟨slash, noGroup, noReference, longer, longerSource_eq slash ▸ compiled⟩, ?_⟩
      simp only [Rule.extend, eligible, if_true, compiled]
      exact
        { source := (compile_eq_ok compiled).trans (longerSource_eq slash)
          target := ⟨_, lessOneSlash_dropSlash r.target, rfl⟩
          server := rfl
          origin := rfl
          ping := rfl }
    | error fault =>
      refine .inr ⟨?_, by simp only [Rule.extend, eligible, if_true, compiled]⟩
      rintro ⟨-, -, -, longer, accepted⟩
      rw [← longerSource_eq slash, compiled] at accepted
      cases accepted
  · refine .inr ⟨?_, if_neg eligible⟩
    rintro ⟨slash, noGroup, noReference, -⟩
    exact eligible (isPrefixRule_iff.mpr ⟨slash, noGroup, noReference⟩)

/-- A rule with a parenthesis in its source is not spelled out. -/
lemma extend_of_group (group : '(' ∈ r.pattern.source.toList) : r.extend = r := by
  rcases extend_spec r with ⟨spellable, -⟩ | ⟨-, same⟩
  · exact absurd group spellable.noGroup
  · exact same

/-- A rule whose source has no slash at its end is not spelled out. -/
lemma extend_of_noSlash (noSlash : r.pattern.source.toList.getLast? ≠ some '/') : r.extend = r := by
  rcases extend_spec r with ⟨spellable, -⟩ | ⟨-, same⟩
  · exact absurd (Text.getLast?_toList_iff.mpr spellable.slash) noSlash
  · exact same

/-- A rule whose target uses the first group is not spelled out. -/
lemma extend_of_reference {before after : String}
    (target : r.target = before ++ "$1" ++ after) : r.extend = r := by
  rcases extend_spec r with ⟨spellable, -⟩ | ⟨-, same⟩
  · exact absurd target (spellable.noReference before after)
  · exact same

lemma ne_of_spellsOut {s : Rule} (h : SpellsOut r s) : s ≠ r := by
  rintro rfl
  have length := congrArg String.length h.source
  simp only [String.length_append] at length
  have caret : "^".length = 1 := rfl
  omega

/-- What is spelled out cannot be spelled out again. -/
lemma not_spellable_of_spellsOut {s : Rule} (h : SpellsOut r s) : ¬Spellable s := by
  intro spellable
  apply spellable.noGroup
  rw [h.source]
  simp

theorem extend_extend (r : Rule) : r.extend.extend = r.extend := by
  rcases extend_spec r with ⟨-, spelled⟩ | ⟨-, same⟩
  · rcases extend_spec r.extend with ⟨again, -⟩ | ⟨-, same⟩
    · exact absurd again (not_spellable_of_spellsOut spelled)
    · exact same
  · rw [same, same]

end Signpost.Proofs

import Signpost.Proofs.RuleLines

/-!
# Validated lines

Static rules are validated before they are read. Validation counts the fields of a line and nothing
else, so that what it accepts can only be refused for a source that is no pattern.
-/

namespace Signpost.Proofs
open Settings Source

/-- The first of some lines that is refused, with the lines before it. -/
structure FirstRefused (refused : String → Prop) (lines before : List String) (line : String) :
    Prop where
  split : ∃ after, lines = before ++ line :: after
  passed : ∀ earlier ∈ before, ¬refused earlier
  refused : refused line

/-- A line that no rule is read from. -/
def IsRejected (line : String) : Prop :=
  ∃ cause, Line.read line = .error cause

/-- What refuses more lines refuses at the same line or before it. -/
lemma FirstRefused.isPrefix {refused refusedToo : String → Prop}
    {lines before beforeToo : List String} {line lineToo : String}
    (more : ∀ line, refusedToo line → refused line) (h : FirstRefused refused lines before line)
    (k : FirstRefused refusedToo lines beforeToo lineToo) : before <+: beforeToo := by
  obtain ⟨after, split⟩ := h.split
  obtain ⟨afterToo, splitToo⟩ := k.split
  have whole : before <+: lines := split ▸ List.prefix_append _ _
  have wholeToo : beforeToo <+: lines := splitToo ▸ List.prefix_append _ _
  rcases List.prefix_or_prefix_of_prefix whole wholeToo with shorter | ⟨rest, rfl⟩
  · exact shorter
  · cases rest with
    | nil => simp
    | cons first rest =>
      -- the line that is refused too would be one of those that passed
      have same := split.symm.trans splitToo
      rw [List.append_assoc, List.append_cancel_left_eq] at same
      obtain ⟨rfl, -⟩ := List.cons.inj same
      have passed := h.passed first (List.mem_append_right _ (List.mem_cons_self ..))
      exact absurd (more first k.refused) passed

section Lines

variable {rules : List String}

/-- Settings that ask for static rules and nothing else. -/
def askingFor (rules : List String) : Settings :=
  { staticRules := { enabled := true, rules } }

lemma validate_lines : StaticRules.validate { enabled := true, rules } =
    check (askingFor rules) .ruleFields :=
  validate_staticRules (askingFor rules)

lemma validate_lines_eq_ok_iff : StaticRules.validate { enabled := true, rules } = .ok () ↔
    ∀ rule ∈ rules, HasFields rule := by
  rw [validate_lines, check_eq_ok_iff]
  exact ⟨fun met => met rfl, fun all _ => all⟩

lemma validate_lines_eq_error_iff {fault : Settings.Fault} :
    StaticRules.validate { enabled := true, rules } = .error fault ↔ ∃ before rule,
      FirstRefused (fun rule => ¬HasFields rule) rules before rule ∧
        fault = .invalid "PROXY_STATIC_RULES" rule ("규칙은 필드가 3개 또는 4개여야 합니다 (현재 " ++
          toString (rule.toList.count ',' + 1) ++ "개)") := by
  rw [validate_lines, check_eq_error_iff]
  constructor
  · rintro ⟨-, refusal⟩
    cases refusal with | ruleFields split right wrong =>
    exact ⟨_, _, ⟨⟨_, split⟩, fun other mem => not_not.mpr (right other mem), wrong⟩, rfl⟩
  · rintro ⟨before, rule, ⟨⟨after, split⟩, passed, wrong⟩, rfl⟩
    refine ⟨fun met => wrong (met rfl rule ?_), .ruleFields split ?_ wrong⟩
    · rw [show (askingFor rules).staticRules.rules = before ++ rule :: after from split]
      exact List.mem_append_right before (List.mem_cons_self ..)
    · exact fun other mem => not_not.mp (passed other mem)

lemma not_isRejected_iff {line : String} : ¬IsRejected line ↔ ∃ r, Line.read line = .ok r := by
  rw [IsRejected]
  cases Line.read line <;> simp

lemma isRejected_of_not_hasFields {line : String} (few : ¬HasFields line) : IsRejected line :=
  ⟨_, read_of_not_hasFields few⟩

lemma readAll_eq_error_iff_firstRefused {fault : Source.Fault} :
    Line.readAll rules = .error fault ↔ ∃ before rule cause,
      FirstRefused IsRejected rules before rule ∧ Line.read rule = .error cause ∧
        fault = .invalidRule rule cause.reason := by
  rw [readAll_eq_error_iff]
  simp only [← not_isRejected_iff]
  constructor
  · rintro ⟨before, rule, after, cause, split, passed, read, rfl⟩
    exact ⟨before, rule, cause, ⟨⟨after, split⟩, passed, ⟨cause, read⟩⟩, read, rfl⟩
  · rintro ⟨before, rule, cause, ⟨⟨after, split⟩, passed, -⟩, read, rfl⟩
    exact ⟨before, rule, after, cause, split, passed, read, rfl⟩

lemma hasFields_of_readAll {made : List Rule} (read : Line.readAll rules = .ok made) :
    ∀ rule ∈ rules, HasFields rule := by
  intro rule mem
  obtain ⟨r, -, read⟩ := exists_of_forall₂ (readAll_eq_ok_iff.mp read) mem
  by_contra few
  cases read.symm.trans (read_of_not_hasFields few)

/-- Lines are accepted by validation exactly if reading refuses none of them for its number of
fields. So lines that are accepted list a rule each, or the fault of the first one whose source is
no pattern, and lines that list their rules are accepted. The line that is refused by reading is not
after the one that is refused by validation. -/
theorem validation_agrees_with_reading (rules : List String) :
    let checked := StaticRules.validate { enabled := true, rules }
    (checked = .ok () ↔ ∀ rule ∈ rules, ∀ n, Line.read rule ≠ .error (.fieldCount n)) ∧
    (checked = .ok () →
      (∃ made, Line.readAll rules = .ok made ∧
        List.Forall₂ (fun line r => Line.read line = .ok r) rules made) ∨
      ∃ before rule cause, FirstRefused IsRejected rules before rule ∧
        Line.read rule = .error (.pattern cause) ∧ IsRefused cause.source ∧
        Line.readAll rules = .error (.invalidRule rule cause.message)) ∧
    (∀ made, Line.readAll rules = .ok made → checked = .ok ()) ∧
    (∀ fault, checked = .error fault → ∃ before rule,
      FirstRefused (fun rule => ¬HasFields rule) rules before rule ∧
      fault = .invalid "PROXY_STATIC_RULES" rule ("규칙은 필드가 3개 또는 4개여야 합니다 (현재 " ++
        toString (rule.toList.count ',' + 1) ++ "개)") ∧
      ∃ earlier other cause, FirstRefused IsRejected rules earlier other ∧
        Line.read other = .error cause ∧
        Line.readAll rules = .error (.invalidRule other cause.reason) ∧ earlier <+: before) := by
  intro checked
  have accepted : checked = .ok () ↔ ∀ rule ∈ rules, HasFields rule := validate_lines_eq_ok_iff
  refine ⟨?_, ?_, ?_, ?_⟩
  · rw [accepted]
    refine forall₂_congr fun rule _ => ?_
    rw [← not_iff_not, ← read_eq_fieldCount_iff]
    simp
  · intro h
    rw [accepted] at h
    cases read : Line.readAll rules with
    | ok made => exact .inl ⟨made, rfl, readAll_eq_ok_iff.mp read⟩
    | error fault =>
      obtain ⟨before, rule, cause, first, failed, rfl⟩ := readAll_eq_error_iff_firstRefused.mp read
      obtain ⟨after, split⟩ := first.split
      have mem : rule ∈ rules := split ▸ List.mem_append_right before (List.mem_cons_self ..)
      cases cause with
      | fieldCount n => exact absurd (h rule mem) (read_eq_fieldCount_iff.mp ⟨n, failed⟩)
      | pattern cause =>
        exact .inr ⟨before, rule, cause, first, failed, isRefused_of_read failed, rfl⟩
  · exact fun made read => accepted.mpr (hasFields_of_readAll read)
  · intro fault refused
    obtain ⟨before, rule, first, rfl⟩ := validate_lines_eq_error_iff.mp refused
    refine ⟨before, rule, first, rfl, ?_⟩
    cases read : Line.readAll rules with
    | ok made => cases refused.symm.trans (accepted.mpr (hasFields_of_readAll read))
    | error fault =>
      obtain ⟨earlier, other, cause, firstToo, failed, rfl⟩ :=
        readAll_eq_error_iff_firstRefused.mp read
      exact ⟨earlier, other, cause, firstToo, failed, rfl,
        firstToo.isPrefix (fun _ => isRejected_of_not_hasFields) first⟩

end Lines

/-- A line that lists a rule, one whose source is no pattern, and one with two fields. -/
def mixedLines : List String :=
  [",/a/,http://h/", "h,/a|+,d", "h,/b/"]

theorem validation_agrees_with_reading_mixedLines :
    StaticRules.validate { enabled := true, rules := mixedLines } =
        .error (.invalid "PROXY_STATIC_RULES" "h,/b/"
          "규칙은 필드가 3개 또는 4개여야 합니다 (현재 2개)") ∧
      (∃ before rule, FirstRefused (fun rule => ¬HasFields rule) mixedLines before rule ∧
        ∃ earlier other, FirstRefused IsRejected mixedLines earlier other ∧ earlier <+: before) ∧
      StaticRules.validate { enabled := true, rules := mixedLines.take 2 } = .ok () ∧
      (∃ rule cause, Line.read rule = .error (.pattern cause) ∧ IsRefused cause.source ∧
        Line.readAll (mixedLines.take 2) = .error (.invalidRule rule cause.message)) ∧
      (Line.readAll (mixedLines.take 1)).isOk = true ∧
      StaticRules.validate { enabled := true, rules := mixedLines.take 1 } = .ok () := by
  obtain ⟨-, -, -, ordered⟩ := validation_agrees_with_reading mixedLines
  obtain ⟨-, narrowed, -, -⟩ := validation_agrees_with_reading (mixedLines.take 2)
  obtain ⟨-, -, listed, -⟩ := validation_agrees_with_reading (mixedLines.take 1)
  have refused : StaticRules.validate { enabled := true, rules := mixedLines } =
      .error (.invalid "PROXY_STATIC_RULES" "h,/b/"
        "규칙은 필드가 3개 또는 4개여야 합니다 (현재 2개)") := rfl
  have accepted : StaticRules.validate { enabled := true, rules := mixedLines.take 2 } = .ok () :=
    rfl
  obtain ⟨before, rule, first, -, earlier, other, -, firstToo, -, -, shorter⟩ := ordered _ refused
  refine ⟨refused, ⟨before, rule, first, earlier, other, firstToo, shorter⟩, accepted, ?_, rfl, ?_⟩
  · rcases narrowed accepted with ⟨made, read, -⟩ | ⟨-, rule, cause, -, failed, isRefused, read⟩
    · cases read
    · exact ⟨rule, cause, failed, isRefused, read⟩
  · exact listed _ rfl

end Signpost.Proofs

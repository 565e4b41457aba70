import Mathlib
import Signpost.Proofs.TrimmedText
import Signpost.Settings.Environment

/-!
# Texts of settings

How the values of settings are written in variables, and that they are read from what is written:
words in capital or small letters, numbers in decimal, and lists with a separator.
-/

namespace Signpost.Proofs
open Settings Text

section Words

/-- A text is a word of which each letter may be capital or small. -/
def InAnyCase (word text : String) : Prop :=
  List.Forall₂ (fun c d => d = c ∨ d = c.toUpper) word.toList text.toList

variable {word text : String}

lemma toLower_of_isLower {c : Char} (small : c.isLower = true) : c.toLower = c :=
  Char.toLower_eq_of_not_isUpper (Char.not_isUpper_of_isLower small)

lemma toLower_eq_iff {c d : Char} (small : c.isLower = true) :
    d.toLower = c ↔ d = c ∨ d = c.toUpper := by
  constructor
  · rintro rfl
    by_cases lower : d.isLower = true
    · exact .inl (toLower_of_isLower lower).symm
    · rw [Char.toUpper_toLower_eq_toUpper, Char.toUpper_eq_of_not_isLower lower]
      exact .inr rfl
  · rintro (rfl | rfl)
    · exact toLower_of_isLower small
    · rw [Char.toLower_toUpper_eq_toLower, toLower_of_isLower small]

/-- Texts that are a word in some letter case are those that have it as their folded form. -/
lemma folded_eq_iff (small : ∀ c ∈ word.toList, c.isLower = true) :
    folded text.toList = word.toList ↔ InAnyCase word text := by
  rw [folded, InAnyCase, ← List.forall₂_eq_eq_eq, List.forall₂_map_left_iff]
  constructor
  · intro same
    have each := (List.forall₂_and_left _ _).mpr ⟨small, same.flip⟩
    exact each.imp fun c d ⟨small, same⟩ => (toLower_eq_iff small).mp same
  · intro cased
    have each := (List.forall₂_and_left _ _).mpr ⟨small, cased⟩
    exact (each.imp fun c d ⟨small, cased⟩ => (toLower_eq_iff small).mpr cased).flip

lemma inAnyCase_self (word : String) : InAnyCase word word :=
  List.forall₂_same.mpr fun _ _ => .inl rfl

lemma isTrimmed_of_solid {cs : List Char} (solid : ∀ c ∈ cs, isBlank c = false) : IsTrimmed cs :=
  ⟨fun c first => solid c (List.mem_of_head? first),
    fun c last => solid c (List.mem_of_getLast? last)⟩

lemma isBlank_of_visible {c : Char} (low : 0x20 < c.toNat) (high : c.toNat < 0x85) :
    isBlank c = false := by
  simp [isBlank]
  omega

lemma isBlank_of_isAlpha {c : Char} (letter : c.isAlpha = true) : isBlank c = false := by
  simp only [Char.isAlpha, Char.isUpper, Char.isLower, Bool.or_eq_true, Bool.and_eq_true,
    decide_eq_true_eq, ge_iff_le, UInt32.le_iff_toNat_le] at letter
  change (65 ≤ c.toNat ∧ c.toNat ≤ 90) ∨ (97 ≤ c.toNat ∧ c.toNat ≤ 122) at letter
  exact isBlank_of_visible (by omega) (by omega)

lemma isTrimmed_of_inAnyCase (small : ∀ c ∈ word.toList, c.isLower = true)
    (cased : InAnyCase word text) : IsTrimmed text.toList := by
  apply isTrimmed_of_solid
  intro d mem
  have folds := (folded_eq_iff small).mpr cased
  have letter : d.toLower.isLower = true := small _ (folds ▸ List.mem_map_of_mem mem)
  rw [Char.isLower_toLower_eq_isAlpha] at letter
  exact isBlank_of_isAlpha letter

end Words

section Numbers

lemma digitValue?_digitChar {d : Nat} (h : d < 10) : digitValue? (Nat.digitChar d) = some d := by
  revert h
  revert d
  decide

lemma readDigits_append {limit value middle : Nat} {cs : List Char}
    (h : readDigits limit value cs = .ok middle) (ds : List Char) :
    readDigits limit value (cs ++ ds) = readDigits limit middle ds := by
  induction cs generalizing value with
  | nil =>
    cases h
    rfl
  | cons c cs ih =>
    rw [List.cons_append, readDigits]
    rw [readDigits] at h
    cases hd : digitValue? c with
    | none => simp [hd] at h
    | some d =>
      simp only [hd] at h ⊢
      split at h
      · cases h
      · rename_i fits
        rw [if_neg fits, ih h]

lemma readDigits_digitChar {limit value d : Nat} (digit : d < 10) (fits : 10 * value + d ≤ limit) :
    readDigits limit value [Nat.digitChar d] = .ok (10 * value + d) := by
  rw [readDigits, digitValue?_digitChar digit]
  exact if_neg (Nat.not_lt.mpr fits)

/-- The decimal digits of a number read as the number. -/
lemma readDigits_toDigits {limit n : Nat} (fits : n ≤ limit) :
    readDigits limit 0 (Nat.toDigits 10 n) = .ok n := by
  induction n using Nat.strongRecOn with
  | ind n ih =>
    rw [Nat.toDigits_eq_if (by decide)]
    split
    · rename_i digit
      have value : readDigits limit 0 [Nat.digitChar n] = .ok (10 * 0 + n) :=
        readDigits_digitChar digit (by omega)
      rwa [Nat.mul_zero, Nat.zero_add] at value
    · have front := ih (n / 10) (by omega) (by omega)
      rw [readDigits_append front, readDigits_digitChar (Nat.mod_lt n (by decide)) (by omega),
        Nat.div_add_mod]

lemma readNat_of_digits {limit : Nat} {cs : List Char} (some : cs ≠ [])
    (digits : ∀ c ∈ cs, c.isDigit = true) : readNat limit cs = readDigits limit 0 cs := by
  have noSign : '+' ∉ cs := fun mem => absurd (digits '+' mem) (by decide)
  unfold readNat
  split
  · exact absurd rfl some
  · exact absurd (List.mem_cons_self ..) noSign
  · exact absurd (List.mem_cons_self ..) noSign
  · rfl

lemma isDigit_of_mem_decimal {n : Nat} : ∀ c ∈ (toString n).toList, c.isDigit = true := by
  rw [Nat.toString_eq_repr, Nat.toList_repr]
  exact fun c mem => Nat.isDigit_of_mem_toDigits (by decide) (by decide) mem

lemma readNat_decimal {limit n : Nat} (fits : n ≤ limit) :
    readNat limit (toString n).toList = .ok n := by
  have digits : ∀ c ∈ (toString n).toList, c.isDigit = true := isDigit_of_mem_decimal
  rw [Nat.toString_eq_repr, Nat.toList_repr] at digits ⊢
  rw [readNat_of_digits Nat.toDigits_ne_nil digits, readDigits_toDigits fits]

lemma isBlank_of_isDigit {c : Char} (digit : c.isDigit = true) : isBlank c = false := by
  simp only [Char.isDigit, Bool.and_eq_true, decide_eq_true_eq, ge_iff_le,
    UInt32.le_iff_toNat_le] at digit
  change 48 ≤ c.toNat ∧ c.toNat ≤ 57 at digit
  exact isBlank_of_visible (by omega) (by omega)

lemma isTrimmed_decimal (n : Nat) : IsTrimmed (toString n).toList :=
  isTrimmed_of_solid fun c mem => isBlank_of_isDigit (isDigit_of_mem_decimal c mem)

end Numbers

section Lists

/-- An item of a list with a separator: it is not empty and has no blanks around it. -/
structure IsItem (separator : Char) (item : String) : Prop where
  trimmed : IsTrimmed item.toList
  nonempty : item ≠ ""
  apart : separator ∉ item.toList

/-- The items with a separator between them. -/
def listText (separator : Char) (items : List String) : String :=
  String.ofList (joinWith separator (items.map String.toList))

variable {separator : Char}

/-- What is kept of the parts of a list. -/
def keptParts (parts : List (List Char)) : List String :=
  ((parts.map trim).filter (· ≠ [])).map String.ofList

lemma keptParts_append (first second : List (List Char)) :
    keptParts (first ++ second) = keptParts first ++ keptParts second := by
  simp [keptParts]

lemma keptParts_nil_part : keptParts [[]] = [] := rfl

lemma keptParts_of_padded {part padded : List Char} (h : Padded part padded) :
    keptParts [padded] = keptParts [part] := by
  simp [keptParts, trim_eq_of_padded h]

lemma listItems_cons {c : Char} (blank : isBlank c = true) (cs : List Char) :
    listItems separator (c :: cs) = listItems separator cs := by
  have padded (part : List Char) : Padded part (c :: part) :=
    ⟨[c], [], by simpa using blank, nofun, by simp⟩
  change keptParts (splitOn separator (c :: cs)) = keptParts (splitOn separator cs)
  rw [splitOn]
  split
  · exact keptParts_append [[]] _
  · cases parts : splitOn separator cs with
    | nil => exact absurd parts (splitOn_ne_nil separator cs)
    | cons part parts =>
      dsimp only
      rw [← List.singleton_append, keptParts_append, keptParts_of_padded (padded part),
        ← keptParts_append, List.singleton_append]

lemma listItems_concat {c : Char} (blank : isBlank c = true) (cs : List Char) :
    listItems separator (cs ++ [c]) = listItems separator cs := by
  have padded (part : List Char) : Padded part (part ++ [c]) :=
    ⟨[], [c], nofun, by simpa using blank, rfl⟩
  obtain ⟨front, last, parts, later⟩ := splitOn_concat separator cs
  change keptParts (splitOn separator (cs ++ [c])) = keptParts (splitOn separator cs)
  rw [parts, later, keptParts_append, keptParts_append]
  split
  · rw [← List.singleton_append, keptParts_append, keptParts_nil_part, List.append_nil]
  · rw [keptParts_of_padded (padded last)]

/-- Blanks around a list do not count, even if they are separators of it. -/
lemma listItems_of_padded {text padded : List Char} (h : Padded text padded) :
    listItems separator padded = listItems separator text := by
  obtain ⟨left, right, blankLeft, blankRight, rfl⟩ := h
  have back (cs : List Char) : listItems separator (cs ++ right) = listItems separator cs := by
    induction right using List.reverseRecOn with
    | nil => rw [List.append_nil]
    | append_singleton right c ih =>
      obtain ⟨blank, last⟩ := List.forall_mem_append.mp blankRight
      rw [← List.append_assoc, listItems_concat (last c (List.mem_singleton_self c)), ih blank]
  rw [back]
  induction left with
  | nil => rfl
  | cons c left ih =>
    obtain ⟨first, blank⟩ := List.forall_mem_cons.mp blankLeft
    rw [List.cons_append, listItems_cons first, ih blank]

/-- A list of parts gives those parts that are not blank, trimmed. -/
lemma listItems_joinWith {parts : List (List Char)} (apart : ∀ part ∈ parts, separator ∉ part) :
    listItems separator (joinWith separator parts) = keptParts parts := by
  cases parts with
  | nil => rfl
  | cons part parts => rw [listItems, splitOn_joinWith apart (List.cons_ne_nil _ _), keptParts]

/-- A list gives the items that it is written for. -/
lemma listItems_listText {items : List String} (each : ∀ item ∈ items, IsItem separator item) :
    listItems separator (listText separator items).toList = items := by
  have apart : ∀ part ∈ items.map String.toList, separator ∉ part :=
    List.forall_mem_map.mpr fun item mem => (each item mem).apart
  rw [listText, String.toList_ofList, listItems_joinWith apart, keptParts, List.map_map]
  have trimmed : items.map (trim ∘ String.toList) = items.map String.toList :=
    List.map_congr_left fun item mem => trim_of_isTrimmed (each item mem).trimmed
  have all : ∀ part ∈ items.map String.toList, decide (part ≠ []) = true := by
    refine List.forall_mem_map.mpr fun item mem => decide_eq_true fun empty => ?_
    exact (each item mem).nonempty (String.toList_eq_nil_iff.mp empty)
  rw [trimmed, List.filter_eq_self.mpr all, List.map_map]
  simp

end Lists

end Signpost.Proofs

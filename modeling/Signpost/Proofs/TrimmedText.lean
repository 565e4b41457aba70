import Mathlib.Data.List.DropRight
import Signpost.Text.Blank

/-!
# Trimmed texts

What trimming leaves of a text: it is the one text without blanks at its ends that the text is with
blanks around it.
-/

namespace Signpost.Proofs
open Text

/-- A text that neither begins nor ends with a blank. -/
def IsTrimmed (text : List Char) : Prop :=
  (∀ c, text.head? = some c → isBlank c = false) ∧ ∀ c, text.getLast? = some c → isBlank c = false

/-- A text with blanks around it. -/
def Padded (text padded : List Char) : Prop :=
  ∃ left right, (∀ c ∈ left, isBlank c = true) ∧ (∀ c ∈ right, isBlank c = true) ∧
    padded = left ++ text ++ right

lemma padded_self (text : List Char) : Padded text text :=
  ⟨[], [], nofun, nofun, by simp⟩

lemma trimEnd_eq (cs : List Char) : trimEnd cs = cs.rdropWhile isBlank := by
  induction cs with
  | nil => rfl
  | cons c rest ih =>
    rw [trimEnd, ih]
    have first : (c :: rest).rdropWhile isBlank =
        if (rest.rdropWhile isBlank).isEmpty then [c].rdropWhile isBlank
        else c :: rest.rdropWhile isBlank := by
      simp only [List.rdropWhile, List.reverse_cons, List.dropWhile_append, List.isEmpty_reverse]
      split <;> simp
    rw [first, List.rdropWhile_singleton]
    cases rest.rdropWhile isBlank <;> rfl

lemma isTrimmed_trim (cs : List Char) : IsTrimmed (trim cs) := by
  rw [trim, trimEnd_eq]
  constructor
  · -- what is left at the start is that of the text without its leading blanks
    intro c first
    obtain ⟨dropped, split⟩ := List.rdropWhile_prefix isBlank (cs.dropWhile isBlank)
    have start : (cs.dropWhile isBlank).head? = some c := by
      rw [← split, List.head?_append, first, Option.some_or]
    simpa only [start] using List.head?_dropWhile_not isBlank cs
  · intro c last
    have some : (cs.dropWhile isBlank).rdropWhile isBlank ≠ [] := by
      intro none
      rw [none] at last
      cases last
    have solid := List.rdropWhile_last_not isBlank _ some
    rw [List.getLast?_eq_some_getLast some, Option.some.injEq] at last
    rwa [last, Bool.not_eq_true] at solid

lemma padded_trim (cs : List Char) : Padded (trim cs) cs := by
  have blank {ds : List Char} : ∀ c ∈ ds.takeWhile isBlank, isBlank c = true :=
    fun _ => List.mem_takeWhile_imp
  have back : trimEnd (cs.dropWhile isBlank) ++
      ((cs.dropWhile isBlank).reverse.takeWhile isBlank).reverse = cs.dropWhile isBlank := by
    rw [trimEnd_eq, List.rdropWhile, ← List.reverse_append, List.takeWhile_append_dropWhile,
      List.reverse_reverse]
  refine ⟨cs.takeWhile isBlank, ((cs.dropWhile isBlank).reverse.takeWhile isBlank).reverse, blank,
    fun c mem => blank c (List.mem_reverse.mp mem), ?_⟩
  rw [trim, List.append_assoc, back, List.takeWhile_append_dropWhile]

lemma trim_of_padded {text padded : List Char} (trimmed : IsTrimmed text)
    (h : Padded text padded) : trim padded = text := by
  obtain ⟨left, right, blankLeft, blankRight, rfl⟩ := h
  rw [trim, trimEnd_eq, List.append_assoc, List.dropWhile_append_of_pos blankLeft]
  have dropRight (cs : List Char) : (cs ++ right).rdropWhile isBlank = cs.rdropWhile isBlank := by
    have blank : ∀ c ∈ right.reverse, isBlank c = true :=
      fun c mem => blankRight c (List.mem_reverse.mp mem)
    rw [List.rdropWhile, List.rdropWhile, List.reverse_append, List.dropWhile_append_of_pos blank]
  cases text with
  | nil =>
    have blank : right.dropWhile isBlank = [] := List.dropWhile_eq_nil_iff.mpr blankRight
    rw [List.nil_append, blank]
    rfl
  | cons c rest =>
    have first : isBlank c = false := trimmed.1 c rfl
    rw [List.cons_append, List.dropWhile_cons, first, if_neg Bool.false_ne_true, ← List.cons_append,
      dropRight, List.rdropWhile_eq_self_iff]
    intro some
    rw [trimmed.2 _ (List.getLast?_eq_some_getLast some)]
    exact Bool.false_ne_true

/-- Trimming gives the text that was padded. -/
theorem trim_eq_iff {cs text : List Char} : trim cs = text ↔ IsTrimmed text ∧ Padded text cs := by
  constructor
  · rintro rfl
    exact ⟨isTrimmed_trim cs, padded_trim cs⟩
  · rintro ⟨trimmed, padded⟩
    exact trim_of_padded trimmed padded

lemma trim_of_isTrimmed {text : List Char} (trimmed : IsTrimmed text) : trim text = text :=
  trim_of_padded trimmed (padded_self text)

lemma padded_trans {first second third : List Char} (h : Padded first second)
    (k : Padded second third) : Padded first third := by
  obtain ⟨left, right, blankLeft, blankRight, rfl⟩ := h
  obtain ⟨outerLeft, outerRight, outerBlankLeft, outerBlankRight, rfl⟩ := k
  refine ⟨outerLeft ++ left, right ++ outerRight, ?_, ?_, by simp⟩
  · exact List.forall_mem_append.mpr ⟨outerBlankLeft, blankLeft⟩
  · exact List.forall_mem_append.mpr ⟨blankRight, outerBlankRight⟩

/-- Blanks around a text do not count. -/
lemma trim_eq_of_padded {text padded : List Char} (h : Padded text padded) :
    trim padded = trim text :=
  trim_of_padded (isTrimmed_trim text) (padded_trans (padded_trim text) h)

lemma trim_eq_nil_iff {cs : List Char} : trim cs = [] ↔ ∀ c ∈ cs, isBlank c = true := by
  rw [trim_eq_iff]
  constructor
  · rintro ⟨-, left, right, blankLeft, blankRight, rfl⟩
    rw [List.append_nil]
    exact List.forall_mem_append.mpr ⟨blankLeft, blankRight⟩
  · intro blank
    exact ⟨⟨nofun, nofun⟩, cs, [], blank, nofun, by simp⟩

instance : DecidablePred IsTrimmed := fun text =>
  decidable_of_iff (trim text = text) (trim_eq_iff.trans (and_iff_left (padded_self text)))

lemma mem_of_padded {text padded : List Char} (h : Padded text padded) {c : Char} (mem : c ∈ text) :
    c ∈ padded := by
  obtain ⟨left, right, -, -, rfl⟩ := h
  exact List.mem_append_left _ (List.mem_append_right _ mem)

/-- What stands around a text are blanks only. -/
lemma mem_of_mem_padded {text padded : List Char} (h : Padded text padded) {c : Char}
    (mem : c ∈ padded) (solid : isBlank c = false) : c ∈ text := by
  obtain ⟨left, right, blankLeft, blankRight, rfl⟩ := h
  rcases List.mem_append.mp mem with mem | mem
  · rcases List.mem_append.mp mem with mem | mem
    · cases solid.symm.trans (blankLeft c mem)
    · exact mem
  · cases solid.symm.trans (blankRight c mem)

end Signpost.Proofs

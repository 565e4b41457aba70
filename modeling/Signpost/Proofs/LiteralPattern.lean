import Signpost.Proofs.LinePattern

/-!
# Patterns without special characters

A source without special characters reads as its characters, and so does one with dots, each of
which stands for any character of a line. Such a source is refused only if it is too long.
-/

namespace Signpost.Proofs
open Pattern Pattern.Expr

/-- A character that has no meaning of its own in a pattern. -/
def isLiteral (c : Char) : Bool :=
  !"\\.+*?()|[]\x7b\x7d^$".toList.contains c

/-- The text at the start, and then the rest of the line. -/
def prefixExpr (text : List Char) : Expr :=
  .concat (.look .textStart :: text.map .char ++ [restOfLine])

/-- A character that reads as an expression of its own. -/
def readsAlone (c : Char) : Bool :=
  isLiteral c || c == '.'

/-- What a character reads as: a dot as any character of a line, another one as itself. -/
def single (c : Char) : Expr :=
  if c = '.' then .set CharSet.notLineFeed else .char c

lemma isSingle_single (c : Char) : IsSingle (single c) := by
  rw [single]
  split
  · exact .set _
  · exact .char c

lemma isSingle_of_mem_singles {text : List Char} : ∀ e ∈ text.map single, IsSingle e := by
  intro e mem
  obtain ⟨c, -, rfl⟩ := List.mem_map.mp mem
  exact isSingle_single c

lemma ne_dot_of_isLiteral {c : Char} (literal : isLiteral c = true) : c ≠ '.' := by
  rintro rfl
  revert literal
  decide

lemma dot_notMem_of_literal {text : List Char} (literal : ∀ c ∈ text, isLiteral c = true) :
    '.' ∉ text :=
  fun mem => ne_dot_of_isLiteral (literal _ mem) rfl

lemma map_single_of_notMem {text : List Char} (noDot : '.' ∉ text) :
    text.map single = text.map .char := by
  apply List.map_congr_left
  intro c mem
  refine if_neg ?_
  rintro rfl
  exact noDot mem

/-- The second text is one that the first one stands for as a pattern: a dot stands for any
character of a line. -/
def StandsFor (text other : List Char) : Prop :=
  List.Forall₂ (fun c d => if c = '.' then d ≠ '\n' else c = d) text other

lemma takesAll_singles_iff {text own : List Char} :
    List.Forall₂ TakesChar (text.map single) own ↔ StandsFor text own := by
  have takes_single_iff (c d : Char) :
      TakesChar (single c) d ↔ if c = '.' then d ≠ '\n' else c = d := by
    rw [single]
    split
    · exact takesChar_set_iff.trans (contains_notLineFeed d)
    · exact takesChar_char_iff
  simp only [List.forall₂_map_left_iff, takes_single_iff, StandsFor]

lemma standsFor_self (text : List Char) : StandsFor text text := by
  apply List.forall₂_same.mpr
  intro c _
  split
  · rename_i dot
    rw [dot]
    decide
  · rfl

lemma standsFor_iff_of_notMem {text other : List Char} (noDot : '.' ∉ text) :
    StandsFor text other ↔ other = text := by
  rw [← takesAll_singles_iff, map_single_of_notMem noDot, takesAll_chars_iff]

lemma standsFor_append_iff {first second other : List Char} :
    StandsFor (first ++ second) other ↔
      ∃ a b, other = a ++ b ∧ StandsFor first a ∧ StandsFor second b := by
  constructor
  · intro h
    have h := h.flip
    exact ⟨_, _, (List.take_append_drop first.length other).symm,
      (List.forall₂_take_append _ _ _ h).flip, (List.forall₂_drop_append _ _ _ h).flip⟩
  · rintro ⟨a, b, rfl, ha, hb⟩
    exact List.rel_append ha hb

lemma isPrimitive_of_isLiteral {c : Char} (literal : isLiteral c = true) :
    isPrimitive c = true := by
  simp only [isLiteral, isPrimitive, Bool.not_eq_true', List.contains_eq_mem,
    decide_eq_false_iff_not] at literal ⊢
  have some : "()|[\x7b?*+".toList ⊆ "\\.+*?()|[]\x7b\x7d^$".toList := by decide
  exact fun mem => literal (some mem)

lemma readPrimitive_of_isLiteral {c : Char} (literal : isLiteral c = true) (rest : List Char) :
    Flags.readPrimitive {} c rest = .ok (.char c, rest) := by
  simp only [isLiteral, Bool.not_eq_true', List.contains_eq_mem, decide_eq_false_iff_not] at literal
  have other {d : Char} (h : d ∈ "\\.+*?()|[]\x7b\x7d^$".toList) : c ≠ d :=
    fun same => literal (same ▸ h)
  have escape : c ≠ '\\' := other (by decide)
  have dot : c ≠ '.' := other (by decide)
  have start : c ≠ '^' := other (by decide)
  have stop : c ≠ '$' := other (by decide)
  simp only [Flags.readPrimitive]
  rfl

lemma readPrimitive_of_readsAlone {c : Char} (alone : readsAlone c = true) (rest : List Char) :
    isPrimitive c = true ∧ Flags.readPrimitive {} c rest = .ok (single c, rest) := by
  rw [readsAlone, Bool.or_eq_true, beq_iff_eq] at alone
  rcases alone with literal | rfl
  · rw [single, if_neg (ne_dot_of_isLiteral literal)]
    exact ⟨isPrimitive_of_isLiteral literal, readPrimitive_of_isLiteral literal rest⟩
  · exact ⟨by decide, rfl⟩

lemma readsAlone_of_literal {text : List Char} (literal : ∀ c ∈ text, isLiteral c = true) :
    ∀ c ∈ text, readsAlone c = true := by
  intro c mem
  rw [readsAlone, literal c mem, Bool.true_or]

lemma read_singles {text : List Char} (alone : ∀ c ∈ text, readsAlone c = true) (fuel : Nat)
    (items : List Expr) (rest : List Char) :
    Reading.read 0 [] items (text.length + fuel) { rest := text ++ rest } =
      Reading.read 0 [] ((text.map single).reverse ++ items) fuel { rest } := by
  induction text generalizing items with
  | nil => rw [List.length_nil, Nat.zero_add]; rfl
  | cons c text ih =>
    obtain ⟨first, alone⟩ := List.forall_mem_cons.mp alone
    obtain ⟨primitive, hread⟩ := readPrimitive_of_readsAlone first (text ++ rest)
    rw [List.length_cons, Nat.add_right_comm, List.cons_append,
      read_primitive (s := { rest := text }) rfl primitive]
    dsimp only
    rw [hread]
    dsimp only
    rw [ih alone]
    simp

section Measures

variable (text : List Char) (es : List Expr)

/-- A dot weighs more than another character, since it is a set of two ranges. -/
lemma statesWeightAll_singles : statesWeightAll (text.map single ++ es) =
    32 * text.length + 16 * text.count '.' + statesWeightAll es := by
  induction text with
  | nil => simp
  | cons c text ih =>
    have first : statesWeight (single c) = 32 + if c = '.' then 16 else 0 := by
      rw [single]
      split <;> rfl
    rw [List.map_cons, List.cons_append, statesWeightAll, ih, first, List.length_cons,
      List.count_cons]
    simp only [beq_iff_eq]
    split <;> omega

lemma depthMax_singles : depthMax (text.map single ++ es) = depthMax es := by
  induction text with
  | nil => rfl
  | cons c text ih =>
    have first : depth (single c) = 0 := by
      rw [single]
      split <;> rfl
    rw [List.map_cons, List.cons_append, depthMax, ih, first, Nat.zero_max]

lemma lastGroupAll_singles : lastGroupAll (text.map single ++ es) = lastGroupAll es := by
  induction text with
  | nil => rfl
  | cons c text ih =>
    have first : lastGroup (single c) = 0 := by
      rw [single]
      split <;> rfl
    rw [List.map_cons, List.cons_append, lastGroupAll, ih, first, Nat.zero_max]

lemma namesAll_singles : namesAll (text.map single ++ es) = namesAll es := by
  induction text with
  | nil => rfl
  | cons c text ih =>
    have first : names (single c) = [] := by
      rw [single]
      split <;> rfl
    rw [List.map_cons, List.cons_append, namesAll, ih, first, List.nil_append]

lemma weight_lineExpr : (lineExpr (text.map single)).weight =
    32 * text.length + 16 * text.count '.' + 312 := by
  have states : statesWeight (lineExpr (text.map single)) =
      32 + (32 * text.length + 16 * text.count '.' + 152) := by
    rw [lineExpr, statesWeight, List.cons_append, statesWeightAll, statesWeightAll_singles]
    rfl
  have groups : lastGroup (lineExpr (text.map single)) = 1 := by
    rw [lineExpr, lastGroup, List.cons_append, lastGroupAll, lastGroupAll_singles]
    rfl
  have names : names (lineExpr (text.map single)) = [] := namesAll_singles text _
  rw [weight, states, groups, names, stateWeight, total_nil]
  omega

lemma depth_lineExpr : (lineExpr (text.map single)).depth = 3 := by
  rw [lineExpr, depth, List.cons_append, depthMax, depthMax_singles]
  rfl

end Measures

/-- A text between the start and the rest of the line reads as its characters, if it is not too
long. -/
theorem read_lineExpr {text : List Char} (alone : ∀ c ∈ text, readsAlone c = true) :
    Expr.read ('^' :: text ++ "(.*)".toList) =
      if weightLimit < 32 * text.length + 16 * text.count '.' + 312 then .error .tooHeavy
      else .ok (lineExpr (text.map single)) := by
  have length : ('^' :: text ++ "(.*)".toList).length + 1 = text.length + 5 + 1 := by simp
  have hread : Reading.read 0 [] [] (text.length + 5 + 1) { rest := '^' :: text ++ "(.*)".toList } =
      .ok (lineExpr (text.map single), { rest := [], groups := 1 }) := by
    have start : Flags.readPrimitive {} '^' (text ++ "(.*)".toList) =
        .ok (.look .textStart, text ++ "(.*)".toList) := rfl
    rw [List.cons_append, read_primitive (s := { rest := text }) rfl rfl, start]
    dsimp only
    rw [read_singles alone, read_restOfLine]
    have whole : ofBranches [ofItems (restOfLine :: ((text.map single).reverse ++
        [.look .textStart])).reverse].reverse = lineExpr (text.map single) := by
      simp only [List.reverse_cons, List.reverse_append, List.reverse_reverse, List.reverse_nil]
      cases text <;> rfl
    rw [whole]
  rw [Expr.read, length, hread]
  dsimp only
  rw [depth_lineExpr, weight_lineExpr, if_neg (by decide)]

/-- The longer pattern of a source without special characters is refused only if it is too long. -/
theorem read_prefixExpr {text : List Char} (literal : ∀ c ∈ text, isLiteral c = true) :
    Expr.read ('^' :: text ++ "(.*)".toList) =
      if weightLimit < 32 * text.length + 312 then .error .tooHeavy else .ok (prefixExpr text) := by
  have noDot := dot_notMem_of_literal literal
  rw [read_lineExpr (readsAlone_of_literal literal), List.count_eq_zero.mpr noDot,
    map_single_of_notMem noDot]
  rfl

/-- Some items weigh as much one after the other as they do by themselves. -/
lemma measures_ofItems {es : List Expr} (some : es ≠ []) :
    statesWeight (ofItems es) = statesWeightAll es ∧ lastGroup (ofItems es) = lastGroupAll es ∧
      names (ofItems es) = namesAll es ∧ depth (ofItems es) ≤ depthMax es + 1 := by
  rcases es with _ | ⟨e, _ | ⟨f, es⟩⟩
  · exact absurd rfl some
  · simp [ofItems, statesWeightAll, lastGroupAll, namesAll, depthMax]
  · exact ⟨rfl, rfl, rfl, Nat.le_refl _⟩

/-- A source that is not empty reads as its characters, if it is not too long. -/
theorem read_ofItems {text : List Char} (alone : ∀ c ∈ text, readsAlone c = true)
    (some : text ≠ []) :
    Expr.read text =
      if weightLimit < 32 * text.length + 16 * text.count '.' + 112 then .error .tooHeavy
      else .ok (ofItems (text.map single)) := by
  have hread : Reading.read 0 [] [] (text.length + 1) { rest := text } =
      .ok (ofItems (text.map single), { rest := [] }) := by
    have chars := read_singles alone 1 [] []
    rw [List.append_nil] at chars
    rw [chars, List.append_nil]
    simp [Reading.read, Flags.skip, ofBranches]
  have nonempty : text.map single ≠ [] := mt List.map_eq_nil_iff.mp some
  obtain ⟨states, groups, names, depth⟩ := measures_ofItems nonempty
  have statesAll := statesWeightAll_singles text []
  have groupsAll := lastGroupAll_singles text []
  have namesAll := namesAll_singles text []
  have depthAll := depthMax_singles text []
  rw [List.append_nil] at statesAll groupsAll namesAll depthAll
  rw [depthAll] at depth
  have shallow : ¬depthLimit < (ofItems (text.map single)).depth :=
    Nat.not_lt.mpr (Nat.le_trans depth (by decide))
  have weight : (ofItems (text.map single)).weight =
      32 * text.length + 16 * text.count '.' + 112 := by
    rw [weight, states, groups, names, statesAll, groupsAll, namesAll, Expr.namesAll, total_nil]
    simp only [statesWeightAll, lastGroupAll, stateWeight]
  rw [Expr.read, hread]
  dsimp only
  rw [if_neg shallow, weight]

end Signpost.Proofs

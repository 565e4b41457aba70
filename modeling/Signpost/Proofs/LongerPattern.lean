import Signpost.Proofs.FurtherReading
import Signpost.Rule

/-!
# The longer pattern of a prefix rule

How the expression of a longer pattern comes from the expression of the pattern it is made of. The
start of the text goes before the first alternative only, and the group after the last one only.
-/

namespace Signpost.Proofs
open Pattern Pattern.Expr

/-- The alternatives that have been read of a text. -/
inductive Alternatives
  | one (items : List Expr)
  | several (first between last : List Expr)

namespace Alternatives

def exprs : Alternatives → List Expr
  | one items => [ofItems items]
  | several first between last => ofItems first :: between ++ [ofItems last]

/-- The branches that are finished when the text comes after some branches and the items `below`,
the last first. -/
def finished (outer below : List Expr) : Alternatives → List Expr
  | one _ => outer
  | several first between _ => between.reverse ++ ofItems (below.reverse ++ first) :: outer

/-- The items of the branch that is not. -/
def unfinished (below : List Expr) : Alternatives → List Expr
  | one items => items.reverse ++ below
  | several _ _ last => last.reverse

/-- A branch before the alternatives. -/
def after (branch : List Expr) : Alternatives → Alternatives
  | one items => several branch [] items
  | several first between last => several branch (ofItems first :: between) last

lemma exprs_after (branch : List Expr) (a : Alternatives) :
    (a.after branch).exprs = ofItems branch :: a.exprs := by
  cases a <;> rfl

lemma finished_after (branch outer below : List Expr) (a : Alternatives) :
    (a.after branch).finished outer below =
      a.finished (ofItems (below.reverse ++ branch) :: outer) [] := by
  cases a with
  | one => rfl
  | several => simp [after, finished]

lemma unfinished_after (branch below : List Expr) (a : Alternatives) :
    (a.after branch).unfinished below = a.unfinished [] := by
  cases a with
  | one => simp [after, unfinished]
  | several => rfl

end Alternatives

section reading

variable {s : Reading} {level fuel : Nat} {branches items : List Expr} {c : Char}
  {cs rest : List Char}

lemma read_repetition (plain : s.flags.extended = false) (sign : c = '?' ∨ c = '*' ∨ c = '+') :
    Reading.read level branches items (fuel + 1) { s with rest := c :: rest } =
      match items with
      | [] => .error .repetitionMissing
      | body :: items =>
        Reading.read level branches
          (.ofRepetition (if c = '+' then 1 else 0) (if c = '?' then some 1 else none)
            (s.flags.readGreed rest).1 body :: items) fuel
          { s with rest := (s.flags.readGreed rest).2 } := by
  rcases sign with rfl | rfl | rfl
  all_goals simp only [Reading.read, skip_of_plain plain]
  all_goals rfl

/-- The characters that do not start, end or repeat something. -/
def isPrimitive (c : Char) : Bool :=
  !"()|[\x7b?*+".toList.contains c

lemma read_primitive (plain : s.flags.extended = false) (primitive : isPrimitive c = true) :
    Reading.read level branches items (fuel + 1) { s with rest := c :: rest } =
      match s.flags.readPrimitive c rest with
      | .error f => .error f
      | .ok (e, left) => Reading.read level branches (e :: items) fuel { s with rest := left } := by
  have other : c ≠ '(' ∧ c ≠ ')' ∧ c ≠ '|' ∧ c ≠ '[' ∧ c ≠ '{' ∧ c ≠ '?' ∧ c ≠ '*' ∧ c ≠ '+' := by
    simpa [isPrimitive] using primitive
  obtain ⟨group, close, branch, set, counted, some, any, many⟩ := other
  cases hread : s.flags.readPrimitive c rest with
  | error =>
    simp only [Reading.read, skip_of_plain plain, some, any, many, or_self, if_false, hread]
  | ok =>
    simp only [Reading.read, skip_of_plain plain, some, any, many, or_self, if_false, hread]

/-- The text reads as some alternatives, one if it has no bar, and does so too when items come
before it and a group after it. -/
def ReadsAs (s : Reading) (fuel : Nat) (branches items : List Expr) (cs : List Char) (e : Expr) :
    Prop :=
  ∃ a : Alternatives, e = ofBranches (branches.reverse ++ a.exprs) ∧
    ('|' ∉ cs → ∃ items, a = .one items) ∧
    ∀ outer below more extra, ∃ left,
      Reading.read 0 outer (items ++ below) (fuel + extra) { s with rest := cs ++ '(' :: more } =
        Reading.read 0 (a.finished outer below) (a.unfinished below) (left + 1 + extra)
          { s with rest := '(' :: more }

lemma readsAs_of_step {items' : List Expr} {cs' : List Char} {e : Expr} (ending : cs' <:+ cs)
    (h : ReadsAs s fuel branches items' cs' e)
    (same : ∀ outer below more fuel,
      Reading.read 0 outer (items ++ below) (fuel + 1) { s with rest := cs ++ '(' :: more } =
        Reading.read 0 outer (items' ++ below) fuel { s with rest := cs' ++ '(' :: more }) :
    ReadsAs s (fuel + 1) branches items cs e := by
  obtain ⟨a, he, single, hrest⟩ := h
  refine ⟨a, he, fun noBar => single fun mem => noBar (ending.subset mem), ?_⟩
  intro outer below more extra
  rw [Nat.add_right_comm, same]
  exact hrest outer below more extra

lemma readsAs_of_branch {e : Expr} (plain : s.flags.extended = false)
    (h : ReadsAs s fuel (ofItems items.reverse :: branches) [] cs e) :
    ReadsAs s (fuel + 1) branches items ('|' :: cs) e := by
  obtain ⟨a, rfl, -, hrest⟩ := h
  refine ⟨a.after items.reverse, ?_, fun noBar => absurd (List.mem_cons_self ..) noBar, ?_⟩
  · rw [a.exprs_after]
    simp
  · intro outer below more extra
    rw [a.finished_after, a.unfinished_after, Nat.add_right_comm, ← List.reverse_append,
      List.cons_append]
    simp only [Reading.read, skip_of_plain plain]
    exact hrest (ofItems (items ++ below).reverse :: outer) [] more extra

lemma readsAs_nil : ReadsAs s (fuel + 1) branches items []
    (ofBranches (ofItems items.reverse :: branches).reverse) := by
  refine ⟨.one items.reverse, ?_, fun _ => ⟨_, rfl⟩, ?_⟩
  · simp [Alternatives.exprs]
  · intro outer below more extra
    refine ⟨fuel, ?_⟩
    rw [Alternatives.finished, Alternatives.unfinished, List.reverse_reverse]
    rfl

/-- A text without groups that can be read reads as some alternatives. -/
theorem readsAs_of_read (plain : s.flags.extended = false) (noGroup : '(' ∉ cs) {e : Expr}
    {after : Reading}
    (h : Reading.read 0 branches items fuel { s with rest := cs } = .ok (e, after)) :
    ReadsAs s fuel branches items cs e := by
  induction fuel generalizing cs branches items with
  | zero => cases h
  | succ fuel ih =>
    -- Each reader leaves an end of the text, so there is no parenthesis in what is left either.
    have further {left : List Char} (ending : left <:+ cs) : '(' ∉ left :=
      fun mem => noGroup (ending.subset mem)
    cases cs with
    | nil =>
      simp only [Reading.read, skip_of_plain plain] at h
      cases h
      exact readsAs_nil
    | cons c cs =>
      by_cases primitive : isPrimitive c = true
      · rw [read_primitive plain primitive] at h
        split at h
        · cases h
        · rename_i item left hitem
          have ending := suffix_cons_of_suffix (c := c) (readPrimitive_suffix plain hitem)
          apply readsAs_of_step ending (ih (further ending) h)
          intro outer below more fuel
          rw [List.cons_append, read_primitive plain primitive, readPrimitive_append _ plain hitem]
          rfl
      · by_cases sign : c = '?' ∨ c = '*' ∨ c = '+'
        · rw [read_repetition plain sign] at h
          -- What is repeated is an item of this text, since without one the reading fails: the
          -- items that come before are never taken.
          cases items with
          | nil => cases h
          | cons body items =>
            have ending : (s.flags.readGreed cs).2 <:+ c :: cs :=
              suffix_cons_of_suffix readGreed_suffix
            apply readsAs_of_step ending (ih (further ending) h)
            intro outer below more fuel
            rw [List.cons_append, List.cons_append, read_repetition plain sign, readGreed_append]
            rfl
        · have own : c = '(' ∨ c = ')' ∨ c = '|' ∨ c = '[' ∨ c = '{' := by
            simp only [isPrimitive, Bool.not_eq_true', Bool.not_eq_false] at primitive
            have mem : c ∈ "()|[\x7b?*+".toList := by simpa using primitive
            simpa [sign] using mem
          rcases own with rfl | rfl | rfl | rfl | rfl
          · exact absurd (List.mem_cons_self ..) noGroup
          · simp only [Reading.read, skip_of_plain plain] at h
            cases h
          · simp only [Reading.read, skip_of_plain plain] at h
            exact readsAs_of_branch plain (ih (further (List.suffix_cons _ _)) h)
          · simp only [Reading.read, skip_of_plain plain] at h
            split at h
            · cases h
            · rename_i item left hset
              have ending := suffix_cons_of_suffix (c := '[') (readSet_suffix plain hset)
              apply readsAs_of_step ending (ih (further ending) h)
              intro outer below more fuel
              simp only [List.cons_append, Reading.read, skip_of_plain plain,
                readSet_append _ plain hset]
          · simp only [Reading.read, skip_of_plain plain] at h
            cases items with
            | nil => cases h
            | cons body items =>
              dsimp only at h
              split at h
              · cases h
              · rename_i item left hcounted
                have ending := suffix_cons_of_suffix (c := '{') (readCounted_suffix plain hcounted)
                apply readsAs_of_step ending (ih (further ending) h)
                intro outer below more fuel
                simp only [List.cons_append, Reading.read, skip_of_plain plain,
                  readCounted_append _ plain hcounted]

end reading

/-- The group that takes the rest of the line. -/
def restOfLine : Expr :=
  .group 1 none (.repetition 0 none true (.set CharSet.notLineFeed))

lemma read_restOfLine (branches items : List Expr) (fuel : Nat) :
    Reading.read 0 branches items (fuel + 5) { rest := "(.*)".toList } =
      .ok (ofBranches (ofItems (restOfLine :: items).reverse :: branches).reverse,
        { rest := [], groups := 1 }) := rfl

lemma reading_of_read {text : List Char} {e : Expr} (h : Expr.read text = .ok e) :
    ∃ after, Reading.read 0 [] [] (text.length + 1) { rest := text } = .ok (e, after) := by
  rw [Expr.read] at h
  split at h
  · cases h
  · rename_i found after hread
    split at h
    · cases h
    · split at h
      · cases h
      · cases h
        exact ⟨after, hread⟩

/-- The alternatives with the start of the text before the first one and the rest of the line after
the last one. -/
def Alternatives.longer : Alternatives → Expr
  | one items => ofItems (.look .textStart :: items ++ [restOfLine])
  | several first between last =>
    ofBranches (ofItems (.look .textStart :: first) :: between ++ [ofItems (last ++ [restOfLine])])

/-- The text of a longer pattern reads as the alternatives of the shorter one, with only the first
one anchored. -/
theorem read_longer {text : List Char} {e longer : Expr} (noGroup : '(' ∉ text)
    (h : Expr.read text = .ok e)
    (hlonger : Expr.read ('^' :: text ++ "(.*)".toList) = .ok longer) :
    ∃ a : Alternatives, e = ofBranches a.exprs ∧ longer = a.longer ∧
      ('|' ∉ text → ∃ items, a = .one items) := by
  obtain ⟨after, hread⟩ := reading_of_read h
  obtain ⟨after', hread'⟩ := reading_of_read hlonger
  obtain ⟨a, he, single, further⟩ := readsAs_of_read (s := { rest := text }) rfl noGroup hread
  refine ⟨a, he, ?_, single⟩
  have length : ('^' :: text ++ "(.*)".toList).length + 1 = text.length + 1 + 4 + 1 := by simp
  -- The anchor is the first item, and then the text is read with as much fuel as it had alone.
  rw [length, List.cons_append, read_primitive (s := { rest := text }) rfl rfl] at hread'
  obtain ⟨left, hleft⟩ := further [] [.look .textStart] ".*)".toList 4
  have whole := (hleft.trans (read_restOfLine _ _ left)).symm.trans hread'
  cases whole
  cases a with
  | one items =>
    simp [Alternatives.finished, Alternatives.unfinished, Alternatives.longer, ofBranches]
  | several => simp [Alternatives.finished, Alternatives.unfinished, Alternatives.longer]

end Signpost.Proofs

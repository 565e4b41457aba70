import Signpost.Proofs.MatchPlaces

/-!
# Replacing matches

What it means to replace all matches of an expression in a text, without a bound on the steps. The
bound that the replacement is computed with is never reached, since each step leaves less text, or
leaves none of the ways to match at its place.
-/

namespace Signpost.Proofs
open Pattern Pattern.Expr

variable {e : Expr} {template : List Piece}

/-- The text from a place on with all matches replaced, from left to right. An empty match where the
one before it has ended does not count unless it is allowed. -/
inductive Replaced (e : Expr) (template : List Piece) : Place → (allowed : Bool) → List Char → Prop
  | rest {p : Place} {allowed : Bool} (nothing : e.find p = none) :
      Replaced e template p allowed p.after
  | skip {p : Place} {m : Match} {c : Char} {rest out : List Char} (found : e.find p = some m)
      (void : m.isEmpty = true) (here : m.whole.stop.index = p.index) (text : p.after = c :: rest)
      (later : Replaced e template (p.next c rest) true out) :
      Replaced e template p false (c :: out)
  | finish {p : Place} {m : Match} (found : e.find p = some m) (void : m.isEmpty = true)
      (here : m.whole.stop.index = p.index) (text : p.after = []) : Replaced e template p false []
  | put {p : Place} {allowed : Bool} {m : Match} {out : List Char} (found : e.find p = some m)
      (counts : allowed = false → m.isEmpty = true → m.whole.stop.index ≠ p.index)
      (later : Replaced e template m.whole.stop false out) :
      Replaced e template p allowed
        (p.textTo m.whole.start ++ Template.expand e.names m template ++ out)

/-- How many steps a replacement can take from a place on. -/
def steps (p : Place) (allowed : Bool) : Nat :=
  2 * p.after.length + allowed.toNat

lemma steps_next_lt {p : Place} {c : Char} {rest : List Char} (text : p.after = c :: rest) :
    steps (p.next c rest) true < steps p false := by
  simp only [steps, Place.next, text, List.length_cons, Bool.toNat_true, Bool.toNat_false]
  omega

lemma steps_stop_lt {p : Place} {m : Match} {allowed : Bool} (within : Within p m)
    (counts : allowed = false → m.isEmpty = true → m.whole.stop.index ≠ p.index) :
    steps m.whole.stop false < steps p allowed := by
  have start := index_add_of_ahead within.start
  have stop := index_add_of_ahead within.stop
  have before := index_le_of_ahead within.start
  have after := index_le_of_ahead within.stop
  by_cases here : m.whole.stop.index = p.index
  · have void : m.isEmpty = true := by
      rw [Match.isEmpty, beq_iff_eq]
      omega
    cases allowed with
    | false => exact absurd here (counts rfl void)
    | true =>
      simp only [steps, Bool.toNat_true, Bool.toNat_false]
      omega
  · simp only [steps, Bool.toNat_false]
    omega

/-- With enough steps the replacement is complete. -/
theorem replaced_replaceFrom (fuel : Nat) (p : Place) (allowed : Bool)
    (enough : steps p allowed < fuel) :
    Replaced e template p allowed (e.replaceFrom template fuel p allowed) := by
  induction fuel generalizing p allowed with
  | zero => exact absurd enough (Nat.not_lt_zero _)
  | succ fuel ih =>
    rw [replaceFrom]
    cases found : e.find p with
    | none => exact .rest found
    | some m =>
      dsimp only
      split
      · rename_i passed
        simp only [Bool.and_eq_true, Bool.not_eq_true', beq_iff_eq] at passed
        obtain ⟨⟨void, rfl⟩, here⟩ := passed
        cases text : p.after with
        | nil => exact .finish found void here text
        | cons c rest =>
          have less := steps_next_lt text
          exact .skip found void here text (ih _ true (by omega))
      · rename_i counted
        have counts : allowed = false → m.isEmpty = true → m.whole.stop.index ≠ p.index := by
          rintro rfl void here
          simp [void, here] at counted
        have less := steps_stop_lt (within_of_find found) counts
        exact .put found counts (ih _ false (by omega))

section Inversion

variable {p : Place} {allowed : Bool} {m : Match} {out : List Char}

lemma replaced_of_none (nothing : e.find p = none) (h : Replaced e template p allowed out) :
    out = p.after := by
  cases h with
  | rest => rfl
  | skip found | finish found | put found =>
    rw [nothing] at found
    cases found

lemma replaced_of_void (found : e.find p = some m) (void : m.isEmpty = true)
    (here : m.whole.stop.index = p.index) (h : Replaced e template p false out) :
    (p.after = [] ∧ out = []) ∨ ∃ c rest later, p.after = c :: rest ∧ out = c :: later ∧
      Replaced e template (p.next c rest) true later := by
  cases h with
  | rest nothing =>
    rw [found] at nothing
    cases nothing
  | skip found' void' here' text later => exact .inr ⟨_, _, _, text, rfl, later⟩
  | finish found' void' here' text => exact .inl ⟨text, rfl⟩
  | put found' counts =>
    rw [found] at found'
    cases found'
    exact absurd here (counts rfl void)

lemma replaced_of_counts (found : e.find p = some m)
    (counts : allowed = false → m.isEmpty = true → m.whole.stop.index ≠ p.index)
    (h : Replaced e template p allowed out) :
    ∃ later, Replaced e template m.whole.stop false later ∧
      out = p.textTo m.whole.start ++ Template.expand e.names m template ++ later := by
  cases h with
  | rest nothing =>
    rw [found] at nothing
    cases nothing
  | skip found' void here | finish found' void here =>
    rw [found] at found'
    cases found'
    exact absurd here (counts rfl void)
  | put found' counts' later =>
    rw [found] at found'
    cases found'
    exact ⟨_, later, rfl⟩

end Inversion

/-- There is one way only to replace all matches. -/
theorem replaced_unique {p : Place} {allowed : Bool} {first second : List Char}
    (h : Replaced e template p allowed first) (h' : Replaced e template p allowed second) :
    first = second := by
  induction h generalizing second with
  | rest nothing => exact (replaced_of_none nothing h').symm
  | skip found void here text later ih =>
    rcases replaced_of_void found void here h' with ⟨ends, -⟩ | ⟨c, rest, out, text', rfl, later'⟩
    · rw [text] at ends
      cases ends
    · rw [text] at text'
      cases text'
      rw [ih later']
  | finish found void here text =>
    rcases replaced_of_void found void here h' with ⟨-, rfl⟩ | ⟨c, rest, out, text', -⟩
    · rfl
    · rw [text] at text'
      cases text'
  | put found counts later ih =>
    obtain ⟨out, later', rfl⟩ := replaced_of_counts found counts h'
    rw [ih later']

/-- What is computed is what it means to replace all matches. -/
theorem replaced_iff {text template out : List Char} :
    Replaced e (Template.read template) (Place.ofText text) true out ↔
      e.replaceAll text template = out := by
  have complete : Replaced e (Template.read template) (Place.ofText text) true
      (e.replaceAll text template) := by
    apply replaced_replaceFrom
    simp only [steps, Place.ofText, Bool.toNat_true]
    omega
  constructor
  · exact fun h => replaced_unique complete h
  · rintro rfl
    exact complete

/-- A piece of the text is matched. -/
def MatchesIn (e : Expr) (text : List Char) : Prop :=
  ∃ m before after, e.find (.ofText text) = some m ∧ m.whole.start = past (.ofText text) before ∧
    m.whole.stop = past m.whole.start m.whole.text ∧ text = before ++ m.whole.text ++ after

/-- Where a replacement changes a text, there is a match. -/
theorem matchesIn_of_ne {text template : List Char} (changed : e.replaceAll text template ≠ text) :
    MatchesIn e text := by
  cases found : e.find (.ofText text) with
  | none =>
    have kept : Replaced e (Template.read template) (.ofText text) true text := .rest found
    exact absurd (replaced_iff.mp kept) changed
  | some m =>
    have within := within_of_find found
    exact ⟨m, _, m.whole.stop.after, found, eq_past_of_ahead within.start,
      eq_past_of_ahead within.stop, (after_eq_of_within within).symm⟩

end Signpost.Proofs

import Mathlib.Data.List.Forall2
import Std.Data.TreeSet.Lemmas
import Signpost.Pattern.Search

/-!
# Matching a text and the rest of the line

Characters one after the other are matched if the text goes on with them. A greedy repetition of
the dot takes the rest of the line.
-/

namespace Signpost.Proofs
open Pattern Pattern.Expr

/-- The place after some characters. -/
def past (p : Place) : List Char → Place
  | [] => p
  | c :: cs => past (p.next c p.after.tail) cs

lemma index_past (p : Place) (cs : List Char) : (past p cs).index = p.index + cs.length := by
  induction cs generalizing p with
  | nil => rfl
  | cons c cs ih =>
    rw [past, ih, List.length_cons]
    simp only [Place.next]
    omega

lemma past_append (p : Place) (cs ds : List Char) : past p (cs ++ ds) = past (past p cs) ds := by
  induction cs generalizing p with
  | nil => rfl
  | cons c cs ih => exact ih _

lemma after_past {p : Place} {cs rest : List Char} (h : p.after = cs ++ rest) :
    (past p cs).after = rest := by
  induction cs generalizing p with
  | nil => exact h
  | cons c cs ih =>
    rw [past]
    apply ih
    rw [Place.next, h]
    rfl

lemma before_past (p : Place) (cs : List Char) (before : p.before ≠ none ∨ cs ≠ []) :
    (past p cs).before ≠ none := by
  induction cs generalizing p with
  | nil => exact before.resolve_right fun some => some rfl
  | cons c cs ih => exact ih _ (.inl (Option.some_ne_none c))

lemma textTo_past {p : Place} {cs rest : List Char} (h : p.after = cs ++ rest) :
    p.textTo (past p cs) = cs := by
  rw [Place.textTo, index_past, h, Nat.add_sub_cancel_left, List.take_left]

/-- A single character is matched by an expression. -/
inductive TakesChar : Expr → Char → Prop
  | char (c : Char) : TakesChar (.char c) c
  | set {s : CharSet} {c : Char} (mem : s.contains c = true) : TakesChar (.set s) c

/-- The expressions of a single character. -/
inductive IsSingle : Expr → Prop
  | char (c : Char) : IsSingle (.char c)
  | set (s : CharSet) : IsSingle (.set s)

lemma isSingle_of_takesChar {e : Expr} {c : Char} (takes : TakesChar e c) : IsSingle e := by
  cases takes with
  | char c => exact .char c
  | set => exact .set _

lemma takesChar_char_iff {c d : Char} : TakesChar (.char c) d ↔ c = d := by
  constructor
  · rintro ⟨⟩
    rfl
  · rintro rfl
    exact .char c

lemma takesChar_set_iff {s : CharSet} {c : Char} : TakesChar (.set s) c ↔ s.contains c = true := by
  constructor
  · rintro ⟨⟩
    assumption
  · exact .set

lemma takesAll_chars_iff {cs own : List Char} :
    List.Forall₂ TakesChar (cs.map .char) own ↔ own = cs := by
  simp only [List.forall₂_map_left_iff, takesChar_char_iff, List.forall₂_eq_eq_eq, eq_comm]

lemma forks_of_isSingle {e : Expr} (single : IsSingle e) : forks e = 0 := by
  cases single <;> rfl

section Singles

variable {e : Expr} {p : Place} {c : Char} {rest : List Char} {id : Nat} {follow : Trial}
  {groups : Groups} {tried : Tried}

lemma attempt_of_takes (takes : TakesChar e c) (text : p.after = c :: rest) :
    attempt e id follow p groups tried = follow (p.next c rest) groups tried := by
  cases takes with
  | char => simp [attempt, text]
  | set mem => simp [attempt, text, mem]

lemma attempt_of_not_takes (single : IsSingle e) (other : ¬TakesChar e c)
    (text : p.after = c :: rest) :
    attempt e id follow p groups tried = .failed tried := by
  cases single with
  | char d =>
    rw [takesChar_char_iff] at other
    simp [attempt, text, other]
  | set s =>
    rw [takesChar_set_iff] at other
    simp [attempt, text, other]

lemma attempt_at_end (single : IsSingle e) (text : p.after = []) :
    attempt e id follow p groups tried = .failed tried := by
  cases single <;> simp [attempt, text]

variable {es items : List Expr} {own : List Char}

/-- Single characters one after the other are matched by a text that has one for each. -/
lemma attemptAll_of_takes (takes : List.Forall₂ TakesChar es own) (text : p.after = own ++ rest) :
    attemptAll (es ++ items) id follow p groups tried =
      attemptAll items id follow (past p own) groups tried := by
  induction takes generalizing p with
  | nil => rfl
  | @cons e c es own first _ ih =>
    have text' : p.after = c :: (own ++ rest) := text
    have go : past p (c :: own) = past (p.next c (own ++ rest)) own := by
      rw [past, text]
      rfl
    rw [List.cons_append, attemptAll, attempt_of_takes first text',
      forks_of_isSingle (isSingle_of_takesChar first), Nat.add_zero, ih rfl, go]

lemma attemptAll_of_not_takes (singles : ∀ e ∈ es, IsSingle e)
    (other : ∀ own rest, p.after = own ++ rest → ¬List.Forall₂ TakesChar es own) :
    attemptAll (es ++ items) id follow p groups tried = .failed tried := by
  induction es generalizing p with
  | nil => exact absurd .nil (other [] p.after rfl)
  | cons e es ih =>
    obtain ⟨single, singles⟩ := List.forall_mem_cons.mp singles
    rw [List.cons_append, attemptAll]
    cases text : p.after with
    | nil => exact attempt_at_end single text
    | cons c rest =>
      by_cases takes : TakesChar e c
      · rw [attempt_of_takes takes text, forks_of_isSingle single, Nat.add_zero]
        apply ih singles
        intro own more after later
        refine other (c :: own) more ?_ (.cons takes later)
        rw [text]
        exact congrArg (c :: ·) after
      · exact attempt_of_not_takes single takes text

end Singles

lemma contains_insert_of_ne {tried : Tried} {i j id : Nat} (h : i ≠ j) :
    (tried.insert (i, id)).contains (j, id) = tried.contains (j, id) := by
  have other : compareLex (compareOn Prod.fst) (compareOn Prod.snd) (i, id) (j, id) ≠ .eq := by
    simp [compareLex, compareOn, h]
  rw [Std.TreeSet.contains_insert, beq_eq_false_iff_ne.mpr other, Bool.false_or]

lemma contains_notLineFeed (c : Char) : CharSet.notLineFeed.contains c = true ↔ c ≠ '\n' := by
  have ranges : CharSet.notLineFeed = [⟨0, 9⟩, ⟨11, 0x10FFFF⟩] := rfl
  have valid : c.toNat < 0xD800 ∨ 0xDFFF < c.toNat ∧ c.toNat < 0x110000 := c.valid
  have feed : c = '\n' ↔ c.toNat = 10 := Char.toNat_inj.symm
  simp only [ranges, CharSet.contains, CharRange.contains, List.any_cons, List.any_nil,
    Bool.or_false, Bool.or_eq_true, Bool.and_eq_true, decide_eq_true_eq, ne_eq, feed]
  omega

/-- The repetition of the dot takes all characters up to the end of the line, if no fork from the
place on has been tried before. -/
lemma loop_line {line tail : List Char} (noFeed : '\n' ∉ line)
    (ends : tail = [] ∨ tail.head? = some '\n') {p : Place} (text : p.after = line ++ tail)
    {id fuel : Nat} (enough : line.length < fuel) {tried : Tried}
    (fresh : ∀ i, p.index ≤ i → tried.contains (i, id) = false) {follow : Trial}
    {found : Place → Groups → Groups}
    (follows : ∀ q groups tried, follow q groups tried = .matched q (found q groups))
    (groups : Groups) :
    loop (attempt (.set CharSet.notLineFeed)) id true follow fuel p groups tried =
      .matched (past p line) (found (past p line) groups) := by
  -- The forks that are tried lie before the place, so each copy finds its own fork untried.
  induction line generalizing p fuel tried with
  | nil =>
    obtain ⟨fuel, rfl⟩ := Nat.exists_eq_succ_of_ne_zero (Nat.ne_zero_of_lt enough)
    rw [loop, forkRepeat, if_pos rfl, fork, fresh p.index (Nat.le_refl _),
      if_neg Bool.false_ne_true]
    cases tail with
    | nil =>
      rw [attempt_at_end (.set _) text]
      exact follows _ _ _
    | cons c tail =>
      obtain rfl : c = '\n' := by simpa using ends
      have other : ¬TakesChar (.set CharSet.notLineFeed) '\n' := by
        rw [takesChar_set_iff]
        decide
      rw [attempt_of_not_takes (.set _) other text]
      exact follows _ _ _
  | cons c line ih =>
    obtain ⟨fuel, rfl⟩ := Nat.exists_eq_succ_of_ne_zero (Nat.ne_zero_of_lt enough)
    rw [List.mem_cons, not_or] at noFeed
    have taken : TakesChar (.set CharSet.notLineFeed) c :=
      .set ((contains_notLineFeed c).mpr fun same => noFeed.1 same.symm)
    have fresh' (i : Nat) (later : p.index + 1 ≤ i) :
        (tried.insert (p.index, id)).contains (i, id) = false := by
      rw [contains_insert_of_ne (by omega)]
      exact fresh i (by omega)
    have rest := ih noFeed.2 (p := p.next c (line ++ tail)) rfl (Nat.lt_of_succ_lt_succ enough)
      fresh'
    have go : past p (c :: line) = past (p.next c (line ++ tail)) line := by
      rw [past, text]
      rfl
    have text' : p.after = c :: (line ++ tail) := text
    have ahead : p.index < (p.next c (line ++ tail)).index := Nat.lt_succ_self _
    rw [loop, forkRepeat, if_pos rfl, fork, fresh p.index (Nat.le_refl _),
      if_neg Bool.false_ne_true, attempt_of_takes taken text', if_pos ahead, rest, go]
    rfl

end Signpost.Proofs

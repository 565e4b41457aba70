import Mathlib.Tactic.Lemma
import Signpost.Pattern.Syntax

/-!
# Reading with a group after the text

What is left when a part of a pattern has been read is an end of the text. What has been read stays
the same when an opening parenthesis and more text come after it: no reader takes the parenthesis
for something that goes on. Both hold as long as no blanks are skipped.
-/

namespace Signpost.Proofs
open Pattern

variable {flags : Flags} {cs left more : List Char}

lemma skip_of_plain (plain : flags.extended = false) (cs : List Char) : flags.skip cs = cs := by
  rw [Flags.skip, plain]
  rfl

lemma collect_of_plain (plain : flags.extended = false) (p : Char → Bool) (cs : List Char) :
    flags.collect p false cs = (cs.takeWhile p, cs.dropWhile p) := by
  induction cs with
  | nil => rfl
  | cons c cs ih =>
    simp only [Flags.collect, plain, Bool.false_and, Bool.false_eq_true, if_false, ih,
      List.takeWhile_cons, List.dropWhile_cons]
    cases p c <;> rfl

/-- Where something is left, more text at the end does not change what is taken. -/
lemma takeWhile_append_of_left (p : Char → Bool) (h : cs.dropWhile p ≠ []) :
    (cs ++ more).takeWhile p = cs.takeWhile p := by
  rw [List.takeWhile_append, if_neg]
  intro all
  have parts := congrArg List.length (List.takeWhile_append_dropWhile (p := p) (l := cs))
  rw [List.length_append, all] at parts
  exact h (List.eq_nil_of_length_eq_zero (by omega))

lemma dropWhile_append_of_left (p : Char → Bool) (h : cs.dropWhile p ≠ []) :
    (cs ++ more).dropWhile p = cs.dropWhile p ++ more := by
  rw [List.dropWhile_append, if_neg]
  rwa [List.isEmpty_iff]

lemma collect_append (more : List Char) (plain : flags.extended = false) {p : Char → Bool}
    {taken : List Char} (h : flags.collect p false cs = (taken, left)) (some : left ≠ []) :
    flags.collect p false (cs ++ more) = (taken, left ++ more) := by
  rw [collect_of_plain plain] at h ⊢
  obtain ⟨rfl, rfl⟩ := Prod.mk.inj h
  rw [takeWhile_append_of_left p some, dropWhile_append_of_left p some]

/-! ### What is left is an end of the text -/

lemma suffix_cons_of_suffix {c : Char} (h : left <:+ cs) : left <:+ c :: cs :=
  h.trans (List.suffix_cons c cs)

lemma setName?_suffix {s : CharSet} (h : Flags.setName? cs = some (s, left)) : left <:+ cs := by
  simp only [Flags.setName?] at h
  split at h
  · rename_i after hrest
    have rest := List.dropWhile_suffix (· != ':') (l := cs)
    obtain ⟨set, -, same⟩ := Option.map_eq_some_iff.mp h
    cases same
    rw [hrest] at rest
    grind [List.IsSuffix.trans, List.suffix_cons]
  · cases h

lemma namedSet?_suffix {s : CharSet} (h : Flags.namedSet? cs = some (s, left)) : left <:+ cs := by
  simp only [Flags.namedSet?] at h
  split at h
  · obtain ⟨⟨set, after⟩, named, same⟩ := Option.map_eq_some_iff.mp h
    cases same
    exact suffix_cons_of_suffix (suffix_cons_of_suffix (setName?_suffix named))
  · exact suffix_cons_of_suffix (setName?_suffix h)
  · cases h

lemma readGreed_suffix : (flags.readGreed cs).2 <:+ cs := by
  simp only [Flags.readGreed]
  grind [List.suffix_cons, List.suffix_refl]

section suffix

variable (plain : flags.extended = false)
include plain

lemma hexFixed_suffix {n : Nat} {digits : List Char}
    (h : flags.hexFixed n cs = .ok (digits, left)) : left <:+ cs := by
  induction n generalizing cs digits with
  | zero =>
    cases h
    exact List.suffix_rfl
  | succ n ih =>
    cases cs with
    | nil => cases h
    | cons c cs =>
      simp only [Flags.hexFixed, skip_of_plain plain] at h
      grind [List.IsSuffix.trans, List.suffix_cons]

lemma hexEscape_suffix {digits : Nat} {e : Expr}
    (h : flags.hexEscape digits cs = .ok (e, left)) : left <:+ cs := by
  simp only [Flags.hexEscape, skip_of_plain plain, collect_of_plain plain] at h
  split at h
  · cases h
  · rename_i rest
    have := List.dropWhile_suffix Text.isHexDigit (l := rest)
    grind [List.IsSuffix.trans, List.suffix_cons]
  · grind [hexFixed_suffix]

lemma wordBoundary_suffix {e : Expr} (h : flags.wordBoundary cs = .ok (e, left)) : left <:+ cs := by
  simp only [Flags.wordBoundary, skip_of_plain plain, collect_of_plain plain] at h
  grind [List.IsSuffix.trans, List.suffix_cons, List.dropWhile_suffix, List.suffix_refl]

lemma escape_suffix {e : Expr} (h : flags.escape cs = .ok (e, left)) : left <:+ cs := by
  cases cs with
  | nil => cases h
  | cons c cs =>
    apply suffix_cons_of_suffix
    simp only [Flags.escape] at h
    split at h
    · cases h
    · split at h
      · cases h
        exact List.suffix_rfl
      · split at h
        case h_3 | h_4 | h_5 => exact hexEscape_suffix plain h
        case h_20 => exact wordBoundary_suffix plain h
        all_goals cases h
        all_goals exact List.suffix_rfl

lemma setItem_suffix {e : Expr} (h : flags.setItem cs = .ok (e, left)) : left <:+ cs := by
  simp only [Flags.setItem] at h
  split at h
  · cases h
  · exact suffix_cons_of_suffix (escape_suffix plain h)
  · cases h
    exact List.suffix_cons _ _

lemma setRange_suffix {s : CharSet} (h : flags.setRange cs = .ok (s, left)) : left <:+ cs := by
  simp only [Flags.setRange, skip_of_plain plain] at h
  split at h
  · cases h
  · rename_i first after hfirst
    apply List.IsSuffix.trans _ (setItem_suffix plain hfirst)
    split at h
    · cases h
    · rename_i c rest
      split at h
      · grind [List.suffix_refl]
      · apply suffix_cons_of_suffix
        cases rest with
        | nil => cases h
        | cons d rest =>
          dsimp only at h
          split at h
          · cases h
          · rename_i last after hlast
            apply List.IsSuffix.trans _ (setItem_suffix plain hlast)
            grind [List.suffix_refl]

lemma setItems_suffix {soFar s : CharSet} {fuel : Nat}
    (h : flags.setItems soFar fuel cs = .ok (s, left)) : left <:+ cs := by
  induction fuel generalizing soFar cs with
  | zero => cases h
  | succ fuel ih =>
    simp only [Flags.setItems, skip_of_plain plain] at h
    split at h
    case h_2 =>
      split at h
      · rename_i named
        exact suffix_cons_of_suffix ((ih h).trans (namedSet?_suffix named))
      · cases h
    case h_3 =>
      cases h
      exact List.suffix_cons _ _
    case h_7 =>
      split at h
      · cases h
      · rename_i item
        exact (ih h).trans (setRange_suffix plain item)
    all_goals cases h

lemma leadingDashes_suffix {s : CharSet} {fuel : Nat}
    (h : flags.leadingDashes fuel cs = .ok (s, left)) : left <:+ cs := by
  induction fuel generalizing cs s with
  | zero =>
    cases h
    exact List.suffix_rfl
  | succ fuel ih =>
    simp only [Flags.leadingDashes, skip_of_plain plain] at h
    grind [List.IsSuffix.trans, List.suffix_cons, List.suffix_refl]

lemma readItems_suffix {s : CharSet} (h : flags.readItems cs = .ok (s, left)) : left <:+ cs := by
  simp only [Flags.readItems, skip_of_plain plain] at h
  split at h
  · cases h
  · rename_i rest hdashes
    apply List.IsSuffix.trans _ (leadingDashes_suffix plain hdashes)
    apply suffix_cons_of_suffix
    cases rest with
    | nil => cases h
    | cons c rest => exact setItems_suffix plain h
  · cases h
  · rename_i hdashes
    exact (setItems_suffix plain h).trans (leadingDashes_suffix plain hdashes)

lemma readSet_suffix {e : Expr} (h : flags.readSet cs = .ok (e, left)) : left <:+ cs := by
  simp only [Flags.readSet, skip_of_plain plain] at h
  split at h
  · cases h
  · rename_i rest
    apply suffix_cons_of_suffix
    cases rest with
    | nil => cases h
    | cons c rest =>
      dsimp only at h
      split at h
      · cases h
      · rename_i hitems
        cases h
        exact readItems_suffix plain hitems
  · split at h
    · cases h
    · rename_i hitems
      cases h
      exact readItems_suffix plain hitems

lemma readCount_suffix {n : Nat} (h : flags.readCount cs = .ok (n, left)) : left <:+ cs := by
  simp only [Flags.readCount, collect_of_plain plain] at h
  grind [List.IsSuffix.trans, List.dropWhile_suffix]

lemma readMost_suffix {least : Nat} {most : Option Nat}
    (h : flags.readMost least cs = .ok (most, left)) : left <:+ cs := by
  simp only [Flags.readMost, skip_of_plain plain] at h
  split at h
  · cases h
  · apply suffix_cons_of_suffix
    split at h
    · cases h
    · cases h
      exact List.suffix_rfl
    · split at h
      · cases h
      · cases h
      · rename_i hcount
        cases h
        exact readCount_suffix plain hcount
  · cases h
    exact List.suffix_rfl

lemma readCounted_suffix {body e : Expr}
    (h : flags.readCounted body cs = .ok (e, left)) : left <:+ cs := by
  simp only [Flags.readCounted, skip_of_plain plain] at h
  split at h
  · cases h
  · split at h
    · cases h
    · rename_i hleast
      apply List.IsSuffix.trans _ (readCount_suffix plain hleast)
      split at h
      · cases h
      · rename_i hmost
        apply List.IsSuffix.trans _ (readMost_suffix plain hmost)
        split at h
        · cases h
        · cases h
          exact suffix_cons_of_suffix readGreed_suffix
      · cases h

lemma readPrimitive_suffix {c : Char} {e : Expr}
    (h : flags.readPrimitive c cs = .ok (e, left)) : left <:+ cs := by
  simp only [Flags.readPrimitive] at h
  grind [escape_suffix, List.suffix_refl]

end suffix

/-! ### More text at the end -/

/-- A character before the parenthesis is one of the text. -/
lemma eq_cons_of_append {c : Char} {rest : List Char} (h : cs ++ '(' :: more = c :: rest)
    (other : c ≠ '(') : ∃ inner, cs = c :: inner ∧ rest = inner ++ '(' :: more := by
  rcases List.append_eq_cons_iff.mp h with ⟨-, first⟩ | inner
  · exact absurd (List.cons.inj first).1.symm other
  · exact inner

lemma append_ne_cons {c : Char} (none : ∀ inner, cs = c :: inner → False) (other : c ≠ '(')
    (rest : List Char) : cs ++ '(' :: more ≠ c :: rest := by
  intro h
  obtain ⟨inner, hinner, -⟩ := eq_cons_of_append h other
  exact none inner hinner

lemma append_ne_pair {c : Char} (none : ∀ inner, cs = c :: c :: inner → False)
    (other : c ≠ '(') (rest : List Char) : cs ++ '(' :: more ≠ c :: c :: rest := by
  intro h
  obtain ⟨inner, rfl, hrest⟩ := eq_cons_of_append h other
  obtain ⟨inner, rfl, -⟩ := eq_cons_of_append hrest.symm other
  exact none inner rfl

lemma append_ne_nil : cs ++ '(' :: more ≠ [] :=
  List.append_ne_nil_of_right_ne_nil _ (List.cons_ne_nil _ _)

section append

variable (more)

lemma setName?_append {s : CharSet} (h : Flags.setName? cs = some (s, left)) :
    Flags.setName? (cs ++ more) = some (s, left ++ more) := by
  simp only [Flags.setName?] at h ⊢
  split at h
  · rename_i after hrest
    have some : cs.dropWhile (· != ':') ≠ [] := by
      rw [hrest]
      exact List.cons_ne_nil _ _
    rw [takeWhile_append_of_left _ some, dropWhile_append_of_left _ some, hrest]
    obtain ⟨set, named, same⟩ := Option.map_eq_some_iff.mp h
    cases same
    simp only [List.cons_append, named, Option.map_some]
  · cases h

lemma namedSet?_append {s : CharSet} (h : Flags.namedSet? cs = some (s, left)) :
    Flags.namedSet? (cs ++ '(' :: more) = some (s, left ++ '(' :: more) := by
  simp only [Flags.namedSet?] at h ⊢
  split at h
  · obtain ⟨⟨set, after⟩, named, same⟩ := Option.map_eq_some_iff.mp h
    cases same
    simp only [List.cons_append, setName?_append _ named, Option.map_some]
  · rename_i rest plus
    rw [List.cons_append]
    split
    · rename_i same
      exact absurd (List.cons.inj same).2 (append_ne_cons plus (by decide) _)
    · rename_i same
      cases same
      exact setName?_append _ h
    · rename_i other
      exact absurd rfl (other _)
  · cases h

lemma readGreed_append :
    flags.readGreed (cs ++ '(' :: more) =
      ((flags.readGreed cs).1, (flags.readGreed cs).2 ++ '(' :: more) := by
  simp only [Flags.readGreed]
  split
  · rename_i same
    obtain ⟨inner, rfl, rfl⟩ := eq_cons_of_append same (by decide)
    rfl
  · rename_i other
    split
    · exact absurd rfl (other _)
    · rfl

variable (plain : flags.extended = false)
include plain

lemma hexFixed_append {n : Nat} {digits : List Char}
    (h : flags.hexFixed n cs = .ok (digits, left)) :
    flags.hexFixed n (cs ++ more) = .ok (digits, left ++ more) := by
  induction n generalizing cs digits with
  | zero =>
    cases h
    rfl
  | succ n ih =>
    cases cs with
    | nil => cases h
    | cons c cs =>
      simp only [List.cons_append, Flags.hexFixed, skip_of_plain plain] at h ⊢
      split at h
      · split at h
        · rename_i digit _ found rest hrest
          cases h
          rw [if_pos digit, ih hrest]
        · cases h
      · cases h

lemma hexEscape_append {digits : Nat} {e : Expr} (h : flags.hexEscape digits cs = .ok (e, left)) :
    flags.hexEscape digits (cs ++ '(' :: more) = .ok (e, left ++ '(' :: more) := by
  simp only [Flags.hexEscape, skip_of_plain plain] at h ⊢
  split at h
  · cases h
  · rename_i rest
    generalize hfound : flags.collect Text.isHexDigit false rest = found at h
    obtain ⟨found, after⟩ := found
    dsimp only at h
    split at h
    · cases h
    · have hmore := collect_append ('(' :: more) plain hfound (List.cons_ne_nil _ _)
      split at h
      · cases h
      · rename_i some
        split at h
        · rename_i c hc
          cases h
          simp only [List.cons_append, hmore, if_neg some, hc]
        · cases h
    · cases h
  · rename_i unbraced
    split at h
    · cases h
    · rename_i found rest hrest
      have hmore := hexFixed_append ('(' :: more) plain hrest
      split at h
      · rename_i c hc
        cases h
        split
        · rename_i none
          exact absurd none append_ne_nil
        · rename_i braced
          exact absurd braced (append_ne_cons unbraced (by decide) _)
        · simp only [hmore, hc]
      · cases h

lemma wordBoundary_append {e : Expr} (h : flags.wordBoundary cs = .ok (e, left)) :
    flags.wordBoundary (cs ++ '(' :: more) = .ok (e, left ++ '(' :: more) := by
  simp only [Flags.wordBoundary, skip_of_plain plain] at h ⊢
  split at h
  · rename_i rest
    split at h
    · cases h
    · rename_i c rest
      split at h
      · rename_i named
        generalize hname : flags.collect (fun c => c.isAlpha || c == '-') false (c :: rest) = name
          at h
        obtain ⟨name, after⟩ := name
        dsimp only at h
        split at h
        · have hmore := collect_append ('(' :: more) plain hname (List.cons_ne_nil _ _)
          simp only [List.cons_append] at hmore ⊢
          simp only [named, if_true, hmore]
          split at h
          all_goals cases h
          all_goals rfl
        · cases h
      · rename_i unnamed
        cases h
        simp only [List.cons_append, if_neg unnamed]
  · rename_i unbraced
    cases h
    split
    · rename_i braced
      exact absurd braced (append_ne_cons unbraced (by decide) _)
    · rfl

lemma escape_append {e : Expr} (h : flags.escape cs = .ok (e, left)) :
    flags.escape (cs ++ '(' :: more) = .ok (e, left ++ '(' :: more) := by
  cases cs with
  | nil => cases h
  | cons c cs =>
    simp only [List.cons_append, Flags.escape] at h ⊢
    split at h
    · cases h
    · rename_i number
      rw [if_neg number]
      split at h
      · rename_i escapable
        cases h
        rw [if_pos escapable]
      · rename_i other
        rw [if_neg other]
        split at h
        case h_3 | h_4 | h_5 => exact hexEscape_append more plain h
        case h_20 => exact wordBoundary_append more plain h
        all_goals cases h
        all_goals rfl

lemma setItem_append {e : Expr} (h : flags.setItem cs = .ok (e, left)) :
    flags.setItem (cs ++ '(' :: more) = .ok (e, left ++ '(' :: more) := by
  simp only [Flags.setItem] at h ⊢
  split at h
  · cases h
  · exact escape_append more plain h
  · rename_i c cs unescaped
    cases h
    split
    · rename_i none
      cases none
    · rename_i escaped
      cases escaped
      exact absurd rfl unescaped
    · rename_i same
      cases same
      rfl

lemma setRange_append {s : CharSet} (h : flags.setRange cs = .ok (s, left)) :
    flags.setRange (cs ++ '(' :: more) = .ok (s, left ++ '(' :: more) := by
  simp only [Flags.setRange, skip_of_plain plain] at h ⊢
  split at h
  · cases h
  · rename_i first after hfirst
    rw [setItem_append more plain hfirst]
    dsimp only
    split at h
    · cases h
    · rename_i c rest
      have same {d : Char} (hd : '(' ≠ d) :
          (flags.peek (rest ++ '(' :: more) == some d) = (flags.peek rest == some d) := by
        cases rest with
        | nil => simpa [Flags.peek, plain] using hd
        | cons => simp [Flags.peek, plain]
      rw [List.cons_append]
      dsimp only
      rw [same (by decide), same (by decide)]
      split at h
      · rename_i alone
        rw [if_pos alone]
        cases first
        case char | set =>
          cases h
          rfl
        all_goals cases h
      · rename_i range
        rw [if_neg range]
        cases rest with
        | nil => cases h
        | cons d rest =>
          dsimp only at h
          split at h
          · cases h
          · rename_i last after hlast
            have hmore := setItem_append more plain hlast
            rw [List.cons_append] at hmore ⊢
            dsimp only
            rw [hmore]
            split at h
            · split at h
              · cases h
              · rename_i a b ordered
                cases h
                simp only [if_neg ordered]
            · cases h

lemma setItems_append {soFar s : CharSet} {fuel : Nat}
    (h : flags.setItems soFar fuel cs = .ok (s, left)) (extra : Nat) :
    flags.setItems soFar (fuel + extra) (cs ++ '(' :: more) = .ok (s, left ++ '(' :: more) := by
  induction fuel generalizing soFar cs with
  | zero => cases h
  | succ fuel ih =>
    rw [Nat.add_right_comm]
    simp only [Flags.setItems, skip_of_plain plain] at h ⊢
    split at h
    · cases h
    · split at h
      · rename_i named
        simp only [List.cons_append, namedSet?_append more named]
        exact ih h
      · cases h
    · cases h
      rfl
    · cases h
    · cases h
    · cases h
    · rename_i named closed intersection difference symmetric
      split at h
      · cases h
      · rename_i s after hitem
        split
        · rename_i none
          exact absurd none append_ne_nil
        · rename_i same
          exact absurd same (append_ne_cons named (by decide) _)
        · rename_i same
          exact absurd same (append_ne_cons closed (by decide) _)
        · rename_i same
          exact absurd same (append_ne_pair intersection (by decide) _)
        · rename_i same
          exact absurd same (append_ne_pair difference (by decide) _)
        · rename_i same
          exact absurd same (append_ne_pair symmetric (by decide) _)
        · rw [setRange_append more plain hitem]
          exact ih h

lemma leadingDashes_append {s : CharSet} {fuel : Nat}
    (h : flags.leadingDashes fuel cs = .ok (s, left)) (enough : cs.length ≤ fuel)
    (nonempty : left ≠ []) (extra : Nat) :
    flags.leadingDashes (fuel + extra) (cs ++ '(' :: more) = .ok (s, left ++ '(' :: more) := by
  induction fuel generalizing cs s with
  | zero =>
    cases h
    exact absurd (List.eq_nil_of_length_eq_zero (Nat.le_zero.mp enough)) nonempty
  | succ fuel ih =>
    rw [Nat.add_right_comm]
    simp only [Flags.leadingDashes, skip_of_plain plain] at h ⊢
    split at h
    · rename_i rest
      cases rest with
      | nil => cases h
      | cons c rest =>
        dsimp only at h
        split at h
        · cases h
        · rename_i dashes after hrest
          cases h
          have hmore := ih hrest (Nat.le_of_succ_le_succ enough)
          simp only [List.cons_append] at hmore ⊢
          rw [hmore]
    · rename_i other
      cases h
      split
      · rename_i same
        exact absurd same (append_ne_cons other (by decide) _)
      · rfl

lemma setItems_append_length {soFar s : CharSet}
    (h : flags.setItems soFar (cs.length + 1) cs = .ok (s, left)) :
    flags.setItems soFar ((cs ++ '(' :: more).length + 1) (cs ++ '(' :: more) =
      .ok (s, left ++ '(' :: more) := by
  rw [List.length_append, Nat.add_right_comm]
  exact setItems_append more plain h _

lemma readItems_append {s : CharSet} (h : flags.readItems cs = .ok (s, left)) :
    flags.readItems (cs ++ '(' :: more) = .ok (s, left ++ '(' :: more) := by
  have dashes {found : CharSet} {rest : List Char}
      (hfound : flags.leadingDashes cs.length cs = .ok (found, rest)) (some : rest ≠ []) :
      flags.leadingDashes (cs ++ '(' :: more).length (cs ++ '(' :: more) =
        .ok (found, rest ++ '(' :: more) := by
    rw [List.length_append]
    exact leadingDashes_append more plain hfound (Nat.le_refl _) some _
  simp only [Flags.readItems, skip_of_plain plain] at h ⊢
  split at h
  · cases h
  · rename_i rest hfound
    rw [dashes hfound (List.cons_ne_nil _ _)]
    cases rest with
    | nil => cases h
    | cons c rest => exact setItems_append_length more plain h
  · cases h
  · rename_i found rest closing nonempty hfound
    rw [dashes hfound nonempty]
    split
    · rename_i failed
      cases failed
    · rename_i same
      obtain ⟨rfl, first⟩ := Prod.mk.inj (Except.ok.inj same)
      obtain ⟨inner, rfl, -⟩ := eq_cons_of_append first (by decide)
      exact absurd rfl (closing inner rfl)
    · rename_i same
      simp at same
    · rename_i same
      cases same
      exact setItems_append_length more plain h

lemma readSet_append {e : Expr} (h : flags.readSet cs = .ok (e, left)) :
    flags.readSet (cs ++ '(' :: more) = .ok (e, left ++ '(' :: more) := by
  simp only [Flags.readSet, skip_of_plain plain] at h ⊢
  split at h
  · cases h
  · rename_i rest
    cases rest with
    | nil => cases h
    | cons c rest =>
      dsimp only at h
      split at h
      · cases h
      · rename_i ranges after hitems
        cases h
        have hmore := readItems_append more plain hitems
        rw [List.cons_append] at hmore
        simp only [List.cons_append, hmore]
  · rename_i plus
    split at h
    · cases h
    · rename_i ranges after hitems
      cases h
      split
      · rename_i none
        exact absurd none append_ne_nil
      · rename_i same
        exact absurd same (append_ne_cons plus (by decide) _)
      · rw [readItems_append more plain hitems]

lemma readCount_append {n : Nat} (h : flags.readCount cs = .ok (n, left)) (some : left ≠ []) :
    flags.readCount (cs ++ more) = .ok (n, left ++ more) := by
  simp only [Flags.readCount, collect_of_plain plain] at h ⊢
  generalize hdigits : cs.dropWhile Text.isBlank = digits at h
  split at h
  · rename_i n hn
    cases h
    have rest : digits.dropWhile Char.isDigit ≠ [] := by
      intro none
      rw [none] at some
      exact some rfl
    have nonempty : cs.dropWhile Text.isBlank ≠ [] := by
      rw [hdigits]
      rintro rfl
      exact rest rfl
    rw [dropWhile_append_of_left _ nonempty, hdigits, takeWhile_append_of_left _ rest, hn,
      dropWhile_append_of_left _ rest, dropWhile_append_of_left _ some]
  · cases h
  · cases h

lemma readMost_append {least : Nat} {most : Option Nat}
    (h : flags.readMost least cs = .ok (most, left)) :
    flags.readMost least (cs ++ '(' :: more) = .ok (most, left ++ '(' :: more) := by
  simp only [Flags.readMost, skip_of_plain plain] at h ⊢
  split at h
  · cases h
  · rename_i rest
    split at h
    · cases h
    · cases h
      rfl
    · rename_i closed
      split at h
      · cases h
      · cases h
      · rename_i n after some hcount
        cases h
        have hmore := readCount_append ('(' :: more) plain hcount some
        simp only [List.cons_append]
        split
        · rename_i none
          exact absurd none append_ne_nil
        · rename_i same
          exact absurd same (append_ne_cons closed (by decide) _)
        · rw [hmore]
          cases left with
          | nil => exact absurd rfl some
          | cons => rfl
  · rename_i comma
    cases h
    split
    · rename_i none
      exact absurd none append_ne_nil
    · rename_i same
      exact absurd same (append_ne_cons comma (by decide) _)
    · rfl

lemma readCounted_append {body e : Expr} (h : flags.readCounted body cs = .ok (e, left)) :
    flags.readCounted body (cs ++ '(' :: more) = .ok (e, left ++ '(' :: more) := by
  simp only [Flags.readCounted, skip_of_plain plain] at h ⊢
  cases cs with
  | nil => cases h
  | cons c cs =>
    dsimp only at h
    split at h
    · cases h
    · rename_i least after hleast
      split at h
      · cases h
      · rename_i most rest hmost
        have nonempty : after ≠ [] := by
          rintro rfl
          cases hmost
        have count := readCount_append ('(' :: more) plain hleast nonempty
        have bound := readMost_append more plain hmost
        rw [List.cons_append] at count ⊢
        simp only [count, bound, List.cons_append, readGreed_append]
        split at h
        · cases h
        · rename_i ordered
          cases h
          rw [if_neg ordered]
      · cases h

lemma readPrimitive_append {c : Char} {e : Expr} (h : flags.readPrimitive c cs = .ok (e, left)) :
    flags.readPrimitive c (cs ++ '(' :: more) = .ok (e, left ++ '(' :: more) := by
  simp only [Flags.readPrimitive] at h ⊢
  split at h
  case h_1 => exact escape_append more plain h
  all_goals cases h
  all_goals rfl

end append

end Signpost.Proofs

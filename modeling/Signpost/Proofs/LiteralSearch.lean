import Signpost.Proofs.LiteralPattern
import Signpost.Proofs.Replacement

/-!
# Replacing a text wherever it occurs

A pattern without special characters and without an anchor matches each occurrence of its text. So
all occurrences that do not overlap are replaced, from left to right, and the rest is kept.
-/

namespace Signpost.Proofs
open Pattern Pattern.Expr

/-- A text with all occurrences of a part replaced, from left to right. -/
inductive Substituted (part put : List Char) : List Char → List Char → Prop
  | nil : Substituted part put [] []
  | keep {c : Char} {rest out : List Char} (other : ¬part <+: c :: rest)
      (later : Substituted part put rest out) : Substituted part put (c :: rest) (c :: out)
  | put {rest out : List Char} (later : Substituted part put rest out) :
      Substituted part put (part ++ rest) (put ++ out)

lemma exists_substituted {part : List Char} (some : part ≠ []) (put text : List Char) :
    ∃ out, Substituted part put text out := by
  -- An occurrence may be longer than one character, so the induction is on the length.
  induction length : text.length using Nat.strongRecOn generalizing text with
  | ind n ih =>
    by_cases occurs : part <+: text
    · obtain ⟨rest, rfl⟩ := occurs
      have positive := List.length_pos_of_ne_nil some
      rw [List.length_append] at length
      obtain ⟨out, later⟩ := ih rest.length (by omega) rest rfl
      exact ⟨_, .put later⟩
    · cases text with
      | nil => exact ⟨_, .nil⟩
      | cons c rest =>
        rw [List.length_cons] at length
        obtain ⟨out, later⟩ := ih rest.length (by omega) rest rfl
        exact ⟨_, .keep occurs later⟩

lemma attempt_ofItems (es : List Expr) (id : Nat) (follow : Trial) :
    attempt (ofItems es) id follow = attemptAll es id follow := by
  rcases es with _ | ⟨e, _ | ⟨f, es⟩⟩
  · simp [ofItems, attempt, attemptAll]
  · simp [ofItems, attemptAll]
  · simp [ofItems, attempt]

/-- A text by itself. -/
def literalExpr (text : List Char) : Expr :=
  ofItems (text.map .char)

section Search

variable {part : List Char} {p : Place} {tried : Tried}

lemma matchAt_literal : (literalExpr part).matchAt p tried =
    attemptAll (part.map .char ++ []) 0 (fun q groups _ => .matched q groups) p [] tried := by
  rw [matchAt, literalExpr, attempt_ofItems, List.append_nil]

lemma matchAt_literal_of_append {rest : List Char} (text : p.after = part ++ rest) :
    (literalExpr part).matchAt p tried = .matched (past p part) [] := by
  rw [matchAt_literal, attemptAll_of_takes (takesAll_chars_iff.mpr rfl) text, attemptAll]

lemma matchAt_literal_of_other (other : ¬part <+: p.after) :
    (literalExpr part).matchAt p tried = .failed tried := by
  rw [matchAt_literal]
  apply attemptAll_of_not_takes
  · intro e mem
    obtain ⟨c, -, rfl⟩ := List.mem_map.mp mem
    exact .char c
  · intro own rest text takes
    obtain rfl := takesAll_chars_iff.mp takes
    exact other ⟨rest, text.symm⟩

lemma find_literal_of_append {rest : List Char} (text : p.after = part ++ rest) :
    (literalExpr part).find p = some ⟨⟨p, past p part⟩, []⟩ := by
  obtain ⟨index, before, after⟩ := p
  cases after with
  | nil | cons => rw [find, findFrom, matchAt_literal_of_append text]

lemma find_literal_of_other {c : Char} {rest : List Char} (text : p.after = c :: rest)
    (other : ¬part <+: p.after) :
    (literalExpr part).find p = (literalExpr part).find (p.next c rest) := by
  obtain ⟨index, before, after⟩ := p
  obtain rfl : after = c :: rest := text
  rw [find, findFrom, matchAt_literal_of_other other]
  rfl

lemma find_literal_at_end (some : part ≠ []) (text : p.after = []) :
    (literalExpr part).find p = none := by
  obtain ⟨index, before, after⟩ := p
  obtain rfl : after = [] := text
  have other : ¬part <+: [] := fun occurs => some (List.prefix_nil.mp occurs)
  rw [find, findFrom, matchAt_literal_of_other other]

/-- What is found takes a character, and it has no groups. -/
lemma isEmpty_of_find_literal (some : part ≠ []) {m : Match}
    (found : (literalExpr part).find p = .some m) : m.isEmpty = false ∧ m.groups = [] := by
  induction text : p.after generalizing p with
  | nil =>
    rw [find_literal_at_end some text] at found
    cases found
  | cons c rest ih =>
    by_cases occurs : part <+: p.after
    · obtain ⟨rest, text⟩ := occurs
      rw [find_literal_of_append text.symm] at found
      cases found
      have positive := List.length_pos_of_ne_nil some
      refine ⟨?_, rfl⟩
      rw [Match.isEmpty, index_past, beq_eq_false_iff_ne]
      dsimp only
      omega
    · rw [find_literal_of_other text occurs] at found
      exact ih found rfl

end Search

section Replacement

variable {e : Expr} {template : List Piece} {p : Place}

lemma replaced_of_solid {m : Match} {out : List Char} {allowed : Bool} (found : e.find p = some m)
    (solid : m.isEmpty = false) (later : Replaced e template m.whole.stop false out) :
    Replaced e template p allowed
      (p.textTo m.whole.start ++ Template.expand e.names m template ++ out) :=
  .put found (fun _ void => absurd void (ne_true_of_eq_false solid)) later

/-- A character in front of the next match is kept. -/
lemma replaced_keep {c : Char} {rest out : List Char} {allowed : Bool}
    (solid : ∀ m, e.find p = some m → m.isEmpty = false) (text : p.after = c :: rest)
    (same : e.find p = e.find (p.next c rest))
    (later : Replaced e template (p.next c rest) false out) :
    Replaced e template p allowed (c :: out) := by
  cases later with
  | rest nothing =>
    have kept : Replaced e template p allowed p.after := .rest (same.trans nothing)
    rwa [text] at kept
  | skip found void | finish found void =>
    rw [solid _ (same.trans found)] at void
    cases void
  | @put _ _ m out found counts later =>
    have ahead : p.index + 1 ≤ m.whole.start.index :=
      index_le_of_ahead (within_of_find found).start
    have first : p.textTo m.whole.start = c :: (p.next c rest).textTo m.whole.start := by
      have length : m.whole.start.index - p.index = m.whole.start.index - (p.index + 1) + 1 := by
        omega
      rw [Place.textTo, text, length, List.take_succ_cons]
      rfl
    have found' := same.trans found
    have put : Replaced e template p allowed _ := replaced_of_solid found' (solid m found') later
    rwa [first] at put

lemma replaced_of_substituted {part put text out : List Char} {allowed : Bool} (some : part ≠ [])
    (gives : ∀ m : Match, m.groups = [] →
      Template.expand (literalExpr part).names m template = put)
    (h : Substituted part put text out) (place : p.after = text) :
    Replaced (literalExpr part) template p allowed out := by
  induction h generalizing p allowed with
  | nil =>
    have kept : Replaced (literalExpr part) template p allowed p.after :=
      .rest (find_literal_at_end some place)
    rwa [place] at kept
  | keep other _ ih =>
    have solid (m : Match) (found : (literalExpr part).find p = .some m) :=
      (isEmpty_of_find_literal some found).1
    exact replaced_keep solid place (find_literal_of_other place (place ▸ other)) (ih rfl)
  | @put rest out _ ih =>
    have found := find_literal_of_append place
    obtain ⟨solid, -⟩ := isEmpty_of_find_literal some found
    have later : Replaced (literalExpr part) template (past p part) false out :=
      ih (after_past place)
    have nothing : p.textTo p = [] := by simp [Place.textTo]
    have put : Replaced (literalExpr part) template p allowed _ :=
      replaced_of_solid found solid later
    rwa [gives _ rfl, nothing, List.nil_append] at put

/-- What the replacement gives is the text with all occurrences replaced, if the template does not
depend on the match. -/
theorem substituted_iff {part put template text out : List Char} (some : part ≠ [])
    (gives : ∀ m : Match, m.groups = [] →
      Template.expand (literalExpr part).names m (Template.read template) = put) :
    Substituted part put text out ↔ (literalExpr part).replaceAll text template = out := by
  have computed {out : List Char} (h : Substituted part put text out) :
      (literalExpr part).replaceAll text template = out :=
    replaced_iff.mp (replaced_of_substituted some gives h rfl)
  refine ⟨computed, ?_⟩
  rintro rfl
  obtain ⟨out, h⟩ := exists_substituted some put text
  rwa [computed h]

end Replacement

end Signpost.Proofs

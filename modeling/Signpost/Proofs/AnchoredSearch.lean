import Mathlib.Tactic.Lemma
import Signpost.Pattern.Template

/-!
# Anchored expressions

An expression that begins with the start of the text matches nowhere else. Where it is replaced, one
match at most is, and what is put in its place stands at the start of the result.
-/

namespace Signpost.Proofs
open Pattern Pattern.Expr

mutual

/-- Whether every match of the expression begins at the start of the text, as far as its form
tells. -/
def anchored : Expr → Bool
  | .look l => l == .textStart
  | .group _ _ body => anchored body
  | .concat items => anchoredFirst items
  | .choice branches => anchoredAll branches
  | .repetition least _ _ body => least != 0 && anchored body
  | .empty => false
  | .char _ => false
  | .set _ => false

def anchoredFirst : List Expr → Bool
  | [] => false
  | e :: _ => anchored e

def anchoredAll : List Expr → Bool
  | [] => true
  | e :: es => anchored e && anchoredAll es

end

lemma orElse_eq_matched {a : Attempt} {other : Tried → Attempt} {stop : Place} {groups : Groups}
    (h : a.orElse other = .matched stop groups) :
    a = .matched stop groups ∨ ∃ tried, other tried = .matched stop groups := by
  cases a with
  | matched => exact .inl h
  | failed tried => exact .inr ⟨tried, h⟩

/-- A trial that succeeds at the start of the text only. -/
def AtStart (trial : Trial) : Prop :=
  ∀ (p : Place) (groups : Groups) (tried : Tried) (stop : Place) (found : Groups),
    trial p groups tried = .matched stop found → p.before = none

lemma atStart_fork {id : Nat} {first second : Trial} (hfirst : AtStart first)
    (hsecond : AtStart second) : AtStart (fork id first second) := by
  intro p groups tried stop found h
  rw [fork] at h
  split at h
  · cases h
  · rcases orElse_eq_matched h with h | ⟨later, h⟩
    · exact hfirst _ _ _ _ _ h
    · exact hsecond _ _ _ _ _ h

mutual

/-- An anchored expression can be matched at the start of the text only, whatever follows it. -/
theorem atStart_attempt (e : Expr) (h : anchored e = true) (id : Nat) (follow : Trial) :
    AtStart (attempt e id follow) := by
  cases e with
  | empty | char | set => cases h
  | look l =>
    intro p groups tried stop found hmatch
    obtain rfl : l = .textStart := by simpa [anchored] using h
    simp only [attempt] at hmatch
    split at hmatch
    · rename_i holds
      simpa [Look.holds] using holds
    · cases hmatch
  | group index name body =>
    intro p groups tried stop found hmatch
    simp only [attempt] at hmatch
    exact atStart_attempt body h id _ p groups tried stop found hmatch
  | concat items =>
    cases items with
    | nil => cases h
    | cons first items =>
      rw [attempt, attemptAll]
      exact atStart_attempt first h id _
  | choice branches =>
    rw [attempt]
    apply atStart_fork
    · exact atStart_attemptAny branches h (id + 1) follow
    · intro p groups tried stop found hmatch
      cases hmatch
  | repetition least most greedy body =>
    simp only [anchored, Bool.and_eq_true, bne_iff_ne, ne_eq] at h
    obtain ⟨some, h⟩ := h
    obtain ⟨n, rfl⟩ := Nat.exists_eq_succ_of_ne_zero some
    have copy (follow : Trial) (id : Nat) : AtStart (attempt body id follow) :=
      atStart_attempt body h id follow
    rw [attempt.eq_def]
    cases most with
    | some m => exact copy _ _
    | none =>
      cases n with
      | zero =>
        intro p groups tried stop found hmatch
        exact copy _ _ p groups tried stop found hmatch
      | succ n => exact copy _ _

theorem atStart_attemptAny (branches : List Expr) (h : anchoredAll branches = true) (id : Nat)
    (follow : Trial) : AtStart (attemptAny branches id follow) := by
  cases branches with
  | nil =>
    intro p groups tried stop found hmatch
    cases hmatch
  | cons e branches =>
    simp only [anchoredAll, Bool.and_eq_true] at h
    intro p groups tried stop found hmatch
    rw [attemptAny] at hmatch
    rcases orElse_eq_matched hmatch with hmatch | ⟨later, hmatch⟩
    · exact atStart_attempt e h.1 id follow p groups tried stop found hmatch
    · exact atStart_attemptAny branches h.2 _ follow p groups later stop found hmatch

end

lemma matchAt_of_before {e : Expr} (h : anchored e = true) {p : Place} (inside : p.before ≠ none)
    (tried : Tried) : ∃ later, e.matchAt p tried = .failed later := by
  cases hmatch : e.matchAt p tried with
  | failed later => exact ⟨later, rfl⟩
  | matched stop groups =>
    exact absurd (atStart_attempt e h 0 _ p [] tried stop groups hmatch) inside

/-- Inside the text no place is left to match at, whatever has been tried. -/
lemma findFrom_of_before {e : Expr} (h : anchored e = true) (text : List Char) (index : Nat)
    (c : Char) (tried : Tried) : e.findFrom index (some c) tried text = none := by
  induction text generalizing index c tried with
  | nil =>
    obtain ⟨later, failed⟩ :=
      matchAt_of_before h (p := ⟨index, some c, []⟩) (Option.some_ne_none c) tried
    simp only [findFrom, failed]
  | cons d text ih =>
    obtain ⟨later, failed⟩ :=
      matchAt_of_before h (p := ⟨index, some c, d :: text⟩) (Option.some_ne_none c) tried
    simp only [findFrom, failed]
    exact ih (index + 1) d later

/-- The search for an anchored expression is a single attempt at the start of the text. -/
theorem find_of_anchored {e : Expr} (h : anchored e = true) (p : Place) :
    e.find p =
      match e.matchAt p ∅ with
      | .matched stop groups => some ⟨⟨p, stop⟩, groups⟩
      | .failed _ => none := by
  obtain ⟨index, before, after⟩ := p
  cases after with
  | nil => rfl
  | cons c rest =>
    simp only [find, findFrom]
    cases e.matchAt ⟨index, before, c :: rest⟩ ∅ with
    | matched stop groups => rfl
    | failed later => exact findFrom_of_before h rest (index + 1) c later

lemma start_of_find {e : Expr} (h : anchored e = true) {p : Place} {m : Match}
    (found : e.find p = some m) : m.whole.start = p ∧ p.before = none := by
  rw [find_of_anchored h] at found
  cases hmatch : e.matchAt p ∅ with
  | failed later =>
    rw [hmatch] at found
    cases found
  | matched stop groups =>
    rw [hmatch] at found
    cases found
    exact ⟨rfl, atStart_attempt e h 0 _ p [] ∅ stop groups hmatch⟩

lemma replaceFrom_of_before {e : Expr} (h : anchored e = true) {p : Place}
    (inside : p.before ≠ none) (template : List Piece) (fuel : Nat) (allowed : Bool) :
    e.replaceFrom template fuel p allowed = p.after := by
  cases fuel with
  | zero => rfl
  | succ fuel =>
    obtain ⟨later, failed⟩ := matchAt_of_before h inside ∅
    rw [replaceFrom, find_of_anchored h, failed]

lemma replaceAll_of_failed {e : Expr} (h : anchored e = true) {text : List Char} {tried : Tried}
    (failed : e.matchAt (Place.ofText text) ∅ = .failed tried) (template : List Char) :
    e.replaceAll text template = text := by
  rw [replaceAll, replaceFrom, find_of_anchored h, failed]
  rfl

/-- What is put in the place of the match of an anchored expression stands at the start. -/
theorem replaceAll_of_matched {e : Expr} (h : anchored e = true) {text : List Char} {stop : Place}
    {groups : Groups} (matched : e.matchAt (Place.ofText text) ∅ = .matched stop groups)
    (template : List Char) :
    ∃ rest, e.replaceAll text template =
        Template.expand e.names ⟨⟨Place.ofText text, stop⟩, groups⟩ (Template.read template)
          ++ rest ∧
      (stop.before ≠ none → rest = stop.after) := by
  let rest := e.replaceFrom (Template.read template) (2 * text.length + 1) stop false
  refine ⟨rest, ?_, fun inside => replaceFrom_of_before h inside _ _ _⟩
  rw [replaceAll, replaceFrom, find_of_anchored h, matched]
  simp [Place.textTo, rest]

end Signpost.Proofs

import Signpost.Proofs.AnchoredSearch
import Signpost.Proofs.LineSearch

/-!
# Where matches lie

An attempt goes on in the text that it has before it. So a match is a piece of the text, and it
begins and ends at places of the text, one after the other.
-/

namespace Signpost.Proofs
open Pattern Pattern.Expr

variable {p q : Place}

/-- The second place is the first one or a later one of the same text. -/
def Ahead (p q : Place) : Prop :=
  ∃ cs, p.after = cs ++ q.after ∧ q = past p cs

lemma ahead_refl (p : Place) : Ahead p p := ⟨[], rfl, rfl⟩

lemma ahead_trans {r : Place} (hpq : Ahead p q) (hqr : Ahead q r) : Ahead p r := by
  obtain ⟨cs, hcs, rfl⟩ := hpq
  obtain ⟨ds, hds, rfl⟩ := hqr
  exact ⟨cs ++ ds, by rw [hcs, hds, List.append_assoc], (past_append p cs ds).symm⟩

lemma ahead_next {c : Char} {rest : List Char} (h : p.after = c :: rest) :
    Ahead p (p.next c rest) := by
  refine ⟨[c], h, ?_⟩
  rw [past, h]
  rfl

lemma index_add_of_ahead (h : Ahead p q) :
    p.index + p.after.length = q.index + q.after.length := by
  obtain ⟨cs, hcs, rfl⟩ := h
  have length := congrArg List.length hcs
  rw [List.length_append] at length
  rw [index_past]
  omega

lemma index_le_of_ahead (h : Ahead p q) : p.index ≤ q.index := by
  obtain ⟨cs, -, rfl⟩ := h
  rw [index_past]
  exact Nat.le_add_right _ _

lemma eq_past_of_ahead (h : Ahead p q) : q = past p (p.textTo q) := by
  obtain ⟨cs, hcs, rfl⟩ := h
  rw [textTo_past hcs]

lemma append_after_of_ahead (h : Ahead p q) : p.textTo q ++ q.after = p.after := by
  obtain ⟨cs, hcs, rfl⟩ := h
  rw [textTo_past hcs]
  exact hcs.symm

/-- A trial that succeeds goes on to another one, and finds it at a place that is ahead. -/
def Continues (trial follow : Trial) : Prop :=
  ∀ (p : Place) (groups : Groups) (tried : Tried) (stop : Place) (found : Groups),
    trial p groups tried = .matched stop found →
      ∃ (q : Place) (groups' : Groups) (tried' : Tried), Ahead p q ∧
        follow q groups' tried' = .matched stop found

lemma continues_refl (trial : Trial) : Continues trial trial :=
  fun p groups tried _ _ h => ⟨p, groups, tried, ahead_refl p, h⟩

lemma continues_failed (follow : Trial) : Continues (fun _ _ tried => .failed tried) follow :=
  fun _ _ _ _ _ h => nomatch h

lemma continues_trans {first second third : Trial} (h : Continues first second)
    (h' : Continues second third) : Continues first third := by
  intro p groups tried stop found hmatch
  obtain ⟨q, groups', tried', ahead, hnext⟩ := h p groups tried stop found hmatch
  obtain ⟨r, groups'', tried'', further, hlast⟩ := h' q groups' tried' stop found hnext
  exact ⟨r, groups'', tried'', ahead_trans ahead further, hlast⟩

lemma continues_fork {id : Nat} {first second follow : Trial} (hfirst : Continues first follow)
    (hsecond : Continues second follow) : Continues (fork id first second) follow := by
  intro p groups tried stop found h
  rw [fork] at h
  split at h
  · cases h
  · rcases orElse_eq_matched h with h | ⟨later, h⟩
    · exact hfirst _ _ _ _ _ h
    · exact hsecond _ _ _ _ _ h

lemma continues_forkRepeat {id : Nat} {greedy : Bool} {again leave follow : Trial}
    (hagain : Continues again follow) (hleave : Continues leave follow) :
    Continues (forkRepeat id greedy again leave) follow := by
  cases greedy with
  | true => exact continues_fork hagain hleave
  | false => exact continues_fork hleave hagain

section Copies

variable {body : Part} (hbody : ∀ id follow, Continues (body id follow) follow)
include hbody

lemma continues_loop (id : Nat) (greedy : Bool) (follow : Trial) (fuel : Nat) :
    Continues (loop body id greedy follow fuel) follow := by
  induction fuel with
  | zero => exact continues_failed follow
  | succ fuel ih =>
    apply continues_forkRepeat ?_ (continues_refl follow)
    intro p groups tried stop found hmatch
    obtain ⟨q, groups', tried', ahead, hnext⟩ := hbody _ _ p groups tried stop found hmatch
    dsimp only at hnext
    split at hnext
    · obtain ⟨r, groups'', tried'', further, hlast⟩ := ih q groups' tried' stop found hnext
      exact ⟨r, groups'', tried'', ahead_trans ahead further, hlast⟩
    · cases hnext

lemma continues_loopOnce (id : Nat) (greedy : Bool) (follow : Trial) :
    Continues (loopOnce body id greedy follow) follow := by
  intro p groups tried stop found hmatch
  exact continues_trans (hbody _ _) (continues_loop hbody id greedy follow _) p groups tried stop
    found hmatch

lemma continues_times (width : Nat) (follow : Trial) (n id : Nat) :
    Continues (times body width follow n id) follow := by
  induction n generalizing id with
  | zero => exact continues_refl follow
  | succ n ih => exact continues_trans (hbody _ _) (ih _)

lemma continues_upTo (width : Nat) (greedy : Bool) (follow : Trial) (n id : Nat) :
    Continues (upTo body width greedy follow n id) follow := by
  induction n generalizing id with
  | zero => exact continues_refl follow
  | succ n ih =>
    exact continues_forkRepeat (continues_trans (hbody _ _) (ih _)) (continues_refl follow)

end Copies

mutual

theorem continues_attempt (e : Expr) (id : Nat) (follow : Trial) :
    Continues (attempt e id follow) follow := by
  cases e with
  | empty => exact continues_refl follow
  | char c =>
    intro p groups tried stop found hmatch
    simp only [attempt] at hmatch
    split at hmatch
    · cases hmatch
    · rename_i d rest text
      split at hmatch
      · exact ⟨_, _, _, ahead_next text, hmatch⟩
      · cases hmatch
  | set s =>
    intro p groups tried stop found hmatch
    simp only [attempt] at hmatch
    split at hmatch
    · cases hmatch
    · rename_i d rest text
      split at hmatch
      · exact ⟨_, _, _, ahead_next text, hmatch⟩
      · cases hmatch
  | look l =>
    intro p groups tried stop found hmatch
    simp only [attempt] at hmatch
    split at hmatch
    · exact ⟨p, groups, tried, ahead_refl p, hmatch⟩
    · cases hmatch
  | group index name body =>
    intro p groups tried stop found hmatch
    simp only [attempt] at hmatch
    obtain ⟨q, groups', tried', ahead, hnext⟩ :=
      continues_attempt body id _ p groups tried stop found hmatch
    exact ⟨q, _, tried', ahead, hnext⟩
  | concat items =>
    rw [attempt]
    exact continues_attemptAll items id follow
  | choice branches =>
    rw [attempt]
    exact continues_fork (continues_attemptAny branches (id + 1) follow) (continues_failed follow)
  | repetition least most greedy body =>
    have copy (id : Nat) (follow : Trial) : Continues (attempt body id follow) follow :=
      continues_attempt body id follow
    rw [attempt.eq_def]
    dsimp only
    split
    · split
      · exact continues_forkRepeat (continues_loopOnce copy _ _ _) (continues_refl follow)
      · intro p groups tried stop found hmatch
        exact continues_loop copy id greedy follow _ p groups tried stop found hmatch
    · exact continues_trans (continues_times copy _ _ _ _) (continues_loopOnce copy _ _ _)
    · exact continues_trans (continues_times copy _ _ _ _) (continues_upTo copy _ _ _ _ _)

theorem continues_attemptAll (items : List Expr) (id : Nat) (follow : Trial) :
    Continues (attemptAll items id follow) follow := by
  cases items with
  | nil => exact continues_refl follow
  | cons e items =>
    rw [attemptAll]
    exact continues_trans (continues_attempt e id _) (continues_attemptAll items _ follow)

theorem continues_attemptAny (branches : List Expr) (id : Nat) (follow : Trial) :
    Continues (attemptAny branches id follow) follow := by
  cases branches with
  | nil => exact continues_failed follow
  | cons e branches =>
    intro p groups tried stop found hmatch
    rw [attemptAny] at hmatch
    rcases orElse_eq_matched hmatch with hmatch | ⟨later, hmatch⟩
    · exact continues_attempt e id follow p groups tried stop found hmatch
    · exact continues_attemptAny branches _ follow p groups later stop found hmatch

end

lemma ahead_of_matchAt {e : Expr} {tried : Tried} {stop : Place} {groups : Groups}
    (h : e.matchAt p tried = .matched stop groups) : Ahead p stop := by
  obtain ⟨q, groups', tried', ahead, hlast⟩ := continues_attempt e 0 _ p [] tried stop groups h
  cases hlast
  exact ahead

/-- A match begins at a place that is ahead, and ends at one that is ahead of this one. -/
structure Within (p : Place) (m : Match) : Prop where
  start : Ahead p m.whole.start
  stop : Ahead m.whole.start m.whole.stop

lemma within_of_findFrom {e : Expr} {text : List Char} {index : Nat} {before : Option Char}
    {tried : Tried} {m : Match} (h : e.findFrom index before tried text = some m) :
    Within ⟨index, before, text⟩ m := by
  induction text generalizing index before tried with
  | nil =>
    simp only [findFrom] at h
    split at h
    · rename_i stop groups hmatch
      cases h
      exact ⟨ahead_refl _, ahead_of_matchAt hmatch⟩
    · cases h
  | cons c rest ih =>
    simp only [findFrom] at h
    split at h
    · rename_i stop groups hmatch
      cases h
      exact ⟨ahead_refl _, ahead_of_matchAt hmatch⟩
    · obtain ⟨start, stop⟩ := ih h
      exact ⟨ahead_trans (ahead_next (p := ⟨index, before, c :: rest⟩) rfl) start, stop⟩

theorem within_of_find {e : Expr} {m : Match} (h : e.find p = some m) : Within p m :=
  within_of_findFrom h

/-- What stands before a match, its text, and what follows it make up the text. -/
lemma after_eq_of_within {m : Match} (h : Within p m) :
    p.textTo m.whole.start ++ m.whole.text ++ m.whole.stop.after = p.after := by
  rw [List.append_assoc, Span.text, append_after_of_ahead h.stop, append_after_of_ahead h.start]

end Signpost.Proofs

import Mathlib.Tactic.ByContra
import Signpost.Files.Edit
import Signpost.Proofs.KeyedEntries

/-!
# What a change of files leaves alone

Whatever is told of a change, all that it does is told: what is at a place of which nothing is told
stays as it was.
-/

namespace Signpost.Proofs
open Files

variable {t : Tree} {p q : Place} {e : Entry}

lemma get?_add (t : Tree) (p q : Place) (n : Node) :
    (t.add p n).get? q = if q = p then some ⟨t.fresh, n⟩ else t.get? q :=
  t.get?_put p q ⟨t.fresh, n⟩

lemma mem_of_get? (h : t.get? p = some e) : (p, e) ∈ t.entries :=
  mem_of_lookup h

/-- Where something else is after directories have been made, it is new. -/
lemma get?_makeParts (t : Tree) (e : Entry) (parts : List Name) (p : Place) :
    t.fresh ≤ (t.makeParts e parts).1.fresh ∧
      ((t.makeParts e parts).1.get? p = t.get? p ∨
        ∃ made, (t.makeParts e parts).1.get? p = some made ∧ t.fresh ≤ made.id) := by
  induction parts generalizing t e with
  | nil => exact ⟨Nat.le_refl _, .inl rfl⟩
  | cons part rest ih =>
    unfold Tree.makeParts
    split
    · exact ih t _
    · obtain ⟨later, here⟩ := ih (t.add ⟨e.id, part⟩ .directory) ⟨t.fresh, .directory⟩
      rw [get?_add] at here
      -- identities only go up, so what is made further down is new as well
      refine ⟨Nat.le_of_succ_le later, ?_⟩
      rcases here with same | ⟨made, found, new⟩
      · by_cases hp : p = ⟨e.id, part⟩
        · rw [if_pos hp] at same
          exact .inr ⟨_, same, Nat.le_refl _⟩
        · rw [if_neg hp] at same
          exact .inl same
      · exact .inr ⟨made, found, Nat.le_of_succ_le new⟩
    · exact ⟨Nat.le_refl _, .inl rfl⟩

lemma get?_makeDirectories (t : Tree) (path : Path) (p : Place) :
    (t.makeDirectories path).1.get? p = t.get? p ∨
      .entry p ∈ t.made (t.makeDirectories path).1 := by
  unfold Tree.makeDirectories
  split
  · rcases (get?_makeParts t (t.start path) path.parts p).2 with same | ⟨made, found, new⟩
    · exact .inl same
    · refine .inr (List.mem_map.mpr ⟨(p, made), ?_, rfl⟩)
      exact List.mem_filter.mpr ⟨mem_of_get? found, decide_eq_true new⟩
  · exact .inl rfl

lemma get?_filter {keep : Place × Entry → Bool}
    (kept : ∀ e, (p, e) ∈ t.entries → keep (p, e) = true) :
    ({ t with entries := t.entries.filter keep } : Tree).get? p = t.get? p := by
  obtain ⟨working, fresh, entries⟩ := t
  simp only [Tree.get?] at kept ⊢
  induction entries with
  | nil => rfl
  | cons f entries ih =>
    obtain ⟨q, f⟩ := f
    have rest := ih fun e mem => kept e (List.mem_cons_of_mem _ mem)
    by_cases hp : p = q
    · subst hp
      rw [List.filter_cons_of_pos (kept f (List.mem_cons_self ..)), List.lookup_cons_self,
        List.lookup_cons_self]
    · have other : (p == q) = false := by simpa using hp
      cases hk : keep (q, f) with
      | true => rw [List.filter_cons_of_pos hk, List.lookup_cons, List.lookup_cons, other, rest]
      | false => rw [List.filter_cons_of_neg (by simp [hk]), List.lookup_cons, other, rest]

lemma get?_write {content : Text.Bytes} {replaced : Bool}
    (untold : .entry p ∉ (t.write q content replaced).touches) :
    (t.write q content replaced).tree.get? p = t.get? p := by
  unfold Tree.write at untold ⊢
  split
  · rename_i absent
    have other : p ≠ q := by simpa [absent] using untold
    rw [get?_add, if_neg other]
  · rfl
  · rename_i id old present
    have other : p ≠ q := by simpa [present] using untold
    cases replaced with
    | true => simp only [if_true, get?_add, if_neg other]
    | false => simp only [Bool.false_eq_true, if_false, Tree.get?_put, if_neg other]

/-- A file is written in a directory that is there or has been made. -/
lemma writeAt_cases (t : Tree) (path : Path) (content : Text.Bytes) (replaced : Bool) :
    let parents := (t.makeDirectories path.directory).1
    let change := Edit.writeAt t path content replaced
    (∃ p, parents.placeOf? path = some p ∧
      change.tree = (parents.write p content replaced).tree ∧
      change.touches = t.made parents ++ (parents.write p content replaced).touches) ∨
    (change.tree = parents ∧ change.touches = t.made parents) := by
  intro parents change
  simp only [change, Edit.writeAt]
  cases path.asksDirectory with
  | true => exact .inr ⟨rfl, rfl⟩
  | false =>
    cases hp : parents.placeOf? path with
    | none => exact .inr ⟨rfl, rfl⟩
    | some p => exact .inl ⟨p, rfl, rfl, rfl⟩

lemma get?_writeAt {path : Path} {content : Text.Bytes} {replaced : Bool}
    (untold : .entry p ∉ (Edit.writeAt t path content replaced).touches) :
    (Edit.writeAt t path content replaced).tree.get? p = t.get? p := by
  have parents := get?_makeDirectories t path.directory p
  rcases writeAt_cases t path content replaced with ⟨q, -, tree, touches⟩ | ⟨tree, touches⟩
  · rw [touches, List.mem_append, not_or] at untold
    rw [tree, get?_write untold.2]
    exact parents.resolve_right untold.1
  · rw [touches] at untold
    rw [tree]
    exact parents.resolve_right untold

lemma get?_move {target : Place} (untold : .entry p ∉ (t.move q target).touches) :
    (t.move q target).tree.get? p = t.get? p := by
  have moved {e : Entry} (source : p ≠ q) (other : p ≠ target) :
      ((t.erase q).put target e).get? p = t.get? p := by
    rw [Tree.get?_put, if_neg other, Tree.get?_erase, if_neg source]
  unfold Tree.move at untold ⊢
  cases hq : t.get? q with
  | none => rfl
  | some e =>
    simp only [hq] at untold ⊢
    split
    · rfl
    · rename_i apart
      rw [if_neg apart] at untold
      cases ht : t.get? target with
      | none =>
        simp only [ht, List.mem_cons, Touch.entry.injEq, not_or] at untold
        exact moved untold.1 untold.2.1
      | some old =>
        simp only [ht] at untold ⊢
        split
        · rename_i gives
          simp only [if_pos gives, List.cons_append, List.mem_cons, Touch.entry.injEq,
            not_or] at untold
          exact moved untold.1 untold.2.1
        · rfl

lemma get?_remove {spared : Bool} (untold : .entry p ∉ (t.remove q spared).touches) :
    (t.remove q spared).tree.get? p = t.get? p := by
  unfold Tree.remove at untold ⊢
  cases hq : t.get? q with
  | none => rfl
  | some e =>
    simp only [hq, List.partition_eq_filter_filter] at untold ⊢
    refine get?_filter fun other mem => ?_
    by_contra gone
    refine untold (List.mem_flatMap.mpr ⟨(p, other), List.mem_filter.mpr ⟨mem, ?_⟩, ?_⟩)
    · simpa only [Function.comp_apply, Bool.not_eq_true, Bool.not_eq_false'] using gone
    · exact List.mem_cons_self ..

/-- What nothing is told of stays as it is. -/
theorem get?_apply {e : Edit} (untold : .entry p ∉ e.touches t) :
    (e.apply t).get? p = t.get? p := by
  unfold Edit.touches at untold
  unfold Edit.apply
  cases e with
  | write path content => exact get?_writeAt untold
  | replace path content => exact get?_writeAt untold
  | rename path target =>
    simp only [Edit.change] at untold ⊢
    split
    · rename_i hp hq
      simp only [hp, hq] at untold
      split
      · rename_i fits
        rw [if_pos fits] at untold
        exact get?_move untold
      · rfl
    · rfl
  | remove path =>
    simp only [Edit.change] at untold ⊢
    split
    · rename_i hp
      simp only [hp] at untold
      split
      · rename_i fits
        rw [if_pos fits] at untold
        exact get?_remove untold
      · rfl
    · rfl
  | read => rfl
  | makeDirectory path => exact (get?_makeDirectories t _ p).resolve_right untold

end Signpost.Proofs

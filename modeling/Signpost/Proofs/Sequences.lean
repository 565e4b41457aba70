import Mathlib.Data.List.Forall2

/-!
# Items in turn

What is made of items one after the other, until one of them fails.
-/

namespace Signpost.Proofs

section Outcomes

variable {α β ε : Type} {f : α → Except ε β}

lemma bind_eq_ok_iff {x : Except ε α} {next : α → Except ε β} {b : β} :
    x >>= next = .ok b ↔ ∃ a, x = .ok a ∧ next a = .ok b := by
  cases x <;> simp [bind, Except.bind]

lemma mapError_eq_ok_iff {ε' : Type} {x : Except ε α} {worded : ε → ε'} {a : α} :
    x.mapError worded = .ok a ↔ x = .ok a := by
  cases x <;> simp [Except.mapError]

lemma mapError_eq_error_iff {ε' : Type} {x : Except ε α} {worded : ε → ε'} {fault : ε'} :
    x.mapError worded = .error fault ↔ ∃ e, x = .error e ∧ fault = worded e := by
  cases x <;> simp [Except.mapError, eq_comm]

lemma mapM_eq_ok_iff {items : List α} {made : List β} :
    items.mapM f = .ok made ↔ List.Forall₂ (fun a b => f a = .ok b) items made := by
  induction items generalizing made with
  | nil => simp [pure, Except.pure, eq_comm]
  | cons a items ih =>
    rw [List.mapM_cons, List.forall₂_cons_left_iff]
    simp only [bind_eq_ok_iff, ih]
    constructor
    · rintro ⟨b, ha, rest, hrest, ⟨⟩⟩
      exact ⟨b, rest, ha, hrest, rfl⟩
    · rintro ⟨b, rest, ha, hrest, rfl⟩
      exact ⟨b, ha, rest, hrest, rfl⟩

/-- The first item that fails is the end. -/
lemma mapM_eq_error_iff {items : List α} {e : ε} :
    items.mapM f = .error e ↔ ∃ before a after, items = before ++ a :: after ∧
      (∀ b ∈ before, ∃ c, f b = .ok c) ∧ f a = .error e := by
  induction items with
  | nil =>
    constructor
    · nofun
    · rintro ⟨before, a, after, split, -⟩
      simp at split
  | cons first items ih =>
    rw [List.mapM_cons]
    cases hfirst : f first with
    | error fault =>
      constructor
      · rintro ⟨⟩
        exact ⟨[], first, items, rfl, nofun, hfirst⟩
      · rintro ⟨before, a, after, split, passed, failed⟩
        cases before with
        | nil =>
          obtain ⟨rfl, -⟩ := List.cons.inj split
          rw [hfirst] at failed
          cases failed
          rfl
        | cons b before =>
          obtain ⟨rfl, -⟩ := List.cons.inj split
          obtain ⟨c, made⟩ := passed first (List.mem_cons_self ..)
          cases hfirst.symm.trans made
    | ok b =>
      have rest : (Except.ok b >>= fun b => items.mapM f >>= fun made => pure (b :: made)) =
          .error e ↔ items.mapM f = .error e := by
        cases items.mapM f <;> simp [bind, Except.bind, pure, Except.pure]
      rw [rest, ih]
      constructor
      · rintro ⟨before, a, after, rfl, passed, failed⟩
        have allPassed := List.forall_mem_cons.mpr ⟨⟨b, hfirst⟩, passed⟩
        exact ⟨first :: before, a, after, rfl, allPassed, failed⟩
      · rintro ⟨before, a, after, split, passed, failed⟩
        cases before with
        | nil =>
          obtain ⟨rfl, -⟩ := List.cons.inj split
          cases hfirst.symm.trans failed
        | cons c before =>
          obtain ⟨rfl, rfl⟩ := List.cons.inj split
          exact ⟨before, a, after, rfl, (List.forall_mem_cons.mp passed).2, failed⟩

/-- What each item keeps, and keeps succeeding with, all of them do. -/
lemma foldlM_keeps {step : β → α → Except ε β} {kept : β → Prop} {items : List α} {b : β}
    (each : ∀ a ∈ items, ∀ b, kept b → ∃ next, step b a = .ok next ∧ kept next) (first : kept b) :
    ∃ last, items.foldlM step b = .ok last ∧ kept last := by
  induction items generalizing b with
  | nil => exact ⟨b, rfl, first⟩
  | cons a items ih =>
    obtain ⟨step, rest⟩ := List.forall_mem_cons.mp each
    obtain ⟨next, made, keptNext⟩ := step b first
    rw [List.foldlM_cons, made]
    exact ih rest keptNext

end Outcomes

section Pairs

variable {α β γ : Type} {rel : α → β → Prop} {items : List α} {made : List β}

lemma map_eq_of_forall₂ {g : β → γ} {h : α → γ} (each : List.Forall₂ rel items made)
    (same : ∀ a b, rel a b → g b = h a) : made.map g = items.map h := by
  induction each with
  | nil => rfl
  | cons first _ ih => rw [List.map_cons, List.map_cons, same _ _ first, ih]

lemma exists_of_forall₂ (each : List.Forall₂ rel items made) {a : α} (mem : a ∈ items) :
    ∃ b ∈ made, rel a b := by
  induction each with
  | nil => cases mem
  | cons first _ ih =>
    rcases List.mem_cons.mp mem with rfl | later
    · exact ⟨_, List.mem_cons_self .., first⟩
    · obtain ⟨b, inRest, related⟩ := ih later
      exact ⟨b, List.mem_cons_of_mem _ inRest, related⟩

lemma forall₂_comp {next : β → γ → Prop} {across : α → γ → Prop} {rest : List γ}
    (both : ∀ a b c, rel a b → next b c → across a c) (first : List.Forall₂ rel items made)
    (second : List.Forall₂ next made rest) : List.Forall₂ across items rest := by
  induction first generalizing rest with
  | nil =>
    cases second
    exact .nil
  | cons related _ ih =>
    cases second with
    | cons relatedToo rest => exact .cons (both _ _ _ related relatedToo) (ih rest)

end Pairs

end Signpost.Proofs

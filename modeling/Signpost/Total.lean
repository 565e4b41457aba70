/-!
# Totals

The total of a list is the sum of the sizes of its elements. The main statements say how it changes
with one element.
-/

namespace Signpost

/-- The sum of the sizes of the elements. -/
def total {α : Type} (size : α → Nat) (items : List α) : Nat :=
  items.foldr (fun a rest => size a + rest) 0

variable {α : Type} {size : α → Nat} {items : List α} {i : Nat} {a : α}

@[simp]
theorem total_nil : total size [] = 0 := rfl

@[simp]
theorem total_cons : total size (a :: items) = size a + total size items := rfl

theorem total_modify (h : items[i]? = some a) (f : α → α) :
    total size (items.modify i f) + size a = total size items + size (f a) := by
  induction items generalizing i with
  | nil => simp at h
  | cons first items ih =>
    cases i with
    | zero =>
      obtain rfl : first = a := by simpa using h
      simp only [List.modify_zero_cons, total_cons]
      omega
    | succ i =>
      have := ih (i := i) (by simpa using h)
      simp only [List.modify_succ_cons, total_cons]
      omega

theorem total_set (h : items[i]? = some a) (b : α) :
    total size (items.set i b) + size a = total size items + size b := by
  have : Inhabited α := ⟨a⟩
  have hsum := @total_modify α size items i a h fun _ => b
  rwa [List.modify_eq_set] at hsum

theorem le_total (h : items[i]? = some a) : size a ≤ total size items := by
  induction items generalizing i with
  | nil => simp at h
  | cons first items ih =>
    cases i with
    | zero =>
      obtain rfl : first = a := by simpa using h
      simp
    | succ i =>
      have := ih (i := i) (by simpa using h)
      simp only [total_cons]
      omega

end Signpost

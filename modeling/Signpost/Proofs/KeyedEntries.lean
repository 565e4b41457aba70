import Mathlib.Data.List.Nodup

/-!
# Entries with keys

What is found under a key is an entry, and every entry is found if no key occurs twice. So it makes
no difference in which order the entries of a map stand.
-/

namespace Signpost.Proofs

section Lookup

variable {α β : Type} [BEq α] [LawfulBEq α] {entries : List (α × β)} {key : α} {value : β}

lemma mem_of_lookup (found : entries.lookup key = some value) : (key, value) ∈ entries := by
  obtain ⟨before, after, rfl, -⟩ := List.lookup_eq_some_iff.mp found
  exact List.mem_append_right _ (List.mem_cons_self ..)

lemma lookup_of_mem (keys : (entries.map Prod.fst).Nodup) (mem : (key, value) ∈ entries) :
    entries.lookup key = some value := by
  induction entries with
  | nil => cases mem
  | cons e entries ih =>
    obtain ⟨absent, keys⟩ := List.nodup_cons.mp keys
    rcases List.mem_cons.mp mem with rfl | later
    · exact List.lookup_cons_self
    · have other : (key == e.1) = false := by
        rw [beq_eq_false_iff_ne]
        rintro rfl
        exact absent (List.mem_map.mpr ⟨_, later, rfl⟩)
      rw [List.lookup_cons, other, ih keys later]

end Lookup

/-- The entries of a map in two orders. No key of a map occurs twice. -/
structure Reordered {α β : Type} (entries other : List (α × β)) : Prop where
  keys : (entries.map Prod.fst).Nodup
  perm : entries.Perm other

namespace Reordered

variable {α β : Type} {entries other : List (α × β)}

lemma symm (h : Reordered entries other) : Reordered other entries :=
  ⟨(h.perm.map Prod.fst).nodup_iff.mp h.keys, h.perm.symm⟩

lemma lookup_eq [BEq α] [LawfulBEq α] (h : Reordered entries other) (key : α) :
    entries.lookup key = other.lookup key := by
  apply Option.ext
  intro value
  constructor
  · intro found
    exact lookup_of_mem h.symm.keys (h.perm.mem_iff.mp (mem_of_lookup found))
  · intro found
    exact lookup_of_mem h.keys (h.perm.mem_iff.mpr (mem_of_lookup found))

end Reordered

end Signpost.Proofs

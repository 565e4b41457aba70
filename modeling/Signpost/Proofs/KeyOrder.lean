import Signpost.Proofs.HostPrecedence
import Signpost.Text.Utf8.Lemmas

/-!
# The keys of a rules file in order

The keys of a rules file are put in the order of their bytes, `default` after all others. There is
one way to do so in which the entries of a key keep their order.
-/

namespace Signpost.Proofs
open Source Text

/-- The keys of a rules file have the order of their bytes, and `default` is the last one. -/
def Precedes (first second : String) : Prop :=
  second = RulesFile.defaultKey ∨
    first ≠ RulesFile.defaultKey ∧ ¬Utf8.encode second < Utf8.encode first

/-- The keys of a rules file and what stands under them, put in order. -/
structure InOrder (servers keys : List (String × List FileRule)) : Prop where
  sorted : keys.Pairwise fun first second => Precedes first.1 second.1
  same : ∀ key, keys.filter (·.1 == key) = servers.filter (·.1 == key)

/-- The server that a key stands for. -/
def serverOfKey (key : String) : String :=
  if key = RulesFile.defaultKey then "*" else key

section Keys

variable {α : Type} {e : String × α} {entries : List (String × α)}

/-- Entries of one key keep their order. -/
lemma filter_insertKey (key : String) : (RulesFile.insertKey e entries).filter (·.1 == key) =
    (e :: entries).filter (·.1 == key) := by
  induction entries with
  | nil => rfl
  | cons first rest ih =>
    unfold RulesFile.insertKey
    split
    · rfl
    · rename_i greater
      rw [List.filter_cons, ih]
      by_cases he : e.1 == key <;> by_cases hfirst : first.1 == key
      · rw [beq_iff_eq] at he hfirst
        exact absurd ((keyLe_iff _ _).mpr (le_of_eq (he.trans hfirst.symm))) greater
      all_goals simp [he, hfirst]

lemma filter_sortedKeys (key : String) :
    (sortedKeys entries).filter (·.1 == key) = entries.filter (·.1 == key) := by
  induction entries with
  | nil => rfl
  | cons e entries ih =>
    rw [sortedKeys, List.foldr_cons, filter_insertKey, List.filter_cons, List.filter_cons, ← ih]
    rfl

lemma mem_of_filters {other : List (String × α)}
    (same : ∀ key, entries.filter (·.1 == key) = other.filter (·.1 == key)) (mem : e ∈ entries) :
    e ∈ other := by
  have own : e ∈ entries.filter (·.1 == e.1) := List.mem_filter.mpr ⟨mem, beq_self_eq_true _⟩
  rw [same] at own
  exact (List.mem_filter.mp own).1

end Keys

/-- The keys of a rules file in order. -/
def keysInOrder (servers : List (String × List FileRule)) : List (String × List FileRule) :=
  specificKeys servers ++ (sortedKeys servers).filter (·.1 == RulesFile.defaultKey)

lemma inOrder_keysInOrder (servers : List (String × List FileRule)) :
    InOrder servers (keysInOrder servers) where
  sorted := by
    have last {e : String × List FileRule}
        (mem : e ∈ (sortedKeys servers).filter (·.1 == RulesFile.defaultKey)) (other : String) :
        Precedes other e.1 :=
      .inl (beq_iff_eq.mp (List.mem_filter.mp mem).2)
    refine List.pairwise_append.mpr ⟨?_, ?_, fun _ _ _ mem => last mem _⟩
    · refine ((sorted_sortedKeys servers).filter _).imp_of_mem ?_
      intro first second mem _ le
      refine .inr ⟨(mem_specificKeys.mp mem).2, Utf8.encode_not_lt fun greater => ?_⟩
      exact not_lt.mpr le (String.lt_iff_toList_lt.mpr greater)
    · exact List.pairwise_of_forall_mem_list fun _ _ _ mem => last mem _
  same key := by
    rw [keysInOrder, specificKeys, List.filter_append, List.filter_filter, List.filter_filter,
      ← filter_sortedKeys]
    by_cases isDefault : key = RulesFile.defaultKey
    · subst isDefault
      simp
    · have specific : ∀ e ∈ sortedKeys servers, (e.1 == key && e.1 != RulesFile.defaultKey) =
          (e.1 == key) := by
        intro e _
        by_cases h : e.1 = key <;> simp [h, isDefault]
      have none : ∀ e ∈ sortedKeys servers,
          ¬(e.1 == key && e.1 == RulesFile.defaultKey) = true := by
        intro e _
        by_cases h : e.1 = key <;> simp [h, isDefault]
      rw [List.filter_congr specific, List.filter_eq_nil_iff.mpr none, List.append_nil]

lemma flatMap_ordered (servers : List (String × List FileRule)) :
    ((RulesFile.ordered servers).flatMap fun e => e.2.map fun line => (e.1, line)) =
      ((keysInOrder servers).flatMap fun e => e.2.map fun line => (e.1, line)).map fun line =>
        (serverOfKey line.1, line.2) := by
  have specific : ∀ e ∈ specificKeys servers, serverOfKey e.1 = e.1 :=
    fun e mem => if_neg (mem_specificKeys.mp mem).2
  rw [ordered_eq, keysInOrder, List.flatMap_append, List.flatMap_append, List.map_append]
  simp only [List.map_flatMap, List.flatMap_map, List.map_map, Function.comp_def]
  congr 1
  · refine List.flatMap_congr fun e mem => ?_
    rw [specific e mem]
  · refine List.flatMap_congr fun e mem => ?_
    rw [serverOfKey, if_pos (beq_iff_eq.mp (List.mem_filter.mp mem).2)]

lemma eq_of_precedes {first second : String} (h : Precedes first second)
    (k : Precedes second first) : first = second := by
  rcases h with h | ⟨firstSpecific, h⟩ <;> rcases k with k | ⟨secondSpecific, k⟩
  · rw [h, k]
  · exact absurd h secondSpecific
  · exact absurd k firstSpecific
  · have order {a b : String} (h : ¬Utf8.encode b < Utf8.encode a) : a ≤ b :=
      not_lt.mp fun greater =>
        h (Utf8.flatMap_encodeChar_lt (String.lt_iff_toList_lt.mp greater))
    exact le_antisymm (order h) (order k)

/-- There is one way to put keys in order. -/
lemma eq_of_sorted {first second : List (String × List FileRule)}
    (sorted : first.Pairwise fun a b => Precedes a.1 b.1)
    (sortedToo : second.Pairwise fun a b => Precedes a.1 b.1)
    (same : ∀ key, first.filter (·.1 == key) = second.filter (·.1 == key)) : first = second := by
  induction first generalizing second with
  | nil =>
    cases second with
    | nil => rfl
    | cons b second => cases mem_of_filters (fun key => (same key).symm) (List.mem_cons_self ..)
  | cons a first ih =>
    cases second with
    | nil => cases mem_of_filters same (List.mem_cons_self ..)
    | cons b second =>
      obtain ⟨before, sortedRest⟩ := List.pairwise_cons.mp sorted
      obtain ⟨beforeToo, sortedRestToo⟩ := List.pairwise_cons.mp sortedToo
      have memFirst : b ∈ a :: first :=
        mem_of_filters (fun key => (same key).symm) (List.mem_cons_self ..)
      have memSecond : a ∈ b :: second := mem_of_filters same (List.mem_cons_self ..)
      have key : a.1 = b.1 := by
        rcases List.mem_cons.mp memFirst with rfl | later
        · rfl
        · rcases List.mem_cons.mp memSecond with rfl | laterToo
          · rfl
          · exact eq_of_precedes (before b later) (beforeToo a laterToo)
      have heads := same a.1
      simp only [List.filter_cons, key, beq_self_eq_true, if_true] at heads
      obtain ⟨rfl, -⟩ := List.cons.inj heads
      refine congrArg (List.cons a) (ih sortedRest sortedRestToo fun other => ?_)
      have rest := same other
      rw [List.filter_cons, List.filter_cons] at rest
      split at rest
      · exact (List.cons.inj rest).2
      · exact rest

end Signpost.Proofs

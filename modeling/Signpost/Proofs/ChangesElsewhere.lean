import Signpost.Proofs.TidyFiles

/-!
# Changes elsewhere

A change of what is at other places is not told as one of a place.
-/

namespace Signpost.Proofs
open Files

/-- A change of something that is not at a place. -/
def Elsewhere (t : Tree) (p : Place) : Edit → Prop
  | .write path _ => ∃ q, t.placeOf? path = some q ∧ q ≠ p
  | .replace path _ => ∃ q, t.placeOf? path = some q ∧ q ≠ p
  | .rename path target => t.placeOf? path ≠ some p ∧ t.placeOf? target ≠ some p
  | .remove path => t.placeOf? path ≠ some p
  | .read _ => True
  | .makeDirectory path => ((Edit.makeDirectory path).apply t).get? p = t.get? p

/-- A change elsewhere is told neither of a place nor of a directory. -/
def ToldApart (p : Place) (directory : Identity) (touches : List Touch) : Prop :=
  .entry p ∉ touches ∧ .itself directory ∉ touches

variable {t : Tree} {p q : Place} {e : Entry} {directory : Identity}

lemma ne_of_file (tidy : Tidy t) (there : IsDirectory t directory) (found : t.get? p = some e)
    (file : e.node ≠ .directory) : directory ≠ e.id := by
  rintro rfl
  obtain ⟨id, node⟩ := e
  cases node with
  | directory => exact file rfl
  | file content => exact not_isDirectory tidy (mem_of_get? found) there

/-- Where a path leads no directory has to be made. -/
lemma makeDirectories_of_walk {path : Path} {last : Entry} (h : t.walk path = .ok last) :
    (t.makeDirectories path).1 = t := by
  have parts (names : List Name) (e : Entry) (h : names.foldlM t.walkPart e = .ok last) :
      (t.makeParts e names).1 = t := by
    induction names generalizing e with
    | nil => rfl
    | cons part rest ih =>
      rw [List.foldlM_cons] at h
      cases hpart : t.walkPart e part with
      | error f =>
        rw [hpart] at h
        cases h
      | ok next =>
        rw [hpart] at h
        rw [Tree.makeParts, hpart]
        exact ih next h
  unfold Tree.walk at h
  unfold Tree.makeDirectories
  cases hcheck : path.check with
  | error f => rfl
  | ok =>
    rw [hcheck] at h
    exact parts path.parts (t.start path) h

lemma made_self (tidy : Tidy t) : t.made t = [] := by
  rw [Tree.made, List.map_eq_nil_iff, List.filter_eq_nil_iff]
  intro e mem new
  exact absurd (tidy.bounds e mem).2 (Nat.not_lt.mpr (of_decide_eq_true new))

lemma toldApart_writeAt {path : Path} {content : Text.Bytes} {replaced : Bool} (tidy : Tidy t)
    (there : IsDirectory t directory) (elsewhere : ∃ q, t.placeOf? path = some q ∧ q ≠ p) :
    ToldApart p directory (Edit.writeAt t path content replaced).touches := by
  obtain ⟨q, placed, other⟩ := elsewhere
  obtain ⟨walk, -, -⟩ := home_of_placeOf? tidy placed
  have parents := makeDirectories_of_walk walk
  have written : ToldApart p directory (t.write q content replaced).touches := by
    unfold Tree.write
    cases found : t.get? q with
    | none => simp [ToldApart, Ne.symm other]
    | some old =>
      obtain ⟨id, node⟩ := old
      cases node with
      | directory => simp [ToldApart]
      | file before =>
        have apart := ne_of_file tidy there found nofun
        simp [ToldApart, Ne.symm other, apart]
  rcases writeAt_cases t path content replaced with ⟨place, hplace, -, touches⟩ | ⟨-, touches⟩
  · rw [parents, placed] at hplace
    cases hplace
    rwa [touches, parents, made_self tidy, List.nil_append]
  · rw [touches, parents, made_self tidy]
    simp [ToldApart]

lemma toldApart_move (tidy : Tidy t) (free : NoDirectory t q) (there : IsDirectory t directory)
    {target : Place} (other : q ≠ p) (otherTarget : target ≠ p) :
    ToldApart p directory (t.move q target).touches := by
  unfold Tree.move
  cases found : t.get? q with
  | none => simp [ToldApart]
  | some moved =>
    have file := node_of_noDirectory free found
    have apart := ne_of_file tidy there found file
    simp only
    split
    · simp [ToldApart]
    · cases old : t.get? target with
      | none => simp [ToldApart, Ne.symm other, Ne.symm otherTarget, apart]
      | some before =>
        simp only
        split
        · rename_i gives
          have apartBefore := ne_of_file tidy there old (node_of_givesWay file gives.2)
          simp [ToldApart, Ne.symm other, Ne.symm otherTarget, apart, apartBefore]
        · simp [ToldApart]

/-- A file holds nothing but itself. -/
lemma eq_of_holds_file (tidy : Tidy t) (mem : (p, e) ∈ t.entries) (file : e.node ≠ .directory)
    {f : Place × Entry} (other : f ∈ t.entries) (holds : t.holds e.id f.2.id = true) :
    f = (p, e) := by
  obtain ⟨id, node⟩ := e
  cases node with
  | directory => exact absurd rfl file
  | file content =>
    by_contra apart
    have different : (f.2.id == id) = false := by
      rw [beq_eq_false_iff_ne]
      exact fun same => apart (List.inj_on_of_nodup_map tidy.ids other mem same)
    have outside := isAbove_file tidy (not_isDirectory tidy mem) (tidy.homes f other)
    unfold Tree.holds at holds
    cases hsteps : t.entries.length with
    | zero =>
      rw [hsteps, Tree.isAbove, different] at holds
      cases holds
    | succ n =>
      rw [hsteps, Tree.isAbove, different, place?_of_mem tidy (p := f.1) (e := f.2) other] at holds
      simp [outside] at holds

lemma toldApart_remove {spared : Bool} (tidy : Tidy t) (free : NoDirectory t q)
    (there : IsDirectory t directory) (other : q ≠ p) :
    ToldApart p directory (t.remove q spared).touches := by
  unfold Tree.remove
  cases found : t.get? q with
  | none => simp [ToldApart]
  | some e =>
    have file := node_of_noDirectory free found
    have apart := ne_of_file tidy there found file
    simp only [List.partition_eq_filter_filter]
    have told {touch : Touch} (mem : touch ∈ (t.entries.filter fun f =>
        t.holds e.id f.2.id && !(spared && f.1 == q)).flatMap fun f =>
          [.entry f.1, .itself f.2.id]) : touch = .entry q ∨ touch = .itself e.id := by
      obtain ⟨f, gone, here⟩ := List.mem_flatMap.mp mem
      obtain ⟨memF, holds⟩ := List.mem_filter.mp gone
      rw [eq_of_holds_file tidy (mem_of_get? found) file memF (Bool.and_eq_true_iff.mp holds).1]
        at here
      simpa using here
    constructor
    · intro mem
      rcases told mem with same | same
      · exact other (Touch.entry.inj same).symm
      · cases same
    · intro mem
      rcases told mem with same | same
      · cases same
      · exact apart (Touch.itself.inj same)

theorem toldApart_of_elsewhere {e : Edit} (tidy : Tidy t) (spares : SparesDirectories t e)
    (there : IsDirectory t directory) (elsewhere : Elsewhere t p e) :
    ToldApart p directory (e.touches t) := by
  unfold Edit.touches
  cases e with
  | write path content => exact toldApart_writeAt tidy there elsewhere
  | replace path content => exact toldApart_writeAt tidy there elsewhere
  | rename path target =>
    simp only [Edit.change]
    split
    · rename_i q r hq hr
      split
      · refine toldApart_move tidy (spares q hq) there ?_ ?_
        · exact fun same => elsewhere.1 (same ▸ hq)
        · exact fun same => elsewhere.2 (same ▸ hr)
      · simp [ToldApart]
    · simp [ToldApart]
  | remove path =>
    simp only [Edit.change]
    split
    · rename_i q hq
      split
      · exact toldApart_remove tidy (spares q hq) there
          fun same => elsewhere (same ▸ hq)
      · simp [ToldApart]
    · simp [ToldApart]
  | read => simp [Edit.change, ToldApart]
  | makeDirectory path =>
    constructor
    · intro mem
      obtain ⟨⟨q, made⟩, new, same⟩ := List.mem_map.mp mem
      obtain ⟨found, new⟩ := List.mem_filter.mp new
      obtain rfl : q = p := Touch.entry.inj same
      -- what is made is new, but what is at the place was there before
      have here := get?_of_mem (tidy_apply tidy spares).1 found
      rw [show _ = t.get? q from elsewhere] at here
      exact absurd (tidy.bounds _ (mem_of_get? here)).2 (Nat.not_lt.mpr (of_decide_eq_true new))
    · intro mem
      obtain ⟨_, -, same⟩ := List.mem_map.mp mem
      cases same

end Signpost.Proofs

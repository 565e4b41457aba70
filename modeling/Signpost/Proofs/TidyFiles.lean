import Mathlib.Data.List.Nodup
import Signpost.Proofs.FileEdits

/-!
# Files in order

Everything has one place, in a directory, and an identity of its own. Changes keep this order, and
as long as they move or remove no directory, the paths to directories lead to where they led before.
-/

namespace Signpost.Proofs
open Files

variable {t u : Tree} {p q : Place} {e : Entry} {id : Identity}

/-- No directory is at a place. -/
def NoDirectory (t : Tree) (p : Place) : Prop :=
  ∀ id, t.get? p ≠ some ⟨id, .directory⟩

/-- A change leaves the directories where they are. It may make new ones. -/
def SparesDirectories (t : Tree) : Edit → Prop
  | .rename path _ => ∀ p, t.placeOf? path = some p → NoDirectory t p
  | .remove path => ∀ p, t.placeOf? path = some p → NoDirectory t p
  | .write _ _ => True
  | .replace _ _ => True
  | .read _ => True
  | .makeDirectory _ => True

def IsDirectory (t : Tree) (id : Identity) : Prop :=
  id = root ∨ ∃ p, (p, ⟨id, .directory⟩) ∈ t.entries

/-- Everything has one place, which is in a directory, and an identity of its own. -/
structure Tidy (t : Tree) : Prop where
  places : (t.entries.map Prod.fst).Nodup
  ids : (t.entries.map fun e => e.2.id).Nodup
  bounds : ∀ e ∈ t.entries, root < e.2.id ∧ e.2.id < t.fresh
  fresh : root < t.fresh
  homes : ∀ e ∈ t.entries, IsDirectory t e.1.directory
  working : IsDirectory t t.working

/-- All directories are where they were. -/
structure Spares (t u : Tree) : Prop where
  working : u.working = t.working
  directories : ∀ p id, (p, ⟨id, .directory⟩) ∈ t.entries → (p, ⟨id, .directory⟩) ∈ u.entries

lemma spares_refl (t : Tree) : Spares t t :=
  ⟨rfl, fun _ _ => id⟩

lemma spares_trans {v : Tree} (first : Spares t u) (second : Spares u v) : Spares t v :=
  ⟨second.working.trans first.working, fun p id mem => second.directories p id
    (first.directories p id mem)⟩

lemma isDirectory_of_spares (spares : Spares t u) (h : IsDirectory t id) : IsDirectory u id := by
  rcases h with rfl | ⟨p, mem⟩
  · exact .inl rfl
  · exact .inr ⟨p, spares.directories p id mem⟩

lemma tidy_empty : Tidy {} :=
  ⟨.nil, .nil, by simp, Nat.one_pos, by simp, .inl rfl⟩

lemma get?_of_mem (tidy : Tidy t) (mem : (p, e) ∈ t.entries) : t.get? p = some e :=
  lookup_of_mem tidy.places mem

lemma place?_of_mem (tidy : Tidy t) (mem : (p, e) ∈ t.entries) : t.place? e.id = some p := by
  cases found : t.entries.find? fun f => f.2.id == e.id with
  | none => exact absurd mem fun h => by simpa using List.find?_eq_none.mp found _ h
  | some f =>
    have same : f.2.id = e.id := by simpa using List.find?_some found
    have one : f = (p, e) :=
      List.inj_on_of_nodup_map tidy.ids (List.mem_of_find?_eq_some found) mem same
    rw [Tree.place?, found, one]
    rfl

lemma place?_root (tidy : Tidy t) : t.place? root = none := by
  rw [Tree.place?, Option.map_eq_none_iff, List.find?_eq_none]
  intro e mem same
  have above := (tidy.bounds e mem).1
  rw [beq_iff_eq.mp same] at above
  exact absurd above (Nat.lt_irrefl root)

lemma not_isDirectory (tidy : Tidy t) {content : Text.Bytes}
    (mem : (p, ⟨id, .file content⟩) ∈ t.entries) : ¬IsDirectory t id := by
  rintro (rfl | ⟨q, other⟩)
  · exact absurd (tidy.bounds _ mem).1 (Nat.lt_irrefl root)
  · have one := List.inj_on_of_nodup_map tidy.ids mem other rfl
    cases one

/-- The directory above another one is one too, and stays above it. -/
lemma above_isDirectory (tidy : Tidy t) (h : IsDirectory t id) :
    IsDirectory t (t.above id) ∧ (Tidy u → Spares t u → u.above id = t.above id) := by
  rcases h with rfl | ⟨p, mem⟩
  · rw [Tree.above, place?_root tidy]
    refine ⟨.inl rfl, fun tidyThen _ => ?_⟩
    rw [Tree.above, place?_root tidyThen]
  · rw [Tree.above, place?_of_mem tidy mem]
    refine ⟨tidy.homes _ mem, fun tidyThen spares => ?_⟩
    rw [Tree.above, place?_of_mem tidyThen (spares.directories p id mem)]

lemma walkPart_eq (he : e.node = .directory) (part : Name) :
    t.walkPart e part =
      if Path.isStill part then .ok e
      else if part = [dot, dot] then .ok ⟨t.above e.id, .directory⟩
      else if longestName < part.length then .error .nameTooLong
      else
        match t.get? ⟨e.id, part⟩ with
        | some next => .ok next
        | none => .error .notFound :=
  if_neg (not_not_intro he)

lemma walkPart_directory {next : Entry} {part : Name} (tidy : Tidy t) (he : e.node = .directory)
    (there : IsDirectory t e.id) (h : t.walkPart e part = .ok next)
    (hnext : next.node = .directory) :
    IsDirectory t next.id ∧ (Tidy u → Spares t u → u.walkPart e part = .ok next) := by
  rw [walkPart_eq he] at h ⊢
  by_cases still : Path.isStill part = true
  · rw [if_pos still] at h ⊢
    cases h
    exact ⟨there, fun _ _ => rfl⟩
  · rw [if_neg still] at h ⊢
    by_cases up : part = [dot, dot]
    · rw [if_pos up] at h ⊢
      cases h
      obtain ⟨above, kept⟩ := above_isDirectory (u := u) tidy there
      exact ⟨above, fun tidyThen spares => by rw [kept tidyThen spares]⟩
    · rw [if_neg up] at h ⊢
      by_cases long : longestName < part.length
      · rw [if_pos long] at h
        cases h
      · rw [if_neg long] at h ⊢
        cases found : t.get? ⟨e.id, part⟩ with
        | none => simp [found] at h
        | some other =>
          rw [found] at h
          cases h
          obtain ⟨id, node⟩ := next
          cases hnext
          have mem := mem_of_get? found
          refine ⟨.inr ⟨_, mem⟩, fun tidyThen spares => ?_⟩
          rw [get?_of_mem tidyThen (spares.directories _ _ mem)]

lemma walkPart_of_other {part : Name} (other : e.node ≠ .directory) :
    t.walkPart e part = .error .notDirectory := by
  simp only [Tree.walkPart, ne_eq, other, not_false_eq_true, if_true]

lemma node_of_walkPart {next : Entry} {part : Name} (h : t.walkPart e part = .ok next) :
    e.node = .directory := by
  by_contra other
  rw [walkPart_of_other other] at h
  cases h

lemma node_of_walkParts {parts : List Name} {last : Entry}
    (h : parts.foldlM t.walkPart e = .ok last) (hlast : last.node = .directory) :
    e.node = .directory := by
  cases parts with
  | nil =>
    cases h
    exact hlast
  | cons part rest =>
    rw [List.foldlM_cons] at h
    cases hpart : t.walkPart e part with
    | error f =>
      rw [hpart] at h
      cases h
    | ok next => exact node_of_walkPart hpart

/-- Nothing is at a place that is not found. -/
lemma get?_of_notFound {part : Name} (h : t.walkPart e part = .error .notFound) :
    e.node = .directory ∧ t.get? ⟨e.id, part⟩ = none := by
  have he : e.node = .directory := by
    by_contra other
    rw [walkPart_of_other other] at h
    cases h
  rw [walkPart_eq he] at h
  split at h
  · cases h
  · split at h
    · cases h
    · split at h
      · cases h
      · cases found : t.get? ⟨e.id, part⟩ with
        | none => exact ⟨he, rfl⟩
        | some next =>
          rw [found] at h
          cases h

/-- The way to a directory leads over directories, so it stays as it is. -/
theorem walkParts_directory {parts : List Name} {last : Entry} (tidy : Tidy t)
    (there : IsDirectory t e.id) (h : parts.foldlM t.walkPart e = .ok last)
    (hlast : last.node = .directory) :
    IsDirectory t last.id ∧ (Tidy u → Spares t u → parts.foldlM u.walkPart e = .ok last) := by
  induction parts generalizing e with
  | nil =>
    cases h
    exact ⟨there, fun _ _ => rfl⟩
  | cons part rest ih =>
    -- nothing but directories leads on, so all that is passed before the last one is kept
    have he := node_of_walkParts h hlast
    rw [List.foldlM_cons] at h
    cases hpart : t.walkPart e part with
    | error f =>
      rw [hpart] at h
      cases h
    | ok next =>
      rw [hpart] at h
      obtain ⟨thereNext, kept⟩ :=
        walkPart_directory (u := u) tidy he there hpart (node_of_walkParts h hlast)
      obtain ⟨thereLast, keptRest⟩ := ih thereNext h
      refine ⟨thereLast, fun tidyThen spares => ?_⟩
      rw [List.foldlM_cons, kept tidyThen spares]
      exact keptRest tidyThen spares

lemma start_isDirectory (tidy : Tidy t) (path : Path) : IsDirectory t (t.start path).id := by
  unfold Tree.start
  split
  · exact .inl rfl
  · exact tidy.working

lemma start_of_spares (spares : Spares t u) (path : Path) : u.start path = t.start path := by
  rw [Tree.start, Tree.start, spares.working]

/-- A path to a directory leads to the same one as long as no directory is moved or removed. -/
theorem walk_directory {path : Path} (tidy : Tidy t) (h : t.walk path = .ok ⟨id, .directory⟩) :
    IsDirectory t id ∧ (Tidy u → Spares t u → u.walk path = .ok ⟨id, .directory⟩) := by
  unfold Tree.walk at h ⊢
  cases hcheck : path.check with
  | error f =>
    rw [hcheck] at h
    cases h
  | ok =>
    rw [hcheck] at h
    obtain ⟨there, kept⟩ :=
      walkParts_directory (u := u) tidy (start_isDirectory tidy path) h rfl
    refine ⟨there, fun tidyThen spares => ?_⟩
    rw [start_of_spares spares]
    exact kept tidyThen spares

lemma home_of_placeOf? {path : Path} (tidy : Tidy t) (h : t.placeOf? path = some p) :
    t.walk path.directory = .ok ⟨p.directory, .directory⟩ ∧ path.fileName? = some p.name ∧
      IsDirectory t p.directory := by
  unfold Tree.placeOf? at h
  split at h
  · rename_i id name walk named
    split at h
    · cases h
      exact ⟨walk, named, (walk_directory (u := t) tidy walk).1⟩
    · cases h
  · cases h

lemma tidy_filter {keep : Place × Entry → Bool} (tidy : Tidy t)
    (directories : ∀ p id, (p, ⟨id, .directory⟩) ∈ t.entries →
      keep (p, ⟨id, .directory⟩) = true) :
    Tidy { t with entries := t.entries.filter keep } ∧
      Spares t { t with entries := t.entries.filter keep } := by
  have spares : Spares t { t with entries := t.entries.filter keep } :=
    ⟨rfl, fun p id found => List.mem_filter.mpr ⟨found, directories p id found⟩⟩
  refine ⟨⟨?_, ?_, ?_, tidy.fresh, ?_, ?_⟩, spares⟩
  · exact tidy.places.sublist (List.filter_sublist.map _)
  · exact tidy.ids.sublist (List.filter_sublist.map _)
  · exact fun f found => tidy.bounds f (List.mem_of_mem_filter found)
  · exact fun f found =>
      isDirectory_of_spares spares (tidy.homes f (List.mem_of_mem_filter found))
  · exact isDirectory_of_spares spares tidy.working

lemma tidy_cons (tidy : Tidy t) (entries : u.entries = (q, e) :: t.entries)
    (working : u.working = t.working) (later : t.fresh ≤ u.fresh)
    (free : ∀ f ∈ t.entries, f.1 ≠ q ∧ f.2.id ≠ e.id) (bounds : root < e.id ∧ e.id < u.fresh)
    (home : IsDirectory t q.directory) : Tidy u ∧ Spares t u := by
  have mem {f : Place × Entry} : f ∈ u.entries ↔ f = (q, e) ∨ f ∈ t.entries := by
    rw [entries, List.mem_cons]
  have spares : Spares t u := ⟨working, fun p id found => mem.mpr (.inr found)⟩
  refine ⟨⟨?_, ?_, ?_, Nat.lt_of_lt_of_le tidy.fresh later, ?_, ?_⟩, spares⟩
  · rw [entries, List.map_cons, List.nodup_cons, List.mem_map]
    exact ⟨fun ⟨f, found, same⟩ => (free f found).1 same, tidy.places⟩
  · rw [entries, List.map_cons, List.nodup_cons, List.mem_map]
    exact ⟨fun ⟨f, found, same⟩ => (free f found).2 same, tidy.ids⟩
  · intro f found
    rcases mem.mp found with rfl | found
    · exact bounds
    · obtain ⟨above, below⟩ := tidy.bounds f found
      exact ⟨above, Nat.lt_of_lt_of_le below later⟩
  · intro f found
    rcases mem.mp found with rfl | found
    · exact isDirectory_of_spares spares home
    · exact isDirectory_of_spares spares (tidy.homes f found)
  · rw [working]
    exact isDirectory_of_spares spares tidy.working

lemma tidy_erase (tidy : Tidy t) (free : NoDirectory t p) :
    Tidy (t.erase p) ∧ Spares t (t.erase p) := by
  refine tidy_filter tidy fun q id mem => bne_iff_ne.mpr ?_
  rintro rfl
  exact free id (get?_of_mem tidy mem)

lemma noDirectory_erase (free : NoDirectory t q) : NoDirectory (t.erase p) q := by
  intro id found
  rw [Tree.get?_erase] at found
  split at found
  · cases found
  · exact free id found

lemma node_of_noDirectory (free : NoDirectory t p) (found : t.get? p = some e) :
    e.node ≠ .directory := by
  intro isDirectory
  obtain ⟨id, node⟩ := e
  cases isDirectory
  exact free id found

/-- A directory gives way to directories only. -/
lemma node_of_givesWay {moved old : Entry} (file : moved.node ≠ .directory)
    (gives : t.givesWay moved old = true) : old.node ≠ .directory := by
  intro isDirectory
  unfold Tree.givesWay at gives
  cases hmoved : moved.node with
  | directory => exact file hmoved
  | file content => simp [hmoved, isDirectory] at gives

/-- What is put at a place where no directory is leaves the directories where they are. -/
lemma tidy_put (tidy : Tidy t) (free : NoDirectory t p) (entries : u.entries = (t.put p e).entries)
    (working : u.working = t.working) (later : t.fresh ≤ u.fresh)
    (new : ∀ f ∈ t.entries, f.1 ≠ p → f.2.id ≠ e.id) (bounds : root < e.id ∧ e.id < u.fresh)
    (home : IsDirectory t p.directory) : Tidy u ∧ Spares t u := by
  obtain ⟨tidyThen, spares⟩ := tidy_erase tidy free
  have apart : ∀ f ∈ (t.erase p).entries, f.1 ≠ p ∧ f.2.id ≠ e.id := by
    intro f mem
    obtain ⟨found, other⟩ := List.mem_filter.mp mem
    have place := bne_iff_ne.mp other
    exact ⟨place, new f found place⟩
  obtain ⟨tidyLast, sparesLast⟩ := tidy_cons tidyThen entries working later apart bounds
    (isDirectory_of_spares spares home)
  exact ⟨tidyLast, spares_trans spares sparesLast⟩

lemma tidy_add (tidy : Tidy t) (free : NoDirectory t p) (home : IsDirectory t p.directory)
    (n : Node) : Tidy (t.add p n) ∧ Spares t (t.add p n) :=
  tidy_put tidy free rfl rfl (Nat.le_succ t.fresh)
    (fun f found _ => Nat.ne_of_lt (tidy.bounds f found).2) ⟨tidy.fresh, Nat.lt_succ_self _⟩ home

lemma tidy_write {content : Text.Bytes} {replaced : Bool} (tidy : Tidy t)
    (home : IsDirectory t p.directory) :
    Tidy (t.write p content replaced).tree ∧ Spares t (t.write p content replaced).tree := by
  unfold Tree.write
  cases found : t.get? p with
  | none => exact tidy_add tidy (by simp [NoDirectory, found]) home _
  | some old =>
    obtain ⟨id, node⟩ := old
    cases node with
    | directory => exact ⟨tidy, spares_refl t⟩
    | file before =>
      have free : NoDirectory t p := by simp [NoDirectory, found]
      have mem := mem_of_get? found
      cases replaced with
      | true => exact tidy_add tidy free home _
      | false =>
        refine tidy_put tidy free rfl rfl (Nat.le_refl _) ?_ (tidy.bounds _ mem) home
        intro f other place same
        exact place (congrArg Prod.fst (List.inj_on_of_nodup_map tidy.ids other mem same))

lemma tidy_move (tidy : Tidy t) (free : NoDirectory t p) (home : IsDirectory t q.directory) :
    Tidy (t.move p q).tree ∧ Spares t (t.move p q).tree := by
  unfold Tree.move
  cases found : t.get? p with
  | none => exact ⟨tidy, spares_refl t⟩
  | some moved =>
    -- what is moved keeps its identity, which is free once it has left its place
    have moving (empty : NoDirectory t q) :
        Tidy ((t.erase p).put q moved) ∧ Spares t ((t.erase p).put q moved) := by
      have mem := mem_of_get? found
      obtain ⟨tidyThen, spares⟩ := tidy_erase tidy free
      obtain ⟨tidyLast, sparesLast⟩ := tidy_put (u := (t.erase p).put q moved) tidyThen
        (noDirectory_erase empty) rfl rfl (Nat.le_refl _) (by
          intro f left _ same
          obtain ⟨other, place⟩ := List.mem_filter.mp left
          exact bne_iff_ne.mp place
            (congrArg Prod.fst (List.inj_on_of_nodup_map tidy.ids other mem same)))
        (tidy.bounds _ mem) (isDirectory_of_spares spares home)
      exact ⟨tidyLast, spares_trans spares sparesLast⟩
    simp only
    split
    · exact ⟨tidy, spares_refl t⟩
    · cases there : t.get? q with
      | none => exact moving (by simp [NoDirectory, there])
      | some old =>
        simp only
        split
        · rename_i gives
          refine moving fun id same => ?_
          rw [there] at same
          cases same
          exact node_of_givesWay (node_of_noDirectory free found) gives.2 rfl
        · exact ⟨tidy, spares_refl t⟩

/-- Nothing is within a file. -/
lemma isAbove_file (tidy : Tidy t) {file : Identity} (notThere : ¬IsDirectory t file)
    (there : IsDirectory t id) (steps : Nat) : t.isAbove file steps id = false := by
  have apart {other : Identity} (h : IsDirectory t other) : (other == file) = false := by
    rw [beq_eq_false_iff_ne]
    rintro rfl
    exact notThere h
  induction steps generalizing id with
  | zero => exact apart there
  | succ n ih =>
    rw [Tree.isAbove, apart there, Bool.false_or]
    rcases there with rfl | ⟨p, mem⟩
    · rw [place?_root tidy]
      rfl
    · rw [place?_of_mem tidy mem]
      exact ih (tidy.homes _ mem)

lemma tidy_remove {spared : Bool} (tidy : Tidy t) (free : NoDirectory t p) :
    Tidy (t.remove p spared).tree ∧ Spares t (t.remove p spared).tree := by
  unfold Tree.remove
  cases found : t.get? p with
  | none => exact ⟨tidy, spares_refl t⟩
  | some e =>
    obtain ⟨id, node⟩ := e
    cases node with
    | directory => exact absurd found (free id)
    | file content =>
      simp only [List.partition_eq_filter_filter]
      refine tidy_filter tidy fun q other mem => ?_
      have outside := isAbove_file tidy (not_isDirectory tidy (mem_of_get? found))
        (.inr ⟨q, mem⟩) t.entries.length
      simp [Tree.holds, outside]

lemma tidy_makeParts (parts : List Name) (tidy : Tidy t)
    (there : e.node = .directory → IsDirectory t e.id) :
    Tidy (t.makeParts e parts).1 ∧ Spares t (t.makeParts e parts).1 := by
  induction parts generalizing t e with
  | nil => exact ⟨tidy, spares_refl t⟩
  | cons part rest ih =>
    unfold Tree.makeParts
    cases hpart : t.walkPart e part with
    | ok next =>
      refine ih tidy fun hnext => ?_
      have he := node_of_walkPart hpart
      exact (walkPart_directory (u := t) tidy he (there he) hpart hnext).1
    | error f =>
      cases f with
      | notFound =>
        obtain ⟨he, absent⟩ := get?_of_notFound hpart
        obtain ⟨tidyThen, spares⟩ := tidy_add tidy (p := ⟨e.id, part⟩)
          (by simp [NoDirectory, absent]) (there he) .directory
        obtain ⟨tidyLast, sparesLast⟩ := ih tidyThen (e := ⟨t.fresh, .directory⟩)
          fun _ => .inr ⟨⟨e.id, part⟩, List.mem_cons_self ..⟩
        exact ⟨tidyLast, spares_trans spares sparesLast⟩
      | isDirectory | notDirectory | nameTooLong | nulInName | notText =>
        exact ⟨tidy, spares_refl t⟩

lemma tidy_makeDirectories (tidy : Tidy t) (path : Path) :
    Tidy (t.makeDirectories path).1 ∧ Spares t (t.makeDirectories path).1 := by
  unfold Tree.makeDirectories
  split
  · exact tidy_makeParts path.parts tidy fun _ => start_isDirectory tidy path
  · exact ⟨tidy, spares_refl t⟩

lemma tidy_writeAt {path : Path} {content : Text.Bytes} {replaced : Bool} (tidy : Tidy t) :
    Tidy (Edit.writeAt t path content replaced).tree ∧
      Spares t (Edit.writeAt t path content replaced).tree := by
  obtain ⟨tidyThen, spares⟩ := tidy_makeDirectories tidy path.directory
  rcases writeAt_cases t path content replaced with ⟨p, placed, tree, -⟩ | ⟨tree, -⟩
  · obtain ⟨-, -, home⟩ := home_of_placeOf? tidyThen placed
    obtain ⟨tidyLast, sparesLast⟩ := tidy_write tidyThen home
    rw [tree]
    exact ⟨tidyLast, spares_trans spares sparesLast⟩
  · rw [tree]
    exact ⟨tidyThen, spares⟩

/-- A change that spares the directories leaves the files in order. -/
theorem tidy_apply {e : Edit} (tidy : Tidy t) (spares : SparesDirectories t e) :
    Tidy (e.apply t) ∧ Spares t (e.apply t) := by
  unfold Edit.apply
  cases e with
  | write path content => exact tidy_writeAt tidy
  | replace path content => exact tidy_writeAt tidy
  | rename path target =>
    simp only [Edit.change]
    split
    · rename_i p q hp hq
      split
      · exact tidy_move tidy (spares p hp) (home_of_placeOf? tidy hq).2.2
      · exact ⟨tidy, spares_refl t⟩
    · exact ⟨tidy, spares_refl t⟩
  | remove path =>
    simp only [Edit.change]
    split
    · rename_i p hp
      split
      · exact tidy_remove tidy (spares p hp)
      · exact ⟨tidy, spares_refl t⟩
    · exact ⟨tidy, spares_refl t⟩
  | read => exact ⟨tidy, spares_refl t⟩
  | makeDirectory path => exact tidy_makeDirectories tidy _

end Signpost.Proofs

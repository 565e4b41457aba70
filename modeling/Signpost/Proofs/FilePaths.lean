import Mathlib.Data.List.DropRight
import Signpost.Proofs.TidyFiles

/-!
# The directory and the name of a path

A path leads to its name in its directory, whatever parts that stay where they are it has. What is
read at it is thus the same as long as its directory is the same and what has the name there.
-/

namespace Signpost.Proofs
open Files

variable {t u : Tree} {path : Path} {e : Entry} {id : Identity}

lemma parts_cons {b : UInt8} (other : b ≠ slash) {part : Name} {more : List Name} {rest : Path}
    (h : Path.parts rest = part :: more) : Path.parts (b :: rest) = (b :: part) :: more := by
  rw [Path.parts, if_neg other, h]

lemma parts_slash (rest : Path) : Path.parts (slash :: rest) = [] :: Path.parts rest := by
  rw [Path.parts, if_pos rfl]

lemma parts_ne_nil (path : Path) : Path.parts path ≠ [] := by
  cases path with
  | nil => simp [Path.parts]
  | cons b rest =>
    unfold Path.parts
    split
    · simp
    · split <;> simp

lemma slash_notMem_parts (path : Path) : ∀ part ∈ Path.parts path, slash ∉ part := by
  induction path with
  | nil => simp [Path.parts]
  | cons b rest ih =>
    by_cases hb : b = slash
    · rw [hb, parts_slash]
      exact List.forall_mem_cons.mpr ⟨List.not_mem_nil, ih⟩
    · obtain ⟨part, more, hparts⟩ := List.exists_cons_of_ne_nil (parts_ne_nil rest)
      rw [hparts] at ih
      rw [parts_cons hb hparts]
      obtain ⟨first, others⟩ := List.forall_mem_cons.mp ih
      refine List.forall_mem_cons.mpr ⟨?_, others⟩
      simpa [Ne.symm hb] using first

lemma parts_append {part : Name} (plain : slash ∉ part) (rest : Path) :
    Path.parts (part ++ slash :: rest) = part :: Path.parts rest := by
  induction part with
  | nil => exact parts_slash rest
  | cons b part ih =>
    obtain ⟨other, plain⟩ := List.ne_and_not_mem_of_not_mem_cons plain
    exact parts_cons (Ne.symm other) (ih plain)

lemma parts_name {part : Name} (plain : slash ∉ part) : Path.parts part = [part] := by
  induction part with
  | nil => rfl
  | cons b part ih =>
    obtain ⟨other, plain⟩ := List.ne_and_not_mem_of_not_mem_cons plain
    exact parts_cons (Ne.symm other) (ih plain)

lemma parts_ofParts {parts : List Name} (nonempty : parts ≠ [])
    (plain : ∀ part ∈ parts, slash ∉ part) : Path.parts (Path.ofParts parts) = parts := by
  induction parts with
  | nil => exact absurd rfl nonempty
  | cons part more ih =>
    obtain ⟨first, others⟩ := List.forall_mem_cons.mp plain
    cases more with
    | nil => simpa [Path.ofParts] using parts_name first
    | cons next more =>
      have made : Path.ofParts (part :: next :: more) =
          part ++ slash :: Path.ofParts (next :: more) := by
        simp [Path.ofParts, List.intercalate_cons_cons]
      rw [made, parts_append first, ih (List.cons_ne_nil _ _) others]

lemma exists_ofParts_eq_cons (b : UInt8) (part : Name) (names : List Name) :
    ∃ rest, Path.ofParts ((b :: part) :: names) = b :: rest := by
  cases names with
  | nil => exact ⟨part, by simp [Path.ofParts]⟩
  | cons next names =>
    exact ⟨part ++ slash :: Path.ofParts (next :: names), by
      simp [Path.ofParts, List.intercalate_cons_cons]⟩

/-- Only an absolute path with several parts has an empty one in front. -/
lemma exists_first_byte {name : Name} {others : List Name}
    (relative : Path.isAbsolute path = false) (h : Path.parts path = name :: others)
    (several : others ≠ []) : ∃ b part, name = b :: part ∧ b ≠ slash := by
  cases path with
  | nil =>
    obtain ⟨-, rfl⟩ := List.cons.inj h
    exact absurd rfl several
  | cons b rest =>
    have hb : b ≠ slash := by simpa [Path.isAbsolute] using relative
    obtain ⟨part, more, hparts⟩ := List.exists_cons_of_ne_nil (parts_ne_nil rest)
    rw [parts_cons hb hparts] at h
    exact ⟨b, part, (List.cons.inj h).1.symm, hb⟩

/-- What is left out at the end stays where it is. -/
lemma trimEnd_append (parts : List Name) : ∃ still, parts = Path.trimEnd parts ++ still ∧
    ∀ part ∈ still, Path.isStill part = true := by
  refine ⟨(parts.reverse.takeWhile Path.isStill).reverse, ?_, fun part mem => ?_⟩
  · rw [Path.trimEnd, ← List.reverse_append, List.takeWhile_append_dropWhile, List.reverse_reverse]
  · exact List.mem_takeWhile_imp (List.mem_reverse.mp mem)

lemma last_trimEnd {parts init : List Name} {last : Name}
    (h : Path.trimEnd parts = init ++ [last]) : Path.isStill last = false := by
  have front := congrArg List.reverse h
  rw [Path.trimEnd, List.reverse_reverse, List.reverse_append, List.reverse_singleton,
    List.singleton_append] at front
  have head := List.head?_dropWhile_not Path.isStill parts.reverse
  rw [front] at head
  simpa using head

section Walk

lemma walkParts_append (first second : List Name) (e : Entry) :
    (first ++ second).foldlM t.walkPart e =
      first.foldlM t.walkPart e >>= second.foldlM t.walkPart :=
  List.foldlM_append

/-- Parts that stay where they are lead a directory nowhere else. -/
lemma walkParts_still {parts : List Name} (he : e.node = .directory)
    (still : ∀ part ∈ parts, Path.isStill part = true) :
    parts.foldlM t.walkPart e = .ok e := by
  induction parts with
  | nil => rfl
  | cons part rest ih =>
    obtain ⟨first, others⟩ := List.forall_mem_cons.mp still
    rw [List.foldlM_cons, walkPart_eq he, if_pos first]
    exact ih others

/-- Parts that stay where they are lead the same way with any files. -/
lemma walkParts_still_congr {parts : List Name}
    (still : ∀ part ∈ parts, Path.isStill part = true) (e : Entry) :
    parts.foldlM u.walkPart e = parts.foldlM t.walkPart e := by
  by_cases he : e.node = .directory
  · rw [walkParts_still he still, walkParts_still he still]
  · cases parts with
    | nil => rfl
    | cons part rest =>
      rw [List.foldlM_cons, List.foldlM_cons, walkPart_of_other he, walkPart_of_other he]
      rfl

lemma walkParts_cons_still {part : Name} (rest : List Name) (he : e.node = .directory)
    (still : Path.isStill part = true) :
    (part :: rest).foldlM t.walkPart e = rest.foldlM t.walkPart e := by
  rw [List.foldlM_cons, walkPart_eq he, if_pos still]
  rfl

lemma walkParts_ofParts {parts : List Name} (he : e.node = .directory)
    (plain : ∀ part ∈ parts, slash ∉ part) :
    (Path.parts (Path.ofParts parts)).foldlM t.walkPart e = parts.foldlM t.walkPart e := by
  cases parts with
  | nil => exact walkParts_cons_still [] he rfl
  | cons part more => rw [parts_ofParts (List.cons_ne_nil part more) plain]

end Walk

/-- A path begins at the root, with a dot, or with its first name. -/
lemma head_cases (path : Path) :
    (Path.head path = [slash] ∧ ∃ rest, path = slash :: rest) ∨
    (Path.head path = [dot] ∧ ∃ rest more, path = dot :: rest ∧ Path.parts rest = [] :: more ∧
      Path.parts path = [dot] :: more) ∨
    (Path.head path = [] ∧ Path.isAbsolute path = false) := by
  unfold Path.head
  cases path with
  | nil => exact .inr (.inr ⟨rfl, rfl⟩)
  | cons b rest =>
    by_cases hb : b = slash
    · subst hb
      exact .inl ⟨rfl, rest, rfl⟩
    · have relative : Path.isAbsolute (b :: rest) = false := by simpa [Path.isAbsolute] using hb
      obtain ⟨part, more, hparts⟩ := List.exists_cons_of_ne_nil (parts_ne_nil rest)
      have whole := parts_cons hb hparts
      rw [relative, whole]
      by_cases dotted : b :: part = [dot]
      · obtain ⟨rfl, rfl⟩ := List.cons.inj dotted
        exact .inr (.inl ⟨rfl, rest, more, rfl, hparts, rfl⟩)
      · exact .inr (.inr ⟨by simp [dotted], rfl⟩)

/-- What comes before the names leads nowhere. -/
lemma walkParts_head (he : e.node = .directory) (path : Path) :
    (Path.parts path).foldlM t.walkPart e =
      (Path.parts (path.drop (Path.head path).length)).foldlM t.walkPart e := by
  rcases head_cases path with ⟨head, rest, rfl⟩ | ⟨head, rest, more, rfl, hrest, hpath⟩ | ⟨head, -⟩
  · rw [head, parts_slash, walkParts_cons_still _ he rfl]
    rfl
  · rw [head, hpath, walkParts_cons_still more he rfl]
    change _ = (Path.parts rest).foldlM t.walkPart e
    rw [hrest, walkParts_cons_still more he rfl]
  · rw [head]
    rfl

lemma body_append (path : Path) :
    ∃ still, Path.parts (path.drop (Path.head path).length) = Path.body path ++ still ∧
      ∀ part ∈ still, Path.isStill part = true :=
  trimEnd_append _

section Directory

variable {init : List Name} {last : Name}

lemma parent?_of_body (body : Path.body path = init ++ [last]) :
    Path.parent? path = some (Path.head path ++ Path.ofParts (Path.trimEnd init)) := by
  rw [Path.parent?, body, if_neg (by simp), List.dropLast_concat]

lemma directory_of_parent {directory : Path} (h : Path.parent? path = some directory)
    (nonempty : directory ≠ []) : path.directory = directory := by
  unfold Path.directory
  rw [h]
  split
  · rename_i none
    cases none
  · rename_i empty
    exact absurd (Option.some.inj empty) nonempty
  · rename_i same
    exact (Option.some.inj same).symm

/-- The names on the way to the directory of a path begin as the path does after its head. -/
lemma exists_parts_of_body (body : Path.body path = init ++ [last]) :
    ∃ more, more ≠ [] ∧
      Path.parts (path.drop (Path.head path).length) = Path.trimEnd init ++ more := by
  obtain ⟨still, whole, -⟩ := body_append path
  obtain ⟨rest, hinit, -⟩ := trimEnd_append init
  refine ⟨rest ++ last :: still, by simp, ?_⟩
  rw [whole, body]
  nth_rewrite 1 [hinit]
  simp

lemma slash_notMem_names (body : Path.body path = init ++ [last]) :
    ∀ part ∈ Path.trimEnd init, slash ∉ part := by
  obtain ⟨more, -, whole⟩ := exists_parts_of_body body
  intro part mem
  exact slash_notMem_parts _ part (whole ▸ List.mem_append_left more mem)

/-- The directory of a path begins where the path does and leads where its names before the last
lead. -/
lemma walkParts_directory_eq (body : Path.body path = init ++ [last]) :
    t.start path.directory = t.start path ∧
      (Path.parts path.directory).foldlM t.walkPart (t.start path) =
        (Path.trimEnd init).foldlM t.walkPart (t.start path) := by
  obtain ⟨more, nonempty, whole⟩ := exists_parts_of_body body
  have plain := slash_notMem_names body
  have parent := parent?_of_body body
  generalize Path.trimEnd init = names at *
  have walk : (Path.parts (Path.ofParts names)).foldlM t.walkPart (t.start path) =
      names.foldlM t.walkPart (t.start path) := walkParts_ofParts rfl plain
  rcases head_cases path with ⟨head, rest, rfl⟩ | ⟨head, rest, tail, rfl, hrest, -⟩ |
    ⟨head, relative⟩
  · rw [head] at parent
    rw [directory_of_parent parent (by simp)]
    refine ⟨rfl, ?_⟩
    rw [← walk, List.singleton_append, parts_slash]
    exact walkParts_cons_still _ rfl rfl
  · rw [head] at parent whole
    rw [directory_of_parent parent (by simp)]
    refine ⟨rfl, ?_⟩
    -- the names begin with the empty one between the dot and its slash
    have front : ∃ others, Path.parts (Path.ofParts names) = [] :: others := by
      cases names with
      | nil => exact ⟨[], rfl⟩
      | cons name names =>
        change Path.parts rest = _ at whole
        obtain ⟨rfl, -⟩ := List.cons.inj (hrest.symm.trans whole)
        exact ⟨names, parts_ofParts (List.cons_ne_nil _ names) plain⟩
    obtain ⟨others, hothers⟩ := front
    rw [← walk, hothers, List.singleton_append, parts_cons (by decide) hothers,
      walkParts_cons_still others rfl rfl, walkParts_cons_still others rfl rfl]
  · rw [head] at parent whole
    change Path.parts path = _ at whole
    cases names with
    | nil =>
      have here : path.directory = [dot] := by
        unfold Path.directory
        rw [parent]
        rfl
      rw [here]
      exact ⟨by rw [Tree.start, Tree.start, relative]; rfl, rfl⟩
    | cons name names =>
      obtain ⟨b, part, rfl, hb⟩ := exists_first_byte relative whole (by simp [nonempty])
      obtain ⟨rest, made⟩ := exists_ofParts_eq_cons b part names
      rw [List.nil_append, made] at parent
      rw [directory_of_parent parent (List.cons_ne_nil b rest)]
      have relativeThen : Path.isAbsolute (b :: rest) = false := by
        simpa [Path.isAbsolute] using hb
      refine ⟨by rw [Tree.start, Tree.start, relative, relativeThen], ?_⟩
      rw [← walk, made]

/-- If the directory of a path is there, the path leads to the name in it. -/
lemma walkParts_body (body : Path.body path = init ++ [last])
    (there : t.walk path.directory = .ok ⟨id, .directory⟩) :
    init.foldlM t.walkPart (t.start path) = .ok ⟨id, .directory⟩ := by
  obtain ⟨still, hinit, remains⟩ := trimEnd_append init
  obtain ⟨start, parts⟩ := walkParts_directory_eq (t := t) body
  have walk : (Path.parts path.directory).foldlM t.walkPart (t.start path.directory) =
      .ok ⟨id, .directory⟩ := by
    unfold Tree.walk at there
    cases hcheck : path.directory.check with
    | error f =>
      rw [hcheck] at there
      cases there
    | ok =>
      rw [hcheck] at there
      exact there
  rw [start, parts] at walk
  rw [hinit, walkParts_append, walk]
  exact walkParts_still rfl remains

lemma walkParts_eq {still : List Name} (body : Path.body path = init ++ [last])
    (whole : Path.parts (path.drop (Path.head path).length) = Path.body path ++ still)
    (there : t.walk path.directory = .ok ⟨id, .directory⟩) :
    (Path.parts path).foldlM t.walkPart (t.start path) =
      t.walkPart ⟨id, .directory⟩ last >>= still.foldlM t.walkPart := by
  rw [walkParts_head rfl, whole, body, List.append_assoc, List.singleton_append, walkParts_append,
    walkParts_body body there]
  change (last :: still).foldlM t.walkPart ⟨id, .directory⟩ = _
  rw [List.foldlM_cons]

end Directory

lemma readText_eq (checked : path.check = .ok ()) :
    t.readText path = (Path.parts path).foldlM t.walkPart (t.start path) >>=
      fun e => Tree.Node.text e.node := by
  rw [Tree.readText, Tree.walk, checked]
  rfl

/-- A path that names nothing leads to a directory, if anywhere. -/
lemma readText_of_unnamed (there : t.walk path.directory = .ok ⟨id, .directory⟩)
    (checked : path.check = .ok ()) (unnamed : path.fileName? = none) :
    t.readText path = .error .isDirectory := by
  obtain ⟨still, whole, remains⟩ := body_append path
  rw [readText_eq checked]
  rcases List.eq_nil_or_concat (Path.body path) with body | ⟨init, last, body⟩
  · rw [walkParts_head rfl, whole, body, List.nil_append, walkParts_still rfl remains]
    rfl
  · rw [List.concat_eq_append] at body
    have up : last = [dot, dot] := by simpa [Path.fileName?, body] using unnamed
    rw [walkParts_eq body whole there, walkPart_eq rfl, if_neg (by simp [last_trimEnd body]),
      if_pos up]
    change still.foldlM t.walkPart ⟨t.above id, .directory⟩ >>= _ = _
    rw [walkParts_still rfl remains]
    rfl

/-- What is read at a path is what has its name in its directory. -/
theorem readText_congr (there : t.walk path.directory = .ok ⟨id, .directory⟩)
    (thereThen : u.walk path.directory = .ok ⟨id, .directory⟩)
    (same : ∀ name, path.fileName? = some name → u.get? ⟨id, name⟩ = t.get? ⟨id, name⟩) :
    u.readText path = t.readText path := by
  cases checked : path.check with
  | error f =>
    rw [Tree.readText, Tree.walk, Tree.readText, Tree.walk, checked]
    rfl
  | ok =>
    cases named : path.fileName? with
    | none =>
      rw [readText_of_unnamed there checked named, readText_of_unnamed thereThen checked named]
    | some name =>
      obtain ⟨still, whole, remains⟩ := body_append path
      obtain ⟨hlast, goes⟩ := Option.filter_eq_some_iff.mp named
      obtain ⟨init, body⟩ := List.getLast?_eq_some_iff.mp hlast
      have next : u.walkPart ⟨id, .directory⟩ name = t.walkPart ⟨id, .directory⟩ name := by
        rw [walkPart_eq rfl, walkPart_eq rfl, same name named, if_neg (bne_iff_ne.mp goes),
          if_neg (bne_iff_ne.mp goes)]
      have rest : still.foldlM u.walkPart = still.foldlM t.walkPart :=
        funext (walkParts_still_congr remains)
      rw [readText_eq checked, readText_eq checked, walkParts_eq body whole there,
        walkParts_eq body whole thereThen, next, rest]

end Signpost.Proofs

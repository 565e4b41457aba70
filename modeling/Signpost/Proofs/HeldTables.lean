import Mathlib.Data.List.Nodup
import Signpost.Proofs.Sequences
import Signpost.Toml.Document

/-!
# Tables put in their places

A TOML text consists of blocks: the pairs before the first header and the pairs under each header.
What one block after the other is put into has under each key of the root what a pair gives it, or
the tables of the `[[headers]]` with this key, in their order and whatever tables stand in between.
-/

namespace Signpost.Proofs
open Toml

abbrev Pairs := List (List String × Value)

/-- A header with the pairs under it. -/
structure Block where
  path : List String := []
  /-- Whether it is a `[[header]]`. -/
  listed : Bool := false
  pairs : Pairs := []

/-- What stands under the headers of one kind and path, in the order of the text. -/
def headed (listed : Bool) (path : List String) (blocks : List Block) : List Pairs :=
  (blocks.filter fun b => b.listed == listed && b.path == path).map Block.pairs

/-- A value to which no header and no dotted key can add anything. -/
def IsWhole : Value → Prop
  | .table kind _ => kind = .inline
  | .tables _ => False
  | _ => True

/-- A table has under each key what a pair gives it. What is not whole comes from elsewhere. -/
def Gathers (pairs : Pairs) (entries : Entries) : Prop :=
  ∀ key v, ([key], v) ∈ pairs ↔ IsWhole v ∧ entries.lookup key = some v

/-- The tables of the `[[headers]]` among the entries. -/
def tablesOf : Option Value → List Value
  | some (.tables items) => items
  | _ => []

/-- A table that has under each key what a pair gives it. -/
def Stands (pairs : Pairs) (v : Value) : Prop :=
  ∃ kind entries, v = .table kind entries ∧ Gathers pairs entries

/-- What a text of some blocks holds. -/
structure Holding (blocks : List Block) (root : Entries) : Prop where
  own : Gathers (headed false [] blocks).flatten root
  tables : ∀ key, List.Forall₂ Stands (headed true [key] blocks) (tablesOf (root.lookup key))
  keys : (root.map Prod.fst).Nodup

section Entries

variable {entries : Entries} {key other : String} {v : Value}

lemma lookup_added (fresh : entries.lookup key = none) :
    (entries ++ [(key, v)]).lookup other =
      if other = key then some v else entries.lookup other := by
  rw [List.lookup_append, List.lookup_cons, List.lookup_nil]
  by_cases same : other = key
  · simp [same, fresh]
  · simp [same, beq_eq_false_iff_ne.mpr same]

lemma lookup_replace : (Entries.replace entries key v).lookup other =
    if other = key then (entries.lookup key).map fun _ => v else entries.lookup other := by
  induction entries with
  | nil => simp [Entries.replace]
  | cons e entries ih =>
    obtain ⟨first, w⟩ := e
    have cons : Entries.replace ((first, w) :: entries) key v =
        (if first = key then (key, v) else (first, w)) :: Entries.replace entries key v := rfl
    rw [cons]
    by_cases replaced : first = key
    · subst replaced
      rw [if_pos rfl, List.lookup_cons, ih]
      by_cases same : other = first
      · simp [same]
      · simp [same, List.lookup_cons, beq_eq_false_iff_ne.mpr same]
    · rw [if_neg replaced, List.lookup_cons, ih]
      by_cases same : other = first
      · subst same
        simp [replaced]
      · by_cases asked : other = key
        · subst asked
          simp [List.lookup_cons, beq_eq_false_iff_ne.mpr same]
        · simp [asked, List.lookup_cons, beq_eq_false_iff_ne.mpr same]

lemma lookup_erase : (Entries.erase entries key).lookup other =
    if other = key then none else entries.lookup other := by
  induction entries with
  | nil => simp [Entries.erase]
  | cons e entries ih =>
    obtain ⟨first, w⟩ := e
    rw [Entries.erase] at ih ⊢
    by_cases erased : first = key
    · subst erased
      rw [List.filter_cons_of_neg (by simp), ih]
      by_cases same : other = first
      · simp [same]
      · simp [same, List.lookup_cons, beq_eq_false_iff_ne.mpr same]
    · rw [List.filter_cons_of_pos (by simpa using erased), List.lookup_cons, ih]
      by_cases same : other = first
      · subst same
        simp [erased]
      · simp [List.lookup_cons, beq_eq_false_iff_ne.mpr same]

lemma keys_replace : (Entries.replace entries key v).map Prod.fst = entries.map Prod.fst := by
  rw [Entries.replace, List.map_map]
  refine List.map_congr_left fun e _ => ?_
  simp only [Function.comp_apply]
  split
  · rename_i same
    exact same.symm
  · rfl

end Entries

/-! ### Changes along a path -/

/-- What a header or a dotted key may do to entries: what is whole stays, and the tables of each
`[[header]]` are related to those before. -/
structure KeepsWhole (rel : List Value → List Value → Prop) (entries later : Entries) : Prop where
  whole : ∀ key v, IsWhole v → (later.lookup key = some v ↔ entries.lookup key = some v)
  tables : ∀ key, rel (tablesOf (entries.lookup key)) (tablesOf (later.lookup key))
  keys : (entries.map Prod.fst).Nodup → (later.map Prod.fst).Nodup

/-- What is not there, or not whole. -/
def IsPart (v : Option Value) : Prop :=
  ∀ w, v = some w → ¬IsWhole w

/-- A table in the place of another one has all that this one has from pairs. -/
def Alike (v w : Value) : Prop :=
  ∀ pairs, Stands pairs v → Stands pairs w

section Changes

variable {rel : List Value → List Value → Prop} {entries later : Entries} {key : String}
  {v w : Value}

lemma isPart_none : IsPart none :=
  nofun

lemma isPart_some (part : ¬IsWhole v) : IsPart (some v) := by
  rintro w ⟨rfl⟩
  exact part

lemma keeps_refl (refl : ∀ items, rel items items) : KeepsWhole rel entries entries :=
  ⟨fun _ _ _ => Iff.rfl, fun _ => refl _, id⟩

lemma keeps_of_change {held put : Option Value} (refl : ∀ items, rel items items)
    (found : entries.lookup key = held)
    (changed : ∀ other, later.lookup other = if other = key then put else entries.lookup other)
    (before : IsPart held) (after : IsPart put) (tables : rel (tablesOf held) (tablesOf put))
    (keys : (entries.map Prod.fst).Nodup → (later.map Prod.fst).Nodup) :
    KeepsWhole rel entries later where
  whole other v isWhole := by
    rw [changed]
    split
    · rename_i same
      rw [same, found]
      exact ⟨fun new => absurd isWhole (after v new), fun old => absurd isWhole (before v old)⟩
    · rfl
  tables other := by
    rw [changed]
    split
    · rename_i same
      rwa [same, found]
    · exact refl _
  keys := keys

lemma keys_added (fresh : entries.lookup key = none) (keys : (entries.map Prod.fst).Nodup) :
    ((entries ++ [(key, v)]).map Prod.fst).Nodup := by
  rw [List.map_append]
  refine keys.append (List.nodup_singleton _) (List.disjoint_singleton.mpr fun mem => ?_)
  obtain ⟨e, held, same⟩ := List.mem_map.mp mem
  exact bne_iff_ne.mp (List.lookup_eq_none_iff.mp fresh e held) same.symm

lemma keeps_added (refl : ∀ items, rel items items) (fresh : entries.lookup key = none)
    (part : ¬IsWhole v) (tables : rel [] (tablesOf (some v))) :
    KeepsWhole rel entries (entries ++ [(key, v)]) :=
  keeps_of_change refl fresh (fun _ => lookup_added fresh) isPart_none (isPart_some part) tables
    (keys_added fresh)

lemma keeps_replaced (refl : ∀ items, rel items items) (held : entries.lookup key = some v)
    (before : ¬IsWhole v) (after : ¬IsWhole w)
    (tables : rel (tablesOf (some v)) (tablesOf (some w))) :
    KeepsWhole rel entries (Entries.replace entries key w) := by
  have changed (other : String) : (Entries.replace entries key w).lookup other =
      if other = key then some w else entries.lookup other := by
    rw [lookup_replace, held, Option.map_some]
  exact keeps_of_change refl held changed (isPart_some before) (isPart_some after) tables
    (keys_replace ▸ id)

lemma keeps_erased (refl : ∀ items, rel items items) (held : entries.lookup key = some v)
    (part : ¬IsWhole v) (tables : rel (tablesOf (some v)) []) :
    KeepsWhole rel entries (Entries.erase entries key) := by
  refine keeps_of_change refl held (fun _ => lookup_erase) (isPart_some part) isPart_none tables
    fun keys => ?_
  exact keys.sublist (List.filter_sublist.map _)

lemma gathers_of_keeps {pairs : Pairs} (keeps : KeepsWhole rel entries later)
    (h : Gathers pairs entries) : Gathers pairs later := by
  intro key v
  rw [h key v]
  exact and_congr_right fun isWhole => (keeps.whole key v isWhole).symm

lemma alike_of_keeps {kind : TableKind} (keeps : KeepsWhole rel entries later) :
    Alike (.table kind entries) (.table kind later) := by
  rintro pairs ⟨kind, entries, ⟨rfl, rfl⟩, gathers⟩
  exact ⟨kind, later, rfl, gathers_of_keeps keeps gathers⟩

lemma alike_refl (items : List Value) : List.Forall₂ Alike items items :=
  List.forall₂_same.mpr fun _ _ _ => id

variable {α : Type} {dotted : Bool} {a : α} {kind : TableKind} {path : List String}
  {change : TableKind → Entries → Except Fault (Entries × α)}

/-- A path that leads on changes at most one table under its first key. -/
lemma keeps_updateAt (refl : ∀ items, rel items items)
    (below : ∀ kind inner child a before, updateAt dotted change path kind inner = .ok (child, a) →
      rel (before ++ [.table kind inner]) (before ++ [.table kind child]))
    (h : updateAt dotted change (key :: path) kind entries = .ok (later, a)) :
    KeepsWhole rel entries later := by
  rw [updateAt] at h
  split at h
  · rename_i fresh
    obtain ⟨⟨child, _⟩, -, h⟩ := bind_eq_ok_iff.mp h
    cases h
    refine keeps_added refl fresh ?_ (refl [])
    cases dotted <;> simp [IsWhole]
  · rename_i inner held
    split at h
    · cases h
    · split at h
      · cases h
      · obtain ⟨⟨child, _⟩, -, h⟩ := bind_eq_ok_iff.mp h
        cases h
        rename_i outer _
        exact keeps_replaced refl held outer outer (refl [])
  · rename_i items held
    split at h
    · rename_i kind inner last
      obtain ⟨⟨child, _⟩, changed, h⟩ := bind_eq_ok_iff.mp h
      cases h
      have tables := below kind inner child _ items.dropLast changed
      rw [List.dropLast_append_getLast? _ last] at tables
      exact keeps_replaced refl held id id tables
    · cases h
  · cases h

/-- If what is whole at the end of a path stays, the tables along the path are alike. -/
lemma keeps_alike_of_leads (leads : path ≠ [])
    (keeps : ∀ kind inner child a, change kind inner = .ok (child, a) →
      KeepsWhole (fun _ _ => True) inner child)
    (h : updateAt dotted change path kind entries = .ok (later, a)) :
    KeepsWhole (List.Forall₂ Alike) entries later := by
  cases path with
  | nil => exact absurd rfl leads
  | cons key path =>
    refine keeps_updateAt alike_refl (fun kind inner child a before changed => ?_) h
    have stays : KeepsWhole (fun _ _ => True) inner child := by
      cases path with
      | nil => exact keeps kind inner child a changed
      | cons => exact keeps_updateAt (fun _ => trivial) (fun _ _ _ _ _ _ => trivial) changed
    exact List.rel_append (alike_refl before) (.cons (alike_of_keeps stays) .nil)

/-- If the tables at the end of a path are alike, so are those along the path. -/
lemma keeps_alike (keeps : ∀ kind inner child a, change kind inner = .ok (child, a) →
      KeepsWhole (List.Forall₂ Alike) inner child)
    (h : updateAt dotted change path kind entries = .ok (later, a)) :
    KeepsWhole (List.Forall₂ Alike) entries later := by
  cases path with
  | nil => exact keeps kind entries later a h
  | cons key path =>
    refine keeps_alike_of_leads (List.cons_ne_nil _ _) (fun kind inner child a changed => ?_) h
    obtain ⟨whole, -, keys⟩ := keeps kind inner child a changed
    exact ⟨whole, fun _ => trivial, keys⟩

end Changes

/-! ### Drafts -/

/-- What closing the table of a header does to the entries that its last key stands among. -/
inductive Closes (d : Draft) (key : String) (inner : Entries) : Entries → Prop
  | single (unlisted : d.listed = false) (fresh : inner.lookup key = none) :
      Closes d key inner (inner ++ [(key, .table .header d.current)])
  | first (listed : d.listed = true) (fresh : inner.lookup key = none) :
      Closes d key inner (inner ++ [(key, .tables [.table .header d.current])])
  | further {items : List Value} (listed : d.listed = true)
      (held : inner.lookup key = some (.tables items)) :
      Closes d key inner (Entries.replace inner key (.tables (items ++ [.table .header d.current])))

section Drafts

variable {before blocks : List Block} {b : Block} {d : Draft} {root later : Entries}

lemma closes_of_finish {key : String} {parents : List String} (path : d.path = parents ++ [key])
    (h : d.finish = .ok root) :
    ∃ change : TableKind → Entries → Except Fault (Entries × Unit),
      updateAt false change parents .header d.root = .ok (root, ()) ∧
      ∀ kind inner child a, change kind inner = .ok (child, a) → Closes d key inner child := by
  unfold Draft.finish at h
  rw [path, List.getLast?_append, List.getLast?_singleton, Option.some_or,
    List.dropLast_concat] at h
  obtain ⟨⟨later, _⟩, updated, h⟩ := bind_eq_ok_iff.mp h
  cases h
  refine ⟨_, updated, fun kind inner child a changed => ?_⟩
  dsimp only at changed
  split at changed
  · rename_i fresh
    cases changed
    cases listed : d.listed with
    | false => exact .single listed fresh
    | true => exact .first listed fresh
  · rename_i items held
    split at changed
    · rename_i listed
      cases changed
      exact .further listed held
    · cases changed
  · cases changed

lemma keeps_of_closes {key : String} {inner child : Entries} (closes : Closes d key inner child) :
    KeepsWhole (fun _ _ => True) inner child := by
  have refl : ∀ items : List Value, True := fun _ => trivial
  cases closes with
  | single _ fresh => exact keeps_added refl fresh (by simp [IsWhole]) trivial
  | first _ fresh => exact keeps_added refl fresh id trivial
  | further _ held => exact keeps_replaced refl held id id trivial

lemma keeps_openTable {path : List String} {next : Draft} (h : d.openTable path = .ok next) :
    ∃ root, d.finish = .ok root ∧ path ≠ [] ∧ next.path = path ∧ next.listed = false ∧
      KeepsWhole (List.Forall₂ Alike) root next.root := by
  unfold Draft.openTable at h
  obtain ⟨root, finished, h⟩ := bind_eq_ok_iff.mp h
  split at h
  · cases h
  · rename_i key last
    obtain ⟨⟨later, current⟩, updated, h⟩ := bind_eq_ok_iff.mp h
    cases h
    refine ⟨root, finished, ?_, rfl, rfl,
      keeps_alike (fun kind inner child a changed => ?_) updated⟩
    · rintro rfl
      cases last
    · split at changed
      · cases changed
        exact keeps_refl alike_refl
      · rename_i held
        cases changed
        exact keeps_erased alike_refl held (by simp [IsWhole]) .nil
      · cases changed

lemma keeps_openListed {path : List String} {next : Draft} (h : d.openListed path = .ok next) :
    ∃ root, d.finish = .ok root ∧ path ≠ [] ∧ next.path = path ∧ next.listed = true ∧
      next.current = [] ∧ KeepsWhole (List.Forall₂ Alike) root next.root := by
  unfold Draft.openListed at h
  obtain ⟨root, finished, h⟩ := bind_eq_ok_iff.mp h
  split at h
  · cases h
  · rename_i key last
    obtain ⟨⟨later, _⟩, updated, h⟩ := bind_eq_ok_iff.mp h
    cases h
    refine ⟨root, finished, ?_, rfl, rfl, rfl,
      keeps_alike (fun kind inner child a changed => ?_) updated⟩
    · rintro rfl
      cases last
    · split at changed
      · rename_i fresh
        cases changed
        exact keeps_added alike_refl fresh id .nil
      · cases changed
        exact keeps_refl alike_refl
      · cases changed

/-- A draft of which the last block is still being read. -/
inductive Fits : List Block → Block → Draft → Prop
  | root {pairs : Pairs} {root current : Entries} (holding : Holding [{ pairs }] current) :
      Fits [] { pairs } ⟨root, current, [], false⟩
  | header {before : List Block} {b : Block} {root current : Entries}
      (holding : Holding before root) (leads : b.path ≠ [])
      (own : b.listed = true → Gathers b.pairs current) :
      Fits before b ⟨root, current, b.path, b.listed⟩

lemma headed_append (listed : Bool) (path : List String) :
    headed listed path (before ++ [b]) = headed listed path before ++
      if b.listed = listed ∧ b.path = path then [b.pairs] else [] := by
  rw [headed, List.filter_append, List.map_append]
  by_cases own : b.listed = listed ∧ b.path = path
  · simp [headed, own]
  · have other : (b.listed == listed && b.path == path) = false := by
      rw [Bool.eq_false_iff]
      simpa using own
    simp [headed, own, other]

lemma holding_of_keeps (keeps : KeepsWhole (List.Forall₂ Alike) root later)
    (h : Holding before root) : Holding before later where
  own := gathers_of_keeps keeps h.own
  tables key := forall₂_comp (fun _ _ _ stands alike => alike _ stands) (h.tables key)
    (keeps.tables key)
  keys := keeps.keys h.keys

/-- A block that is no pair and no table of the root. -/
lemma holding_other (leads : b.path ≠ []) (deeper : b.listed = true → ∀ key, b.path ≠ [key])
    (h : Holding before root) : Holding (before ++ [b]) root where
  own := by
    rw [headed_append, if_neg (fun own => leads own.2), List.append_nil]
    exact h.own
  tables key := by
    rw [headed_append, if_neg (fun own => deeper own.1 key own.2), List.append_nil]
    exact h.tables key
  keys := h.keys

/-- One more table of a `[[header]]`. -/
lemma holding_pushed {key : String} {pairs : Pairs} {current : Entries}
    (h : Holding before root) (own : Gathers pairs current) (part : IsPart (root.lookup key))
    (changed : ∀ other, later.lookup other =
      if other = key then some (.tables (tablesOf (root.lookup key) ++ [.table .header current]))
      else root.lookup other)
    (keys : (later.map Prod.fst).Nodup) :
    Holding (before ++ [⟨[key], true, pairs⟩]) later where
  own := by
    have keeps : KeepsWhole (fun _ _ => True) root later :=
      keeps_of_change (fun _ => trivial) rfl changed part (isPart_some id) trivial fun _ => keys
    rw [headed_append, if_neg (fun own => Bool.noConfusion own.1), List.append_nil]
    exact gathers_of_keeps keeps h.own
  tables other := by
    rw [headed_append, changed]
    by_cases same : other = key
    · subst same
      rw [if_pos ⟨rfl, rfl⟩, if_pos rfl]
      exact List.rel_append (h.tables other) (.cons ⟨_, current, rfl, own⟩ .nil)
    · rw [if_neg (fun own => same (List.cons.inj own.2).1.symm), if_neg same, List.append_nil]
      exact h.tables other
  keys := keys

/-- The table of a header that is a key of the root. -/
lemma holding_of_closes {key : String} {pairs : Pairs} (holding : Holding before root)
    (own : d.listed = true → Gathers pairs d.current) (closes : Closes d key root later) :
    Holding (before ++ [⟨[key], d.listed, pairs⟩]) later := by
  cases closes with
  | single unlisted fresh =>
    have keeps := keeps_added (v := .table .header d.current) alike_refl fresh (by simp [IsWhole])
      .nil
    refine holding_other (List.cons_ne_nil _ _) (fun listed => ?_) (holding_of_keeps keeps holding)
    cases unlisted.symm.trans listed
  | first listed fresh =>
    rw [listed]
    refine holding_pushed holding (own listed) (fresh ▸ isPart_none) (fun other => ?_)
      (keys_added fresh holding.keys)
    rw [lookup_added fresh, fresh]
    rfl
  | further listed held =>
    rw [listed]
    refine holding_pushed holding (own listed) (held ▸ isPart_some id) (fun other => ?_) ?_
    · rw [lookup_replace, held]
      rfl
    · rw [keys_replace]
      exact holding.keys

/-- What is read so far, once the table that is still being read is put in its place. -/
theorem holding_finish (fits : Fits before b d) (h : d.finish = .ok root) :
    Holding (before ++ [b]) root := by
  cases fits with
  | root holding =>
    cases h
    exact holding
  | header holding leads own =>
    obtain nil | ⟨parents, key, path⟩ := List.eq_nil_or_concat' b.path
    · exact absurd nil leads
    · obtain ⟨change, updated, closes⟩ := closes_of_finish path h
      cases parents with
      | nil =>
        obtain ⟨ownPath, listed, pairs⟩ := b
        obtain rfl : ownPath = [key] := path
        exact holding_of_closes holding own (closes _ _ _ _ updated)
      | cons first parents =>
        have keeps := keeps_alike_of_leads (List.cons_ne_nil _ _)
          (fun _ _ _ _ changed => keeps_of_closes (closes _ _ _ _ changed)) updated
        refine holding_other leads (fun _ other single => ?_) (holding_of_keeps keeps holding)
        simp [path] at single

theorem fits_openTable {path : List String} {next : Draft} (fits : Fits before b d)
    (h : d.openTable path = .ok next) : Fits (before ++ [b]) { path } next := by
  obtain ⟨root, finished, leads, rfl, unlisted, keeps⟩ := keeps_openTable h
  obtain ⟨root, current, path, listed⟩ := next
  obtain rfl : listed = false := unlisted
  exact .header (holding_of_keeps keeps (holding_finish fits finished)) leads nofun

theorem fits_openListed {path : List String} {next : Draft} (fits : Fits before b d)
    (h : d.openListed path = .ok next) : Fits (before ++ [b]) { path, listed := true } next := by
  obtain ⟨root, finished, leads, rfl, isListed, empty, keeps⟩ := keeps_openListed h
  obtain ⟨root, current, path, listed⟩ := next
  obtain rfl : listed = true := isListed
  obtain rfl : current = [] := empty
  refine .header (holding_of_keeps keeps (holding_finish fits finished)) leads fun _ key v => ?_
  simp

/-- A pair is put among the entries, or changes what stands under the first part of its key. -/
lemma addValue_cases {entries : Entries} {path : List String} {v : Value}
    (h : addValue entries path v = .ok later) :
    (∃ key, path = [key] ∧ entries.lookup key = none ∧ later = entries ++ [(key, v)]) ∨
      (∀ key, path ≠ [key]) ∧ KeepsWhole (fun old new => old = [] → new = []) entries later := by
  unfold addValue at h
  obtain rfl | ⟨parents, key, rfl⟩ := List.eq_nil_or_concat' path
  · cases h
  · rw [List.getLast?_append, List.getLast?_singleton, Option.some_or, List.dropLast_concat] at h
    obtain ⟨⟨made, _⟩, updated, h⟩ := bind_eq_ok_iff.mp h
    cases h
    cases parents with
    | nil =>
      rw [updateAt] at updated
      split at updated
      · cases updated
      · split at updated
        · cases updated
        · rename_i fresh
          cases updated
          rw [Bool.not_eq_true, Option.isSome_eq_false_iff, Option.isNone_iff_eq_none] at fresh
          exact .inl ⟨key, rfl, fresh, rfl⟩
    | cons first parents =>
      refine .inr ⟨fun other single => by simp at single, ?_⟩
      refine keeps_updateAt (fun _ => id) (fun _ _ _ _ before _ empty => ?_) updated
      simp at empty

lemma gathers_addValue {entries : Entries} {path : List String} {v : Value} {pairs : Pairs}
    (gathers : Gathers pairs entries) (isWhole : IsWhole v)
    (h : addValue entries path v = .ok later) : Gathers (pairs ++ [(path, v)]) later := by
  intro key w
  rcases addValue_cases h with ⟨own, rfl, fresh, rfl⟩ | ⟨deeper, keeps⟩
  · rw [List.mem_append, gathers key w, lookup_added fresh, List.mem_singleton]
    by_cases same : key = own
    · subst same
      rw [if_pos rfl, fresh, Prod.mk.injEq, Option.some.injEq]
      constructor
      · rintro (⟨-, ⟨⟩⟩ | ⟨-, rfl⟩)
        exact ⟨isWhole, rfl⟩
      · rintro ⟨-, rfl⟩
        exact .inr ⟨rfl, rfl⟩
    · simp [same]
  · have other : ([key], w) ≠ (path, v) := fun same => deeper key (congrArg Prod.fst same).symm
    rw [List.mem_append, List.mem_singleton, or_iff_left other]
    exact gathers_of_keeps keeps gathers key w

lemma holding_single {pairs : Pairs} {entries : Entries} :
    Holding [{ pairs }] entries ↔ Gathers pairs entries ∧
      (∀ key, tablesOf (entries.lookup key) = []) ∧ (entries.map Prod.fst).Nodup := by
  have own : (headed false [] [{ pairs }]).flatten = pairs := List.append_nil pairs
  have none (key : String) : headed true [key] [{ pairs }] = [] := rfl
  constructor
  · rintro ⟨gathers, tables, keys⟩
    exact ⟨own ▸ gathers, fun key => List.forall₂_nil_left_iff.mp (tables key), keys⟩
  · rintro ⟨gathers, tables, keys⟩
    refine ⟨own.symm ▸ gathers, fun key => ?_, keys⟩
    rw [none, tables key]
    exact .nil

lemma holding_addValue {entries : Entries} {path : List String} {v : Value} {pairs : Pairs}
    (holding : Holding [{ pairs }] entries) (isWhole : IsWhole v)
    (h : addValue entries path v = .ok later) :
    Holding [{ pairs := pairs ++ [(path, v)] }] later := by
  obtain ⟨own, tables, keys⟩ := holding_single.mp holding
  refine holding_single.mpr ⟨gathers_addValue own isWhole h, ?_⟩
  rcases addValue_cases h with ⟨key, rfl, fresh, rfl⟩ | ⟨-, keeps⟩
  · refine ⟨fun other => ?_, keys_added fresh keys⟩
    rw [lookup_added fresh]
    split
    · cases v with
      | tables items => exact absurd isWhole id
      | _ => rfl
    · exact tables other
  · exact ⟨fun other => keeps.tables other (tables other), keeps.keys keys⟩

theorem fits_addValue {path : List String} {v : Value} {current : Entries}
    (fits : Fits before b d) (isWhole : IsWhole v) (h : addValue d.current path v = .ok current) :
    Fits before { b with pairs := b.pairs ++ [(path, v)] } { d with current } := by
  cases fits with
  | root holding => exact .root (holding_addValue holding isWhole h)
  | header holding leads own =>
    exact .header (b := { b with pairs := b.pairs ++ [(path, v)] }) holding leads
      fun listed => gathers_addValue (own listed) isWhole h

end Drafts

end Signpost.Proofs

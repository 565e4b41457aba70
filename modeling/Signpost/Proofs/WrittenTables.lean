import Signpost.Proofs.HeldTables

/-!
# The tables of a text

The blocks of a text are read off it line by line, in one way only. What the text holds as a whole
are the pairs and the tables of its blocks.
-/

namespace Signpost.Proofs
open Toml

/-- The blocks of a text of which a block has been read so far. -/
inductive GoesOn : Block → List Char → List Block → Prop
  | done {b : Block} {cs : List Char} (nothing : dropLines false cs = []) : GoesOn b cs [b]
  | pair {b : Block} {cs line given rest next : List Char} {path : List String} {v : Value}
      {blocks : List Block} (start : dropLines false cs = line) (noHeader : line.head? ≠ some '[')
      (key : readKey line = .ok (path, '=' :: given))
      (value : readValue (depthLimit - 1) (given.length + 1) (dropSpaces given) = .ok (v, rest))
      (ends : endLine rest = .ok next)
      (more : GoesOn { b with pairs := b.pairs ++ [(path, v)] } next blocks) : GoesOn b cs blocks
  | table {b : Block} {cs line rest next : List Char} {path : List String} {blocks : List Block}
      (start : dropLines false cs = '[' :: line) (single : line.head? ≠ some '[')
      (key : readKey line = .ok (path, ']' :: rest)) (ends : endLine rest = .ok next)
      (more : GoesOn { path } next blocks) : GoesOn b cs (b :: blocks)
  | listed {b : Block} {cs line rest next : List Char} {path : List String} {blocks : List Block}
      (start : dropLines false cs = '[' :: '[' :: line)
      (key : readKey line = .ok (path, ']' :: ']' :: rest)) (ends : endLine rest = .ok next)
      (more : GoesOn { path, listed := true } next blocks) : GoesOn b cs (b :: blocks)

/-- The blocks of a text, which may start with a byte order mark. -/
inductive WrittenAs : List Char → List Block → Prop
  | marked {cs : List Char} {blocks : List Block} (text : GoesOn {} cs blocks) :
      WrittenAs ('\uFEFF' :: cs) blocks
  | plain {cs : List Char} {blocks : List Block} (plain : cs.head? ≠ some '\uFEFF')
      (text : GoesOn {} cs blocks) : WrittenAs cs blocks

lemma isWhole_of_integerValue {n : Int} {left rest : List Char} {v : Value}
    (h : (match integerValue n with
      | .ok v => .ok (v, left)
      | .error f => .error f : Read Value) = .ok (v, rest)) : IsWhole v := by
  unfold integerValue at h
  split at h
  · rename_i made
    split at made
    · cases made
      cases h
      trivial
    · cases made
  · cases h

lemma isWhole_of_readBased {base : Nat} {p : Char → Bool} {cs rest : List Char} {v : Value}
    (h : readBased base p cs = .ok (v, rest)) : IsWhole v := by
  unfold readBased at h
  split at h
  split at h
  · cases h
  · exact isWhole_of_integerValue h

lemma isWhole_of_readDecimal {cs rest : List Char} {v : Value}
    (h : readDecimal cs = .ok (v, rest)) : IsWhole v := by
  unfold readDecimal at h
  split at h
  split at h
  · cases h
    trivial
  · cases h
    trivial
  · split at h
    split at h
    · cases h
    · split at h
      extract_lets left at h
      split at h
      · exact isWhole_of_integerValue h
      · split at h
        split at h
        · cases h
        · cases h
          trivial

lemma isWhole_of_readNumber {cs rest : List Char} {v : Value}
    (h : readNumber cs = .ok (v, rest)) : IsWhole v := by
  unfold readNumber at h
  split at h
  · cases h
    trivial
  · split at h
    · exact isWhole_of_readBased h
    · exact isWhole_of_readBased h
    · exact isWhole_of_readBased h
    · exact isWhole_of_readDecimal h

lemma isWhole_of_readItems {room fuel : Nat} {items : List Value} {cs rest : List Char} {v : Value}
    (h : readItems room items fuel cs = .ok (v, rest)) : IsWhole v := by
  induction fuel generalizing items cs with
  | zero => cases h
  | succ fuel ih =>
    unfold readItems at h
    split at h
    · cases h
      trivial
    · split at h
      · cases h
      · split at h
        · exact ih h
        · cases h
          trivial
        · cases h

lemma isWhole_of_readPairs {room fuel : Nat} {entries : Entries} {cs rest : List Char} {v : Value}
    (h : readPairs room entries fuel cs = .ok (v, rest)) : IsWhole v := by
  induction fuel generalizing entries cs with
  | zero => cases h
  | succ fuel ih =>
    unfold readPairs at h
    split at h
    · cases h
    · split at h
      · split at h
        · cases h
        · split at h
          · cases h
          · split at h
            · exact ih h
            · cases h
              rfl
            · cases h
      · cases h

lemma isWhole_of_readValue {room fuel : Nat} {cs rest : List Char} {v : Value}
    (h : readValue room fuel cs = .ok (v, rest)) : IsWhole v := by
  cases fuel with
  | zero => cases h
  | succ fuel =>
    unfold readValue at h
    split at h
    · cases h
    · split at h
      · split at h
        · cases h
          trivial
        · cases h
      · split at h
        · split at h
          · cases h
          · exact isWhole_of_readItems h
        · split at h
          · split at h
            · cases h
            · split at h
              · cases h
                rfl
              · exact isWhole_of_readPairs h
          · split at h
            · cases h
              trivial
            · cases h
              trivial
            · exact isWhole_of_readNumber h

lemma head?_ne {c : Char} {line : List Char} (other : ∀ rest, line = c :: rest → False) :
    line.head? ≠ some c := by
  intro head
  obtain ⟨rest, hline⟩ := List.head?_eq_some_iff.mp head
  exact other rest hline

/-- The lines of a text are read into the blocks that it goes on with. -/
theorem goesOn_of_readLines {fuel : Nat} {before : List Block} {b : Block} {d last : Draft}
    {cs : List Char} (fits : Fits before b d) (h : readLines fuel d cs = .ok last) :
    ∃ blocks, GoesOn b cs blocks ∧
      ∀ root, last.finish = .ok root → Holding (before ++ blocks) root := by
  induction fuel generalizing before b d cs with
  | zero => cases h
  | succ fuel ih =>
    unfold readLines at h
    dsimp only at h
    split at h
    · rename_i nothing
      cases h
      exact ⟨[b], .done nothing, fun root => holding_finish fits⟩
    · rename_i line start
      obtain ⟨⟨path, rest⟩, key, h⟩ := bind_eq_ok_iff.mp h
      dsimp only at h
      split at h
      · rename_i rest
        obtain ⟨next, opened, h⟩ := bind_eq_ok_iff.mp h
        obtain ⟨left, ends, h⟩ := bind_eq_ok_iff.mp h
        obtain ⟨blocks, more, holds⟩ := ih (fits_openListed fits opened) h
        exact ⟨b :: blocks, .listed start key ends more, by simpa using holds⟩
      · cases h
    · rename_i line double start
      obtain ⟨⟨path, rest⟩, key, h⟩ := bind_eq_ok_iff.mp h
      dsimp only at h
      split at h
      · rename_i rest
        obtain ⟨next, opened, h⟩ := bind_eq_ok_iff.mp h
        obtain ⟨left, ends, h⟩ := bind_eq_ok_iff.mp h
        obtain ⟨blocks, more, holds⟩ := ih (fits_openTable fits opened) h
        exact ⟨b :: blocks, .table start (head?_ne double) key ends more, by simpa using holds⟩
      · cases h
    · rename_i double single start
      obtain ⟨⟨path, rest⟩, key, h⟩ := bind_eq_ok_iff.mp h
      dsimp only at h
      split at h
      · rename_i given
        obtain ⟨⟨v, rest⟩, value, h⟩ := bind_eq_ok_iff.mp h
        obtain ⟨left, ends, h⟩ := bind_eq_ok_iff.mp h
        obtain ⟨current, added, h⟩ := bind_eq_ok_iff.mp h
        obtain ⟨blocks, more, holds⟩ :=
          ih (fits_addValue fits (isWhole_of_readValue value) added) h
        exact ⟨blocks, .pair rfl (head?_ne start) key value ends more, holds⟩
      · cases h

/-- What is read from a text are the pairs and the tables that are written in it. -/
theorem holding_of_read {text : List Char} {root : Entries} (h : read text = .ok root) :
    ∃ blocks, WrittenAs text blocks ∧ Holding blocks root := by
  unfold Toml.read at h
  obtain ⟨last, lines, finished⟩ := bind_eq_ok_iff.mp h
  have start : Fits [] {} {} :=
    .root (holding_single.mpr ⟨fun key v => by simp, fun _ => rfl, .nil⟩)
  obtain ⟨blocks, goesOn, holds⟩ := goesOn_of_readLines start lines
  refine ⟨blocks, ?_, holds root finished⟩
  split at goesOn
  · exact .marked goesOn
  · rename_i plain
    exact .plain (head?_ne plain) goesOn

/-- A text goes on with a block in one way only. -/
theorem goesOn_unique {b : Block} {cs : List Char} {first second : List Block}
    (h : GoesOn b cs first) (k : GoesOn b cs second) : first = second := by
  induction h generalizing second with
  | done nothing =>
    cases k with
    | done => rfl
    | pair start _ key =>
      obtain rfl := nothing.symm.trans start
      cases key
    | table start => cases nothing.symm.trans start
    | listed start => cases nothing.symm.trans start
  | pair start noHeader key value ends _ ih =>
    cases k with
    | done nothing =>
      obtain rfl := nothing.symm.trans start
      cases key
    | pair startToo _ keyToo valueToo endsToo moreToo =>
      obtain rfl := start.symm.trans startToo
      cases key.symm.trans keyToo
      cases value.symm.trans valueToo
      cases ends.symm.trans endsToo
      exact ih moreToo
    | table startToo =>
      obtain rfl := start.symm.trans startToo
      exact absurd rfl noHeader
    | listed startToo =>
      obtain rfl := start.symm.trans startToo
      exact absurd rfl noHeader
  | table start single key ends _ ih =>
    cases k with
    | done nothing => cases nothing.symm.trans start
    | pair startToo noHeader =>
      obtain rfl := start.symm.trans startToo
      exact absurd rfl noHeader
    | table startToo _ keyToo endsToo moreToo =>
      cases start.symm.trans startToo
      cases key.symm.trans keyToo
      cases ends.symm.trans endsToo
      rw [ih moreToo]
    | listed startToo =>
      cases start.symm.trans startToo
      exact absurd rfl single
  | listed start key ends _ ih =>
    cases k with
    | done nothing => cases nothing.symm.trans start
    | pair startToo noHeader =>
      obtain rfl := start.symm.trans startToo
      exact absurd rfl noHeader
    | table startToo single =>
      cases start.symm.trans startToo
      exact absurd rfl single
    | listed startToo keyToo endsToo moreToo =>
      cases start.symm.trans startToo
      cases key.symm.trans keyToo
      cases ends.symm.trans endsToo
      rw [ih moreToo]

theorem writtenAs_unique {text : List Char} {first second : List Block}
    (h : WrittenAs text first) (k : WrittenAs text second) : first = second := by
  cases h with
  | marked goesOn =>
    cases k with
    | marked goesOnToo => exact goesOn_unique goesOn goesOnToo
    | plain plain => exact absurd rfl plain
  | plain plain goesOn =>
    cases k with
    | marked => exact absurd rfl plain
    | plain _ goesOnToo => exact goesOn_unique goesOn goesOnToo

end Signpost.Proofs

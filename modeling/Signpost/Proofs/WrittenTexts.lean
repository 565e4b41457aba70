import Mathlib.Data.List.TakeWhile
import Signpost.Toml.Document

/-!
# Texts written in a table

Every text can stand as a string in a TOML text: quotes, backslashes and the characters that a
string must not hold are escaped. A table of such strings is read as the texts that it was written
for.
-/

namespace Signpost.Proofs
open Toml

/-- A character as it stands between double quotes. -/
def escapedForm (c : Char) : List Char :=
  if c = '"' ∨ c = '\\' then ['\\', c]
  else if isTextChar c then [c]
  else ['\\', 'u', '0', '0', Nat.digitChar (c.toNat / 16), Nat.digitChar (c.toNat % 16)]

/-- A text as a string. -/
def quotedForm (text : String) : List Char :=
  '"' :: (text.toList.flatMap escapedForm ++ ['"'])

/-- A line that gives a key a text. -/
def pairLine (key text : String) : List Char :=
  key.toList ++ ' ' :: '=' :: ' ' :: (quotedForm text ++ ['\n'])

/-- A header with a line for each pair under it. -/
def tableText (name : String) (pairs : List (String × String)) : List Char :=
  '[' :: (name.toList ++ ']' :: '\n' :: pairs.flatMap fun pair => pairLine pair.1 pair.2)

/-- A key that needs no quotes. -/
structure IsBareKey (key : String) : Prop where
  nonempty : key ≠ ""
  bare : ∀ c ∈ key.toList, isBareKeyChar c = true

lemma isBareKey_of_all {key : String} (nonempty : key ≠ "")
    (all : key.toList.all isBareKeyChar = true) : IsBareKey key :=
  ⟨nonempty, List.all_eq_true.mp all⟩

section Strings

variable {cs rest : List Char} {c : Char}

lemma basicString_quote (quote : c = '"' ∨ c = '\\') :
    basicString ('\\' :: c :: rest) = Read.prepend [c] (basicString rest) := by
  rcases quote with rfl | rfl <;> rfl

lemma basicString_text (noQuote : ¬(c = '"' ∨ c = '\\')) (text : isTextChar c = true) :
    basicString (c :: rest) = Read.prepend [c] (basicString rest) := by
  rw [not_or] at noQuote
  rw [basicString]
  all_goals simp_all

/-- A code of ASCII is read as its character. -/
lemma escapedChar_digits {n : Nat} (low : n < 0x80) :
    escapedChar ['0', '0', Nat.digitChar (n / 16), Nat.digitChar (n % 16)] =
      .ok (Char.ofNat n) := by
  revert low
  revert n
  decide +kernel

lemma toNat_lt_of_noText (noText : isTextChar c = false) : c.toNat < 0x80 := by
  simp [isTextChar] at noText
  omega

lemma basicString_code (noQuote : ¬(c = '"' ∨ c = '\\')) (noText : isTextChar c = false) :
    basicString (escapedForm c ++ rest) = Read.prepend [c] (basicString rest) := by
  rw [escapedForm, if_neg noQuote, if_neg (Bool.eq_false_iff.mp noText)]
  simp only [List.cons_append, List.nil_append]
  rw [basicString, escapedChar_digits (toNat_lt_of_noText noText), Char.ofNat_toNat]

lemma basicString_escapedForm :
    basicString (escapedForm c ++ rest) = Read.prepend [c] (basicString rest) := by
  by_cases quote : c = '"' ∨ c = '\\'
  · rw [escapedForm, if_pos quote]
    exact basicString_quote quote
  · cases text : isTextChar c with
    | true =>
      rw [escapedForm, if_neg quote, if_pos text]
      exact basicString_text quote text
    | false => exact basicString_code quote text

/-- What is escaped is read as the text that it was written for. -/
lemma basicString_escaped :
    basicString (cs.flatMap escapedForm ++ '"' :: rest) = .ok (cs, rest) := by
  induction cs with
  | nil => rfl
  | cons c cs ih =>
    rw [List.flatMap_cons, List.append_assoc, basicString_escapedForm, ih]
    rfl

lemma head_escapedForm (c : Char) : ∃ first more, escapedForm c = first :: more ∧ first ≠ '"' := by
  rw [escapedForm]
  split
  · exact ⟨_, _, rfl, by decide⟩
  · rename_i noQuote
    split
    · exact ⟨_, _, rfl, fun quote => noQuote (.inl quote)⟩
    · exact ⟨_, _, rfl, by decide⟩

/-- A string that the end of its line follows is no long one. -/
lemma readString_quotedForm (text : String) :
    readString (quotedForm text ++ '\n' :: rest) = .ok (text.toList, '\n' :: rest) := by
  rw [quotedForm, List.cons_append, List.append_assoc, List.singleton_append, readString]
  · exact basicString_escaped
  · intro tail long
    cases chars : text.toList with
    | nil => simp [chars] at long
    | cons c cs =>
      obtain ⟨first, more, form, noQuote⟩ := head_escapedForm c
      rw [chars, List.flatMap_cons, form] at long
      exact noQuote (List.cons.inj long).1

end Strings

section Lines

variable {cs rest : List Char} {key text : String}

lemma ne_of_isBareKeyChar {c d : Char} (bare : isBareKeyChar c = true)
    (other : isBareKeyChar d = false) : c ≠ d := by
  rintro rfl
  exact Bool.false_ne_true (other.symm.trans bare)

lemma isSpace_of_isBareKeyChar {c : Char} (bare : isBareKeyChar c = true) : isSpace c = false := by
  rw [isSpace, beq_eq_false_iff_ne.mpr (ne_of_isBareKeyChar bare (by decide)),
    beq_eq_false_iff_ne.mpr (ne_of_isBareKeyChar bare (by decide)), Bool.or_self]

lemma dropLines_bare {c : Char} (bare : isBareKeyChar c = true) (cs : List Char) :
    dropLines false (c :: cs) = c :: cs := by
  rw [dropLines, isSpace_of_isBareKeyChar bare, if_neg Bool.false_ne_true,
    if_neg (ne_of_isBareKeyChar bare (by decide))]
  · exact ne_of_isBareKeyChar bare (by decide)
  · exact fun tail carriage => absurd carriage (ne_of_isBareKeyChar bare (by decide))

lemma IsBareKey.exists_cons (bare : IsBareKey key) :
    ∃ first more, key.toList = first :: more ∧ isBareKeyChar first = true := by
  obtain ⟨first, more, chars⟩ :=
    List.exists_cons_of_ne_nil (mt String.toList_eq_nil_iff.mp bare.nonempty)
  exact ⟨first, more, chars, bare.bare first (chars ▸ List.mem_cons_self ..)⟩

lemma simpleKey_bare (bare : IsBareKey key) {c : Char} (ends : isBareKeyChar c = false) :
    simpleKey (key.toList ++ c :: cs) = .ok (key.toList, c :: cs) := by
  have name : (key.toList ++ c :: cs).takeWhile isBareKeyChar = key.toList := by
    rw [List.takeWhile_append_of_pos bare.bare, List.takeWhile_cons, ends,
      if_neg Bool.false_ne_true, List.append_nil]
  obtain ⟨first, more, chars, isBare⟩ := bare.exists_cons
  rw [simpleKey]
  · rw [name, List.drop_left, chars]
    rfl
  all_goals
    intro tail quoted
    rw [chars, List.cons_append] at quoted
    obtain ⟨rfl, -⟩ := List.cons.inj quoted
    exact absurd isBare (by decide)

lemma readKey_bare (bare : IsBareKey key) {c d : Char} (ends : isBareKeyChar c = false)
    (left : dropSpaces (c :: cs) = d :: rest) (noDot : d ≠ '.') :
    readKey (key.toList ++ c :: cs) = .ok ([key], d :: rest) := by
  have start : dropSpaces (key.toList ++ c :: cs) = key.toList ++ c :: cs := by
    obtain ⟨first, more, chars, isBare⟩ := bare.exists_cons
    rw [chars, List.cons_append, dropSpaces, List.dropWhile_cons, isSpace_of_isBareKeyChar isBare,
      if_neg Bool.false_ne_true]
  have parts : keyParts ((key.toList ++ c :: cs).length + 1) (key.toList ++ c :: cs) =
      .ok ([key], d :: rest) := by
    rw [keyParts, start, simpleKey_bare bare ends]
    dsimp only
    rw [left]
    simp [noDot]
  rw [readKey, parts]
  rfl

lemma readValue_quotedForm (room fuel : Nat) :
    readValue room (fuel + 1) (quotedForm text ++ '\n' :: rest) =
      .ok (.string text, '\n' :: rest) := by
  have string : readString (quotedForm text ++ '\n' :: rest) = .ok (text.toList, '\n' :: rest) :=
    readString_quotedForm text
  rw [quotedForm, List.cons_append] at string ⊢
  rw [readValue, if_pos (.inl rfl), string]
  dsimp only
  rw [String.ofList_toList]

lemma addValue_fresh {entries : Entries} (fresh : entries.lookup key = none) (v : Value) :
    addValue entries [key] v = .ok (entries ++ [(key, v)]) := by
  simp [addValue, updateAt, fresh, bind, Except.bind, pure, Except.pure]

lemma endLine_newline (cs : List Char) : endLine ('\n' :: cs) = .ok cs := rfl

/-- A line is read as the pair that it was written for. -/
lemma readLines_pairLine {fuel : Nat} {d : Draft} (bare : IsBareKey key)
    (fresh : d.current.lookup key = none) :
    readLines (fuel + 1) d (pairLine key text ++ rest) =
      readLines fuel { d with current := d.current ++ [(key, .string text)] } rest := by
  have line : pairLine key text ++ rest =
      key.toList ++ ' ' :: '=' :: ' ' :: (quotedForm text ++ '\n' :: rest) := by
    simp [pairLine]
  have keyRead : readKey (key.toList ++ ' ' :: '=' :: ' ' :: (quotedForm text ++ '\n' :: rest)) =
      .ok ([key], '=' :: ' ' :: (quotedForm text ++ '\n' :: rest)) :=
    readKey_bare bare (by decide) rfl (by decide)
  have spaces : dropSpaces (' ' :: (quotedForm text ++ '\n' :: rest)) =
      quotedForm text ++ '\n' :: rest := rfl
  obtain ⟨first, more, chars, isBare⟩ := bare.exists_cons
  have noHeader : first ≠ '[' := ne_of_isBareKeyChar isBare (by decide)
  rw [line]
  rw [chars, List.cons_append] at keyRead ⊢
  rw [readLines, dropLines_bare isBare]
  split
  · rename_i nothing
    cases nothing
  · rename_i header
    exact absurd (List.cons.inj header).1 noHeader
  · rename_i header
    exact absurd (List.cons.inj header).1 noHeader
  · rw [keyRead]
    simp only [bind, Except.bind, spaces, readValue_quotedForm, endLine_newline,
      addValue_fresh fresh]

/-- Lines are read as the pairs that they were written for. -/
lemma readLines_pairs {pairs : List (String × String)} {fuel : Nat} {d : Draft}
    (enough : pairs.length < fuel) (bare : ∀ pair ∈ pairs, IsBareKey pair.1)
    (keys : (pairs.map Prod.fst).Nodup) (fresh : ∀ pair ∈ pairs, d.current.lookup pair.1 = none) :
    readLines fuel d (pairs.flatMap fun pair => pairLine pair.1 pair.2) =
      .ok { d with current := d.current ++ pairs.map fun pair => (pair.1, .string pair.2) } := by
  induction pairs generalizing fuel d with
  | nil =>
    cases fuel with
    | zero => cases enough
    | succ fuel => simp [readLines, dropLines]
  | cons pair pairs ih =>
    obtain ⟨fuel, rfl⟩ : ∃ more, fuel = more + 1 := ⟨fuel - 1, by simp at enough; omega⟩
    obtain ⟨bareFirst, bareRest⟩ := List.forall_mem_cons.mp bare
    obtain ⟨freshFirst, freshRest⟩ := List.forall_mem_cons.mp fresh
    rw [List.map_cons, List.nodup_cons] at keys
    rw [List.flatMap_cons, readLines_pairLine bareFirst freshFirst, ih _ bareRest keys.2]
    · simp
    · intro later mem
      have other : later.1 ≠ pair.1 := fun same => keys.1 (same ▸ List.mem_map_of_mem mem)
      rw [List.lookup_append, freshRest later mem]
      simp [List.lookup_cons, beq_eq_false_iff_ne.mpr other]
    · simp at enough
      omega

lemma length_le_pairLines (pairs : List (String × String)) :
    pairs.length ≤ (pairs.flatMap fun pair => pairLine pair.1 pair.2).length := by
  induction pairs with
  | nil => exact Nat.le_refl 0
  | cons pair pairs ih =>
    rw [List.flatMap_cons, List.length_append, List.length_cons]
    have line : 0 < (pairLine pair.1 pair.2).length := by
      simp only [pairLine, List.length_append, List.length_cons]
      omega
    omega

lemma readLines_header {name : String} (bare : IsBareKey name) (fuel : Nat) :
    readLines (fuel + 1) {} ('[' :: (name.toList ++ ']' :: '\n' :: cs)) =
      readLines fuel { path := [name] } cs := by
  have keyRead : readKey (name.toList ++ ']' :: '\n' :: cs) = .ok ([name], ']' :: '\n' :: cs) :=
    readKey_bare bare (by decide) rfl (by decide)
  have opened : Draft.openTable {} [name] = .ok { path := [name] } := rfl
  have start (rest : List Char) : dropLines false ('[' :: rest) = '[' :: rest := rfl
  obtain ⟨first, more, chars, isBare⟩ := bare.exists_cons
  have noHeader : first ≠ '[' := ne_of_isBareKeyChar isBare (by decide)
  rw [chars, List.cons_append] at keyRead ⊢
  rw [readLines, start]
  split
  · rename_i nothing
    cases nothing
  · rename_i listed
    exact absurd (List.cons.inj (List.cons.inj listed).2).1 noHeader
  · rename_i header
    obtain ⟨-, rfl⟩ := List.cons.inj header
    rw [keyRead]
    simp only [bind, Except.bind, opened, endLine_newline]
  · rename_i noTable
    exact absurd rfl (noTable _)

/-- A table of texts is read as the texts that it was written for. -/
theorem read_tableText {name : String} {pairs : List (String × String)} (bareName : IsBareKey name)
    (bare : ∀ pair ∈ pairs, IsBareKey pair.1) (keys : (pairs.map Prod.fst).Nodup) :
    Toml.read (tableText name pairs) =
      .ok [(name, .table .header (pairs.map fun pair => (pair.1, .string pair.2)))] := by
  have enough : pairs.length < (tableText name pairs).length := by
    have lines := length_le_pairLines pairs
    simp only [tableText, List.length_cons, List.length_append]
    omega
  have lines : readLines ((tableText name pairs).length + 1) {} (tableText name pairs) =
      .ok { path := [name], current := pairs.map fun pair => (pair.1, .string pair.2) } := by
    rw [tableText] at enough ⊢
    rw [readLines_header bareName, readLines_pairs enough bare keys fun _ _ => rfl]
    rfl
  rw [Toml.read, lines]
  · rfl
  · intro rest marked
    exact absurd (List.cons.inj marked).1 (by decide)

end Lines

end Signpost.Proofs

/-!
# Separated text

A text cut at every separator, and the parts joined again.
-/

namespace Signpost.Text

/-- The parts between the separators; a text without a separator is one part. -/
def splitOn (separator : Char) : List Char → List (List Char)
  | [] => [[]]
  | c :: rest =>
    if c = separator then [] :: splitOn separator rest
    else
      match splitOn separator rest with
      | [] => [[c]]
      | part :: parts => (c :: part) :: parts

/-- The parts with a separator between them. -/
def joinWith (separator : Char) : List (List Char) → List Char
  | [] => []
  | [part] => part
  | part :: parts => part ++ separator :: joinWith separator parts

theorem splitOn_ne_nil (separator : Char) (cs : List Char) : splitOn separator cs ≠ [] := by
  induction cs with
  | nil => simp [splitOn]
  | cons c rest ih =>
    by_cases h : c = separator
    · simp [splitOn, h]
    · simp only [splitOn, h, if_false]
      split <;> simp

theorem joinWith_splitOn (separator : Char) (cs : List Char) :
    joinWith separator (splitOn separator cs) = cs := by
  induction cs with
  | nil => rfl
  | cons c rest ih =>
    have hne := splitOn_ne_nil separator rest
    by_cases h : c = separator
    · subst h
      cases hs : splitOn c rest with
      | nil => exact absurd hs hne
      | cons part parts =>
        rw [hs] at ih
        simp [splitOn, hs, joinWith, ih]
    · cases hs : splitOn separator rest with
      | nil => exact absurd hs hne
      | cons part parts =>
        rw [hs] at ih
        cases parts with
        | nil => simpa [splitOn, h, hs, joinWith] using ih
        | cons q qs => simpa [splitOn, h, hs, joinWith] using ih

theorem notMem_of_mem_splitOn {separator : Char} {cs field : List Char}
    (mem : field ∈ splitOn separator cs) : separator ∉ field := by
  induction cs generalizing field with
  | nil => simp_all [splitOn]
  | cons c rest ih =>
    rw [splitOn] at mem
    split at mem
    · rcases List.mem_cons.mp mem with rfl | mem
      · exact List.not_mem_nil
      · exact ih mem
    · rename_i other
      cases hrest : splitOn separator rest with
      | nil => exact absurd hrest (splitOn_ne_nil separator rest)
      | cons part parts =>
        rw [hrest] at mem ih
        rcases List.mem_cons.mp mem with rfl | mem
        · rw [List.mem_cons, not_or]
          exact ⟨Ne.symm other, ih (List.mem_cons_self ..)⟩
        · exact ih (List.mem_cons_of_mem _ mem)

theorem splitOn_append {separator : Char} {part rest : List Char} (apart : separator ∉ part) :
    splitOn separator (part ++ separator :: rest) = part :: splitOn separator rest := by
  induction part with
  | nil => rw [List.nil_append, splitOn, if_pos rfl]
  | cons c part ih =>
    rw [List.mem_cons, not_or] at apart
    rw [List.cons_append, splitOn, if_neg (Ne.symm apart.1), ih apart.2]

theorem splitOn_of_notMem {separator : Char} {part : List Char} (apart : separator ∉ part) :
    splitOn separator part = [part] := by
  induction part with
  | nil => rfl
  | cons c part ih =>
    rw [List.mem_cons, not_or] at apart
    rw [splitOn, if_neg (Ne.symm apart.1), ih apart.2]

theorem splitOn_joinWith {separator : Char} {parts : List (List Char)}
    (apart : ∀ part ∈ parts, separator ∉ part) (some : parts ≠ []) :
    splitOn separator (joinWith separator parts) = parts := by
  induction parts using joinWith.induct with
  | case1 => exact absurd rfl some
  | case2 part => exact splitOn_of_notMem (apart part (List.mem_singleton_self part))
  | case3 part parts more ih =>
    obtain ⟨first, rest⟩ := List.forall_mem_cons.mp apart
    have left : parts ≠ [] := fun none => more (none ▸ rfl)
    rw [joinWith, splitOn_append first, ih rest left]
    exact more

/-- A character at the end goes to the last part, or begins another one after it. -/
theorem splitOn_concat (separator : Char) (cs : List Char) :
    ∃ front last, splitOn separator cs = front ++ [last] ∧ ∀ c, splitOn separator (cs ++ [c]) =
      front ++ if c = separator then [last, []] else [last ++ [c]] := by
  induction cs with
  | nil =>
    refine ⟨[], [], rfl, fun c => ?_⟩
    by_cases same : c = separator <;> simp [splitOn, same]
  | cons d cs ih =>
    obtain ⟨front, last, parts, later⟩ := ih
    by_cases cut : d = separator
    · refine ⟨[] :: front, last, by simp [splitOn, cut, parts], fun c => ?_⟩
      rw [List.cons_append, splitOn, if_pos cut, later, List.cons_append]
    · cases front with
      | nil =>
        refine ⟨[], d :: last, by simp [splitOn, cut, parts], fun c => ?_⟩
        rw [List.cons_append, splitOn, if_neg cut, later]
        by_cases same : c = separator <;> simp [same]
      | cons part front =>
        refine ⟨(d :: part) :: front, last, by simp [splitOn, cut, parts], fun c => ?_⟩
        rw [List.cons_append, splitOn, if_neg cut, later]
        rfl

theorem getLast?_toList_iff {text : String} {separator : Char} :
    text.toList.getLast? = some separator ↔
      ∃ front, text = front ++ String.singleton separator := by
  rw [List.getLast?_eq_some_iff]
  constructor
  · rintro ⟨front, h⟩
    exact ⟨String.ofList front, String.toList_injective (by simpa using h)⟩
  · rintro ⟨front, rfl⟩
    exact ⟨front.toList, by rw [String.toList_append, String.toList_singleton]⟩

/-- The words of the program in small letters. No character outside ASCII has a small form that is
one letter of these words, so ASCII letters alone are folded. -/
def folded (cs : List Char) : List Char :=
  cs.map Char.toLower

end Signpost.Text

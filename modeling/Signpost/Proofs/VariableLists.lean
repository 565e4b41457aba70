import Signpost.Proofs.SettingsVariables

/-!
# Lists in variables

A variable may hold a list of texts with a separator between them. Whatever text it holds is read
as a list, of which each item can stand between separators as it is.
-/

namespace Signpost.Proofs
open Settings Text

/-- What a list keeps of some texts: each one less the blanks around it, unless it is blank. -/
inductive Kept : List String → List String → Prop
  | nil : Kept [] []
  | item {text item : String} {texts items : List String} (trimmed : IsTrimmed item.toList)
      (padded : Padded item.toList text.toList) (nonempty : item ≠ "") (rest : Kept texts items) :
      Kept (text :: texts) (item :: items)
  | blank {text : String} {texts items : List String} (blank : ∀ c ∈ text.toList, isBlank c = true)
      (rest : Kept texts items) : Kept (text :: texts) items

section Lists

variable {separator : Char} {part : List Char} {parts : List (List Char)} {text : String}
  {texts items : List String}

lemma keptParts_cons : keptParts (part :: parts) = keptParts [part] ++ keptParts parts :=
  keptParts_append [part] parts

lemma keptParts_of_blank (blank : trim part = []) : keptParts [part] = [] := by
  simp [keptParts, blank]

lemma keptParts_of_solid (solid : trim part ≠ []) :
    keptParts [part] = [String.ofList (trim part)] := by
  simp [keptParts, solid]

lemma kept_iff : Kept texts items ↔ items = keptParts (texts.map String.toList) := by
  constructor
  · intro h
    induction h with
    | nil => rfl
    | @item text item _ _ trimmed padded nonempty _ ih =>
      have own : trim text.toList = item.toList := trim_of_padded trimmed padded
      have solid : trim text.toList ≠ [] := own ▸ mt String.toList_eq_nil_iff.mp nonempty
      rw [List.map_cons, keptParts_cons, keptParts_of_solid solid, own, String.ofList_toList, ih]
      rfl
    | blank blank _ ih =>
      rw [List.map_cons, keptParts_cons, keptParts_of_blank (trim_eq_nil_iff.mpr blank), ih]
      rfl
  · rintro rfl
    induction texts with
    | nil => exact .nil
    | cons text texts ih =>
      rw [List.map_cons, keptParts_cons]
      by_cases blank : trim text.toList = []
      · rw [keptParts_of_blank blank]
        exact .blank (trim_eq_nil_iff.mp blank) ih
      · rw [keptParts_of_solid blank]
        refine .item ?_ ?_ (mt String.ofList_eq_empty_iff.mp blank) ih
        · rw [String.toList_ofList]
          exact isTrimmed_trim _
        · rw [String.toList_ofList]
          exact padded_trim _

/-- No blank is left around an item, and no separator in it. -/
lemma isItem_of_mem_listItems {cs : List Char} {item : String}
    (mem : item ∈ listItems separator cs) : IsItem separator item := by
  obtain ⟨kept, found, rfl⟩ := List.mem_map.mp mem
  obtain ⟨trimmed, solid⟩ := List.mem_filter.mp found
  obtain ⟨part, split, rfl⟩ := List.mem_map.mp trimmed
  constructor
  · rw [String.toList_ofList]
    exact isTrimmed_trim part
  · exact mt String.ofList_eq_empty_iff.mp (of_decide_eq_true solid)
  · rw [String.toList_ofList]
    exact mt (mem_of_padded (padded_trim part)) (notMem_of_mem_splitOn split)

/-- Texts without a separator in them are read from what they make with separators in between. -/
lemma kept_listItems_iff (apart : ∀ text ∈ texts, separator ∉ text.toList) :
    Kept texts items ↔ items = listItems separator (listText separator texts).toList := by
  rw [kept_iff, listText, String.toList_ofList, listItems_joinWith (List.forall_mem_map.mpr apart)]

/-- Every text is made of texts without a separator, with separators in between. -/
lemma exists_listText (separator : Char) (value : String) :
    ∃ texts, texts ≠ [] ∧ (∀ text ∈ texts, separator ∉ text.toList) ∧
      value = listText separator texts := by
  refine ⟨(splitOn separator value.toList).map String.ofList, ?_, ?_, ?_⟩
  · exact mt List.map_eq_nil_iff.mp (splitOn_ne_nil separator value.toList)
  · refine List.forall_mem_map.mpr fun part mem => ?_
    rw [String.toList_ofList]
    exact notMem_of_mem_splitOn mem
  · have parts : ((splitOn separator value.toList).map String.ofList).map String.toList =
        splitOn separator value.toList := by simp
    rw [listText, parts, joinWith_splitOn, String.ofList_toList]

end Lists

/-- Whatever text a variable holds, it is read as a list of items that are not empty, have no blanks
around them and no separator in them. A variable that holds these items with separators in between
is read as the same list. Of the texts that the value is made of, the list keeps those that are not
blank, in their order and less the blanks around them, also if the separator is a blank itself. -/
theorem lists_canonical {env : Environment} {name value : String} (separator : Char)
    (given : env.lookup name = some (Utf8.encode value)) :
    ∃ items, readList env name separator = .ok items ∧
      (∀ item ∈ items, IsItem separator item) ∧
      (∀ (other : Environment) again,
        other.lookup again = some (Utf8.encode (listText separator items)) →
          readList other again separator = .ok items) ∧
      (∃ texts, texts ≠ [] ∧ (∀ text ∈ texts, separator ∉ text.toList) ∧
        value = listText separator texts) ∧
      ∀ texts, (∀ text ∈ texts, separator ∉ text.toList) → value = listText separator texts →
        ∀ kept, Kept texts kept ↔ kept = items := by
  have each : ∀ item ∈ listItems separator value.toList, IsItem separator item :=
    fun _ => isItem_of_mem_listItems
  refine ⟨_, readList_of_text separator given, each, ?_, exists_listText separator value, ?_⟩
  · exact fun _ _ givenAgain => readList_of_given givenAgain each
  · rintro texts apart rfl kept
    exact kept_listItems_iff apart

/-- A value with blanks for separators, at its ends too. -/
def blankSeparated : Environment :=
  [("PROXY_DOCKER_EXCLUDE", Utf8.encode "  db\t cache  \u3000길 ")]

theorem lists_canonical_blankSeparated :
    blankSeparated.lookup "PROXY_DOCKER_EXCLUDE" = some (Utf8.encode "  db\t cache  \u3000길 ") ∧
      readList blankSeparated "PROXY_DOCKER_EXCLUDE" ' ' = .ok ["db", "cache", "길"] ∧
      Kept ["", "", "db\t", "cache", "", "\u3000길", ""] ["db", "cache", "길"] := by
  have given : blankSeparated.lookup "PROXY_DOCKER_EXCLUDE" =
      some (Utf8.encode "  db\t cache  \u3000길 ") := rfl
  obtain ⟨items, read, -, -, -, keeps⟩ := lists_canonical ' ' given
  have kept := keeps ["", "", "db\t", "cache", "", "\u3000길", ""] (by decide) (by decide)
  have found : readList blankSeparated "PROXY_DOCKER_EXCLUDE" ' ' = .ok ["db", "cache", "길"] := rfl
  cases read.symm.trans found
  exact ⟨given, found, (kept _).mpr rfl⟩

end Signpost.Proofs

import Signpost.Proofs.ListedRules
import Signpost.Proofs.SettingsValidity
import Signpost.Proofs.TrimmedText
import Signpost.Source.Line

/-!
# Rules on lines

A line says a rule if it has three or four fields, and what it says is read from it if the source is
a pattern. A rule that is read from a line can be written as one and read again.
-/

namespace Signpost.Proofs
open Source Text

/-- The ping that the last of four fields asks for. -/
def pingOf (field : String) : Option String :=
  if field = "" then none else some field

/-- What a line of fields with commas between them says. Blanks around the fields do not count. -/
inductive Written (line : String) : String → String → String → Option String → Prop
  | three {server source target : List Char} :
      (∀ field ∈ [server, source, target], ',' ∉ field) →
      line.toList = joinWith ',' [server, source, target] →
      Written line (Line.serverOf (String.ofList (trim server))) (String.ofList (trim source))
        (String.ofList (trim target)) none
  | four {server source target ping : List Char} :
      (∀ field ∈ [server, source, target, ping], ',' ∉ field) →
      line.toList = joinWith ',' [server, source, target, ping] →
      Written line (Line.serverOf (String.ofList (trim server))) (String.ofList (trim source))
        (String.ofList (trim target)) (pingOf (String.ofList (trim ping)))

/-- A text that can stand between the commas of a line. -/
structure IsField (field : String) : Prop where
  noComma : ',' ∉ field.toList
  trimmed : IsTrimmed field.toList

/-- What can be written as a line: the server is named, and a ping is not empty. -/
structure Writable (server source target : String) (ping : Option String) : Prop where
  fields : ∀ field ∈ [server, source, target] ++ ping.toList, IsField field
  named : server ≠ ""
  asked : ping ≠ some ""

/-- A line of fields with commas between them, and blanks around the fields. -/
def Spaced (fields : List String) (line : String) : Prop :=
  ∃ parts, List.Forall₂ (fun field part => Padded field.toList part) fields parts ∧
    line.toList = joinWith ',' parts

section Fields

variable {line server source target : String} {ping : Option String}

lemma fields_of_joined {parts : List (List Char)} (apart : ∀ part ∈ parts, ',' ∉ part)
    (some : parts ≠ []) (joined : line.toList = joinWith ',' parts) :
    Line.fields line = parts.map fun part => String.ofList (trim part) := by
  rw [Line.fields, joined, splitOn_joinWith apart some]

lemma hasFields_of_joined {parts : List (List Char)} (apart : ∀ part ∈ parts, ',' ∉ part)
    (joined : line.toList = joinWith ',' parts) (few : parts.length = 3 ∨ parts.length = 4) :
    HasFields line := by
  have some : parts ≠ [] := by
    rintro rfl
    simp at few
  have length := length_splitOn ',' line.toList
  rw [joined, splitOn_joinWith apart some, ← joined] at length
  rw [HasFields]
  omega

/-- A line says something exactly if it has three or four fields. -/
lemma exists_written_iff :
    (∃ server source target ping, Written line server source target ping) ↔ HasFields line := by
  constructor
  · rintro ⟨server, source, target, ping, written⟩
    cases written with
    | three apart joined => exact hasFields_of_joined apart joined (.inl rfl)
    | four apart joined => exact hasFields_of_joined apart joined (.inr rfl)
  · intro fields
    have apart : ∀ field ∈ splitOn ',' line.toList, ',' ∉ field := fun _ => notMem_of_mem_splitOn
    have joined := joinWith_splitOn ',' line.toList
    have length := length_splitOn ',' line.toList
    generalize splitOn ',' line.toList = parts at apart joined length
    rcases fields with two | three
    · rw [two] at length
      obtain ⟨server, source, target, rfl⟩ := List.length_eq_three.mp length
      exact ⟨_, _, _, _, .three apart joined.symm⟩
    · rw [three] at length
      match parts, length with
      | [server, source, target, ping], _ => exact ⟨_, _, _, _, .four apart joined.symm⟩

lemma fields_unique {first second : List (List Char)} (apart : ∀ field ∈ first, ',' ∉ field)
    (apartToo : ∀ field ∈ second, ',' ∉ field) (some : first ≠ []) (someToo : second ≠ [])
    (same : joinWith ',' first = joinWith ',' second) : first = second := by
  rw [← splitOn_joinWith apart some, same, splitOn_joinWith apartToo someToo]

/-- A line says one thing. -/
lemma written_unique {line s r d s' r' d' : String} {p p' : Option String}
    (h : Written line s r d p) (k : Written line s' r' d' p') :
    s = s' ∧ r = r' ∧ d = d' ∧ p = p' := by
  cases h with
  | three apart joined =>
    cases k with
    | three apartToo joinedToo =>
      cases fields_unique apart apartToo (List.cons_ne_nil _ _) (List.cons_ne_nil _ _)
        (joined.symm.trans joinedToo)
      exact ⟨rfl, rfl, rfl, rfl⟩
    | four apartToo joinedToo =>
      cases fields_unique apart apartToo (List.cons_ne_nil _ _) (List.cons_ne_nil _ _)
        (joined.symm.trans joinedToo)
  | four apart joined =>
    cases k with
    | three apartToo joinedToo =>
      cases fields_unique apart apartToo (List.cons_ne_nil _ _) (List.cons_ne_nil _ _)
        (joined.symm.trans joinedToo)
    | four apartToo joinedToo =>
      cases fields_unique apart apartToo (List.cons_ne_nil _ _) (List.cons_ne_nil _ _)
        (joined.symm.trans joinedToo)
      exact ⟨rfl, rfl, rfl, rfl⟩

end Fields

section Writing

variable {line server source target : String} {ping : Option String}

lemma isField_trim {field : List Char} (apart : ',' ∉ field) :
    IsField (String.ofList (trim field)) where
  noComma := by
    rw [String.toList_ofList]
    exact fun mem => apart (mem_of_padded (padded_trim field) mem)
  trimmed := by
    rw [String.toList_ofList]
    exact isTrimmed_trim field

lemma isField_serverOf {field : String} (h : IsField field) : IsField (Line.serverOf field) := by
  rw [Line.serverOf]
  split
  · exact ⟨by decide, by decide⟩
  · exact h

lemma serverOf_ne (field : String) : Line.serverOf field ≠ "" := by
  rw [Line.serverOf]
  split
  · decide
  · assumption

/-- What a line says can be written as one. -/
lemma writable_of_written (written : Written line server source target ping) :
    Writable server source target ping := by
  cases written with
  | three apart joined =>
    simp only [List.forall_mem_cons] at apart
    obtain ⟨server, source, target, -⟩ := apart
    refine ⟨?_, serverOf_ne _, nofun⟩
    simp only [Option.toList_none, List.append_nil, List.forall_mem_cons]
    exact ⟨isField_serverOf (isField_trim server), isField_trim source, isField_trim target, nofun⟩
  | four apart joined =>
    simp only [List.forall_mem_cons] at apart
    obtain ⟨server, source, target, ping, -⟩ := apart
    rw [pingOf]
    have first := isField_serverOf (isField_trim server)
    split
    · refine ⟨?_, serverOf_ne _, nofun⟩
      simp only [Option.toList_none, List.append_nil, List.forall_mem_cons]
      exact ⟨first, isField_trim source, isField_trim target, nofun⟩
    · rename_i some
      refine ⟨?_, serverOf_ne _, fun none => some (Option.some.inj none)⟩
      simp only [Option.toList_some, List.cons_append, List.nil_append, List.forall_mem_cons]
      exact ⟨first, isField_trim source, isField_trim target, isField_trim ping, nofun⟩

lemma notMem_of_padded {field : String} {part : List Char} (h : IsField field)
    (padded : Padded field.toList part) : ',' ∉ part :=
  fun mem => h.noComma (mem_of_mem_padded padded mem (by decide))

lemma ofList_trim_of_padded {field : String} {part : List Char} (h : IsField field)
    (padded : Padded field.toList part) : String.ofList (trim part) = field := by
  rw [trim_of_padded h.trimmed padded, String.ofList_toList]

/-- A line of fields says what the fields are. -/
lemma written_of_spaced (h : Writable server source target ping)
    (spaced : Spaced ([server, source, target] ++ ping.toList) line) :
    Written line server source target ping := by
  obtain ⟨parts, each, joined⟩ := spaced
  replace each := (List.forall₂_and_left _ _).mpr ⟨h.fields, each⟩
  have apart : ∀ part ∈ parts, ',' ∉ part := by
    intro part mem
    obtain ⟨field, -, isField, padded⟩ := exists_of_forall₂ each.flip mem
    exact notMem_of_padded isField padded
  have named : Line.serverOf server = server := if_neg h.named
  cases ping with
  | none =>
    simp only [Option.toList_none, List.append_nil, List.forall₂_cons_left_iff,
      List.forall₂_nil_left_iff] at each
    obtain ⟨s, -, hs, ⟨r, -, hr, ⟨t, -, ht, rfl, rfl⟩, rfl⟩, rfl⟩ := each
    have written := Written.three apart joined
    rwa [ofList_trim_of_padded hs.1 hs.2, ofList_trim_of_padded hr.1 hr.2,
      ofList_trim_of_padded ht.1 ht.2, named] at written
  | some text =>
    simp only [Option.toList_some, List.cons_append, List.nil_append, List.forall₂_cons_left_iff,
      List.forall₂_nil_left_iff] at each
    obtain ⟨s, -, hs, ⟨r, -, hr, ⟨t, -, ht, ⟨p, -, hp, rfl, rfl⟩, rfl⟩, rfl⟩, rfl⟩ := each
    have written := Written.four apart joined
    have asked : pingOf text = some text := if_neg fun empty => h.asked (congrArg some empty)
    rwa [ofList_trim_of_padded hs.1 hs.2, ofList_trim_of_padded hr.1 hr.2,
      ofList_trim_of_padded ht.1 ht.2, ofList_trim_of_padded hp.1 hp.2, named, asked] at written

/-- A rule is written without blanks around its fields. -/
lemma spaced_write (r : Rule) :
    Spaced ([r.server, r.pattern.source, r.target] ++ r.ping.toList) (Line.write r) := by
  refine ⟨([r.server, r.pattern.source, r.target] ++ r.ping.toList).map String.toList, ?_, ?_⟩
  · rw [List.forall₂_map_right_iff, List.forall₂_same]
    exact fun field _ => padded_self field.toList
  · rw [Line.write]
    cases r.ping <;> simp [joinWith]

end Writing

section Reading

variable {line server source target : String} {ping : Option String}

/-- What a line says is made a rule if its source is a pattern. -/
theorem read_of_written (written : Written line server source target ping) :
    Line.read line =
      match Pattern.compile source with
      | .ok pattern => .ok { server, pattern, target, origin := .static, ping }
      | .error fault => .error (.pattern ⟨source, fault.message⟩) := by
  cases written with
  | @three _ source _ apart joined =>
    rw [Line.read, fields_of_joined apart (List.cons_ne_nil _ _) joined]
    simp only [List.map_cons, List.map_nil, Line.ofFields, Rule.make]
    cases Pattern.compile (String.ofList (trim source)) <;> rfl
  | @four _ source _ ping apart joined =>
    rw [Line.read, fields_of_joined apart (List.cons_ne_nil _ _) joined]
    simp only [List.map_cons, List.map_nil, Line.ofFields, Rule.make, pingOf]
    cases Pattern.compile (String.ofList (trim source)) with
    | error fault => rfl
    | ok pattern => by_cases none : String.ofList (trim ping) = "" <;> simp [none, Rule.withPing]

lemma read_of_not_hasFields (few : ¬HasFields line) :
    Line.read line = .error (.fieldCount (line.toList.count ',' + 1)) := by
  have length : (Line.fields line).length = line.toList.count ',' + 1 := by
    rw [Line.fields, List.length_map, length_splitOn]
  rw [← length, Line.read]
  rw [HasFields] at few
  unfold Line.ofFields
  split
  · rename_i three
    rw [three] at length
    simp at length
    omega
  · rename_i four
    rw [four] at length
    simp at length
    omega
  · rfl

/-- A line is read as a rule exactly if it says the rule. -/
theorem read_eq_ok_iff {r : Rule} : Line.read line = .ok r ↔
    Written line r.server r.pattern.source r.target r.ping ∧ r.origin = .static := by
  constructor
  · intro read
    by_cases fields : HasFields line
    · obtain ⟨server, source, target, ping, written⟩ := exists_written_iff.mpr fields
      rw [read_of_written written] at read
      cases compiled : Pattern.compile source with
      | error fault => simp [compiled] at read
      | ok pattern =>
        obtain rfl : _ = r := by simpa [compiled] using read
        exact ⟨compile_eq_ok compiled ▸ written, rfl⟩
    · cases read.symm.trans (read_of_not_hasFields fields)
  · rintro ⟨written, origin⟩
    rw [read_of_written written, compile_of_read r.pattern.read_source, ← origin]

/-- A line is refused for its number of fields exactly if it says nothing. -/
lemma read_eq_fieldCount_iff :
    (∃ n, Line.read line = .error (.fieldCount n)) ↔ ¬HasFields line := by
  constructor
  · rintro ⟨n, read⟩ fields
    obtain ⟨server, source, target, ping, written⟩ := exists_written_iff.mpr fields
    rw [read_of_written written] at read
    cases compiled : Pattern.compile source <;> simp [compiled] at read
  · intro few
    exact ⟨_, read_of_not_hasFields few⟩

/-- A line that says something is refused for its source only. -/
lemma isRefused_of_read {cause : PatternError} (read : Line.read line = .error (.pattern cause)) :
    IsRefused cause.source := by
  by_cases fields : HasFields line
  · obtain ⟨server, source, target, ping, written⟩ := exists_written_iff.mpr fields
    rw [read_of_written written] at read
    cases compiled : Pattern.compile source with
    | ok pattern => simp [compiled] at read
    | error fault =>
      obtain rfl : PatternError.mk source fault.message = cause := by simpa [compiled] using read
      exact isRefused_of_error compiled
  · rw [read_of_not_hasFields fields] at read
    cases read

lemma readAll_eq (lines : List String) : Line.readAll lines =
    lines.mapM fun line =>
      (Line.read line).mapError fun cause => .invalidRule line cause.reason := by
  rw [Line.readAll]
  congr
  funext line
  cases Line.read line <;> rfl

/-- Lines are read in turn, until one of them is no rule. -/
lemma readAll_eq_ok_iff {lines : List String} {rules : List Rule} :
    Line.readAll lines = .ok rules ↔
      List.Forall₂ (fun line r => Line.read line = .ok r) lines rules := by
  rw [readAll_eq, mapM_eq_ok_iff]
  simp only [mapError_eq_ok_iff]

lemma readAll_eq_error_iff {lines : List String} {fault : Fault} :
    Line.readAll lines = .error fault ↔ ∃ before line after cause,
      lines = before ++ line :: after ∧ (∀ earlier ∈ before, ∃ r, Line.read earlier = .ok r) ∧
        Line.read line = .error cause ∧ fault = .invalidRule line cause.reason := by
  rw [readAll_eq, mapM_eq_error_iff]
  simp only [mapError_eq_ok_iff, mapError_eq_error_iff]
  constructor
  · rintro ⟨before, line, after, split, passed, cause, failed, rfl⟩
    exact ⟨before, line, after, cause, split, passed, failed, rfl⟩
  · rintro ⟨before, line, after, cause, split, passed, failed, rfl⟩
    exact ⟨before, line, after, split, passed, cause, failed, rfl⟩

end Reading

/-- A rule that is read from a line is read again from the line that it is written as. What is put
on a line with blanks around its fields is read from it. Lines list a rule each, in their order, or
the fault of the first one that is no rule. -/
theorem lines_read_back :
    (∀ line r, Line.read line = .ok r → Line.read (Line.write r) = .ok r) ∧
    (∀ server source target ping pattern line, Writable server source target ping →
      Pattern.compile source = .ok pattern →
      Spaced ([server, source, target] ++ ping.toList) line →
      Line.read line = .ok { server, pattern, target, origin := .static, ping }) ∧
    (∀ lines rules, Line.readAll lines = .ok rules ↔
      List.Forall₂ (fun line r => Line.read line = .ok r) lines rules) ∧
    (∀ lines fault, Line.readAll lines = .error fault ↔ ∃ before line after cause,
      lines = before ++ line :: after ∧ (∀ earlier ∈ before, ∃ r, Line.read earlier = .ok r) ∧
        Line.read line = .error cause ∧ fault = .invalidRule line cause.reason) := by
  refine ⟨?_, ?_, fun _ _ => readAll_eq_ok_iff, fun _ _ => readAll_eq_error_iff⟩
  · intro line r read
    obtain ⟨written, origin⟩ := read_eq_ok_iff.mp read
    exact read_eq_ok_iff.mpr
      ⟨written_of_spaced (writable_of_written written) (spaced_write r), origin⟩
  · intro server source target ping pattern line writable compiled spaced
    rw [read_of_written (written_of_spaced writable spaced), compiled]

/-- A rule for every server, with a ping. -/
def spacedRule : Rule where
  server := "*"
  pattern := ⟨"/거리/", .concat [.char '/', .char '거', .char '리', .char '/'], rfl⟩
  target := "http://h/$1"
  origin := .static
  ping := some "http://h/ping"

def spacedLine : String :=
  "*\t, /거리/\u3000,http://h/$1, http://h/ping\n"

theorem lines_read_back_spacedLine :
    Writable "*" "/거리/" "http://h/$1" (some "http://h/ping") ∧
      Spaced ["*", "/거리/", "http://h/$1", "http://h/ping"] spacedLine ∧
      Line.read spacedLine = .ok spacedRule ∧
      Line.read (Line.write spacedRule) = .ok spacedRule ∧
      Line.readAll [spacedLine, "h,/a|+,d", "h"] = .error (.invalidRule "h,/a|+,d"
        (LineFault.pattern ⟨"/a|+", Pattern.Fault.message .repetitionMissing⟩).reason) := by
  obtain ⟨again, placed, -, refused⟩ := lines_read_back
  have writable : Writable "*" "/거리/" "http://h/$1" (some "http://h/ping") := by
    refine ⟨?_, by decide, by decide⟩
    simp only [Option.toList_some, List.cons_append, List.nil_append, List.forall_mem_cons]
    exact ⟨⟨by decide, by decide⟩, ⟨by decide, by decide⟩, ⟨by decide, by decide⟩,
      ⟨by decide, by decide⟩, nofun⟩
  have padded {field : String} {part : List Char} (trimmed : trim part = field.toList) :
      Padded field.toList part := (trim_eq_iff.mp trimmed).2
  have spaced : Spaced ["*", "/거리/", "http://h/$1", "http://h/ping"] spacedLine :=
    ⟨["*\t".toList, " /거리/\u3000".toList, "http://h/$1".toList, " http://h/ping\n".toList],
      .cons (padded (by decide)) (.cons (padded (by decide)) (.cons (padded (by decide))
        (.cons (padded (by decide)) .nil))), by decide⟩
  have read : Line.read spacedLine = .ok spacedRule :=
    placed _ _ _ _ spacedRule.pattern _ writable rfl spaced
  refine ⟨writable, spaced, read, again _ _ read, (refused _ _).mpr ?_⟩
  refine ⟨[spacedLine], "h,/a|+,d", ["h"], _, rfl, ?_, rfl, rfl⟩
  simp only [List.forall_mem_singleton]
  exact ⟨_, read⟩

end Signpost.Proofs

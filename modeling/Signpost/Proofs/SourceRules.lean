import Signpost.Proofs.RuleLines

/-!
# What the sources of rules add to a table

A rules file adds the rules of its keys in order, and lines of static rules add one rule each. Both
add nothing at all if only one of their patterns is refused.
-/

namespace Signpost.Proofs
open Source Text

/-- The rule that stands in a table for what is written: spelled out, with the origin it has. -/
def Entered (origin : Origin) (server source target : String) (ping : Option String) (r : Rule) :
    Prop :=
  ∃ pattern, Pattern.compile source = .ok pattern ∧
    r = { ({ server, pattern, target, origin, ping } : Rule).extend with origin }

/-- What a rules file adds to a table. -/
inductive OfFile (files : Files.Tree) (path : Files.Path) : Table → Prop
  | unreadable {fault : Files.Fault} : files.readText path = .error fault → OfFile files path []
  | invalid {text : List Char} {fault : Toml.Fault} : files.readText path = .ok text →
      (Toml.read text >>= RulesFile.decode) = .error fault → OfFile files path []
  | refused {servers : List (String × List FileRule)} {entry : String × List FileRule}
      {line : FileRule} : Holds files path servers → entry ∈ servers → line ∈ entry.2 →
      IsRefused line.route → OfFile files path []
  | rules {servers keys : List (String × List FileRule)} {rules : Table} :
      Holds files path servers → InOrder servers keys →
      List.Forall₂
        (fun line r => Entered .file (serverOfKey line.1) line.2.route line.2.dest line.2.ping r)
        (keys.flatMap fun entry => entry.2.map fun line => (entry.1, line)) rules →
      OfFile files path rules

/-- What lines of static rules add to a table. -/
inductive OfLines (lines : List String) : Table → Prop
  | refused {line server source target : String} {ping : Option String} : line ∈ lines →
      Written line server source target ping → IsRefused source → OfLines lines []
  | rules {rules : Table} :
      List.Forall₂ (fun line r => ∃ server source target ping,
        Written line server source target ping ∧ Entered .static server source target ping r)
        lines rules →
      OfLines lines rules

lemma entered_of_listed {line : String × FileRule} {r : Rule} (listed : Listed line r) :
    Entered .file (serverOfKey line.1) line.2.route line.2.dest line.2.ping
      { r.extend with origin := .file } := by
  obtain ⟨pattern, compiled, rfl⟩ := listed
  exact ⟨pattern, compiled, rfl⟩

/-- A rules file adds its rules in the order of the keys, or nothing. -/
theorem ofFile_contribution (files : Files.Tree) (path : Files.Path) :
    OfFile files path (Table.contribution .file (RulesFile.list files path)) := by
  have lists := lists_list files path
  generalize RulesFile.list files path = listed at lists
  cases lists with
  | unreadable unread => exact .unreadable (readText_eq_error_iff.mpr unread)
  | unparsable contains failed => exact .invalid (readText_eq_ok_iff.mpr contains) failed
  | @refused servers keys key line before after _ holds order split _ refused =>
    have mem : (key, line) ∈ linesOf keys := by
      rw [split]
      exact List.mem_append_right before (List.mem_cons_self ..)
    obtain ⟨entry, inKeys, mem⟩ := List.mem_flatMap.mp mem
    obtain ⟨line, inEntry, ⟨⟩⟩ := List.mem_map.mp mem
    exact .refused holds (mem_of_filters order.same inKeys) inEntry (isRefused_of_error refused)
  | rules holds order each =>
    refine .rules holds order ?_
    rw [Table.contribution, Table.ofSource, List.forall₂_map_right_iff]
    exact each.imp fun _ _ => entered_of_listed

lemma entered_unique {origin : Origin} {server source target : String} {ping : Option String}
    {r t : Rule} (h : Entered origin server source target ping r)
    (k : Entered origin server source target ping t) : r = t := by
  obtain ⟨pattern, compiled, rfl⟩ := h
  obtain ⟨other, compiledToo, rfl⟩ := k
  obtain rfl := Except.ok.inj (compiled.symm.trans compiledToo)
  rfl

lemma servers_unique {files : Files.Tree} {path : Files.Path}
    {first second : List (String × List FileRule)} (h : Holds files path first)
    (k : Holds files path second) : first = second := by
  obtain ⟨text, read, decoded⟩ := h
  obtain ⟨other, readToo, decodedToo⟩ := k
  obtain rfl := Except.ok.inj (read.symm.trans readToo)
  exact Except.ok.inj (decoded.symm.trans decodedToo)

lemma not_entered_of_isRefused {origin : Origin} {server source target : String}
    {ping : Option String} {r : Rule} (refused : IsRefused source) :
    ¬Entered origin server source target ping r :=
  fun ⟨pattern, compiled, _⟩ => refused pattern compiled

/-- A rules file whose rules can all be entered adds these rules and nothing else. -/
lemma eq_of_ofFile {files : Files.Tree} {path : Files.Path} {t rules : Table}
    {servers keys : List (String × List FileRule)} (holds : Holds files path servers)
    (order : InOrder servers keys)
    (entered : List.Forall₂
      (fun line r => Entered .file (serverOfKey line.1) line.2.route line.2.dest line.2.ping r)
      (keys.flatMap fun entry => entry.2.map fun line => (entry.1, line)) rules)
    (h : OfFile files path t) : t = rules := by
  cases h with
  | unreadable failed =>
    obtain ⟨text, read, -⟩ := holds
    cases read.symm.trans failed
  | invalid read failed =>
    obtain ⟨text, readToo, decoded⟩ := holds
    obtain rfl := Except.ok.inj (read.symm.trans readToo)
    cases decoded.symm.trans failed
  | refused holdsToo inServers inEntry refused =>
    obtain rfl := servers_unique holds holdsToo
    have inKeys := mem_of_filters (fun key => (order.same key).symm) inServers
    obtain ⟨r, -, entered⟩ := exists_of_forall₂ entered
      (List.mem_flatMap.mpr ⟨_, inKeys, List.mem_map_of_mem inEntry⟩)
    exact absurd entered (not_entered_of_isRefused refused)
  | rules holdsToo orderToo enteredToo =>
    obtain rfl := servers_unique holds holdsToo
    obtain rfl := eq_of_sorted order.sorted orderToo.sorted fun key =>
      (order.same key).trans (orderToo.same key).symm
    refine List.right_unique_forall₂' ?_ enteredToo entered
    exact fun _ _ _ => entered_unique

/-- A rules file determines what it adds to a table. -/
theorem ofFile_unique {files : Files.Tree} {path : Files.Path} {t u : Table}
    (h : OfFile files path t) (k : OfFile files path u) : t = u := by
  have second := k
  cases k with
  | rules holds order entered => exact eq_of_ofFile holds order entered h
  | _ =>
    cases h with
    | rules holds order entered => exact (eq_of_ofFile holds order entered second).symm
    | _ => rfl

/-- A rules file adds these rules exactly if they are what is read from it. -/
theorem ofFile_iff {files : Files.Tree} {path : Files.Path} {t : Table} :
    OfFile files path t ↔ t = Table.contribution .file (RulesFile.list files path) := by
  constructor
  · intro h
    exact ofFile_unique h (ofFile_contribution files path)
  · rintro rfl
    exact ofFile_contribution files path

/-- Lines of static rules that are valid add a rule each, in their order, or nothing. -/
theorem ofLines_contribution {lines : List String} (fields : ∀ line ∈ lines, HasFields line) :
    OfLines lines (Table.contribution .static (Line.readAll lines)) := by
  cases hread : Line.readAll lines with
  | error fault =>
    obtain ⟨before, line, after, cause, split, -, read, -⟩ := readAll_eq_error_iff.mp hread
    have mem : line ∈ lines := by
      rw [split]
      exact List.mem_append_right before (List.mem_cons_self ..)
    obtain ⟨server, source, target, ping, written⟩ := exists_written_iff.mpr (fields line mem)
    refine .refused mem written fun pattern compiled => ?_
    rw [read_of_written written, compiled] at read
    cases read
  | ok rules =>
    refine .rules ?_
    rw [Table.contribution, Table.ofSource, List.forall₂_map_right_iff]
    refine (readAll_eq_ok_iff.mp hread).imp fun line r read => ?_
    obtain ⟨written, origin⟩ := read_eq_ok_iff.mp read
    refine ⟨_, _, _, _, written, r.pattern, compile_of_read r.pattern.read_source, ?_⟩
    rw [← origin]

lemma eq_of_ofLines {lines : List String} {t rules : Table}
    (entered : List.Forall₂ (fun line r => ∃ server source target ping,
      Written line server source target ping ∧ Entered .static server source target ping r)
      lines rules)
    (h : OfLines lines t) : t = rules := by
  cases h with
  | refused inLines written refused =>
    obtain ⟨r, -, server, source, target, ping, writtenToo, entered⟩ :=
      exists_of_forall₂ entered inLines
    obtain ⟨-, rfl, -, -⟩ := written_unique written writtenToo
    exact absurd entered (not_entered_of_isRefused refused)
  | rules enteredToo =>
    refine List.right_unique_forall₂' ?_ enteredToo entered
    rintro line r t ⟨_, _, _, _, written, hr⟩ ⟨_, _, _, _, writtenToo, ht⟩
    obtain ⟨rfl, rfl, rfl, rfl⟩ := written_unique written writtenToo
    exact entered_unique hr ht

/-- Lines of static rules determine what they add to a table. -/
theorem ofLines_unique {lines : List String} {t u : Table} (h : OfLines lines t)
    (k : OfLines lines u) : t = u := by
  cases k with
  | rules entered => exact eq_of_ofLines entered h
  | refused inLines written refused =>
    cases h with
    | rules entered => exact (eq_of_ofLines entered (.refused inLines written refused)).symm
    | refused => rfl

theorem ofLines_iff {lines : List String} (fields : ∀ line ∈ lines, HasFields line) {t : Table} :
    OfLines lines t ↔ t = Table.contribution .static (Line.readAll lines) := by
  constructor
  · intro h
    exact ofLines_unique h (ofLines_contribution fields)
  · rintro rfl
    exact ofLines_contribution fields

end Signpost.Proofs

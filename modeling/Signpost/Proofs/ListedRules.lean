import Signpost.Proofs.ConfigurationFile
import Signpost.Proofs.KeyOrder

/-!
# What a rules file lists

A rules file lists a rule for each rule in it, the keys in their order, or it lists nothing at all
and says what is wrong first.
-/

namespace Signpost.Proofs
open Source Text

/-- A source that is refused as a pattern. -/
def IsRefused (source : String) : Prop :=
  ∀ pattern, Pattern.compile source ≠ .ok pattern

/-- Why no text can be read at a path. -/
inductive Unreadable (files : Files.Tree) (path : Files.Path) : Files.Fault → Prop
  | missing {fault : Files.Fault} (walk : files.walk path = .error fault) :
      Unreadable files path fault
  | directory {id : Files.Identity} (walk : files.walk path = .ok ⟨id, .directory⟩) :
      Unreadable files path .isDirectory
  | notText {id : Files.Identity} {content : Bytes}
      (walk : files.walk path = .ok ⟨id, .file content⟩) (noText : ¬IsText content) :
      Unreadable files path .notText

/-- The file at a path holds the bytes of a text. -/
def Contains (files : Files.Tree) (path : Files.Path) (text : List Char) : Prop :=
  ∃ id, files.walk path = .ok ⟨id, .file (Utf8.encode (String.ofList text))⟩

/-- A path as it is shown in messages. -/
def shown (path : Files.Path) : String :=
  String.ofList (Utf8.decodeLossy path)

/-- The rules under the keys, one after the other. -/
def linesOf (keys : List (String × List FileRule)) : List (String × FileRule) :=
  keys.flatMap fun entry => entry.2.map fun line => (entry.1, line)

/-- The rule that is listed for what is written under a key. -/
def Listed (line : String × FileRule) (r : Rule) : Prop :=
  ∃ pattern, Pattern.compile line.2.route = .ok pattern ∧
    r = { server := serverOfKey line.1, pattern, target := line.2.dest, origin := .file,
          ping := line.2.ping }

/-- What a rules file lists. A fault names the path and what is wrong. -/
inductive Lists (files : Files.Tree) (path : Files.Path) : Except Fault (List Rule) → Prop
  | unreadable {fault : Files.Fault} (unread : Unreadable files path fault) :
      Lists files path (.error (.unreadable (shown path) fault))
  | unparsable {text : List Char} {fault : Toml.Fault} (contains : Contains files path text)
      (failed : (Toml.read text >>= RulesFile.decode) = .error fault) :
      Lists files path (.error (.unparsable (shown path) fault))
  | refused {servers keys : List (String × List FileRule)} {key : String} {line : FileRule}
      {before after : List (String × FileRule)} {fault : Pattern.Fault}
      (holds : Holds files path servers) (order : InOrder servers keys)
      (split : linesOf keys = before ++ (key, line) :: after)
      (compiled : ∀ earlier ∈ before, ¬IsRefused earlier.2.route)
      (refused : Pattern.compile line.route = .error fault) :
      Lists files path (.error (.badRoute (shown path) ⟨line.route, fault.message⟩))
  | rules {servers keys : List (String × List FileRule)} {rules : List Rule}
      (holds : Holds files path servers) (order : InOrder servers keys)
      (each : List.Forall₂ Listed (linesOf keys) rules) : Lists files path (.ok rules)

lemma isRefused_of_error {source : String} {fault : Pattern.Fault}
    (failed : Pattern.compile source = .error fault) : IsRefused source := by
  intro pattern compiled
  cases failed.symm.trans compiled

lemma not_isRefused_iff {source : String} :
    ¬IsRefused source ↔ ∃ pattern, Pattern.compile source = .ok pattern := by
  simp [IsRefused]

section Reading

variable {files : Files.Tree} {path : Files.Path}

lemma text_eq_ok_iff {node : Files.Node} {text : List Char} :
    Files.Tree.Node.text node = .ok text ↔
      node = .file (Utf8.encode (String.ofList text)) := by
  cases node with
  | directory => simp [Files.Tree.Node.text]
  | file content =>
    rw [Files.Node.file.injEq, ← Utf8.decode?_eq_some_iff, Files.Tree.Node.text]
    cases Utf8.decode? content <;> simp

lemma readText_eq_ok_iff {text : List Char} :
    files.readText path = .ok text ↔ Contains files path text := by
  rw [Files.Tree.readText, bind_eq_ok_iff]
  constructor
  · rintro ⟨⟨id, node⟩, walk, read⟩
    obtain rfl := text_eq_ok_iff.mp read
    exact ⟨id, walk⟩
  · rintro ⟨id, walk⟩
    exact ⟨_, walk, text_eq_ok_iff.mpr rfl⟩

lemma text_of_noText {content : Bytes} (noText : ¬IsText content) :
    Files.Tree.Node.text (.file content) = .error .notText := by
  rw [← isSome_decode?_iff, Option.not_isSome_iff_eq_none] at noText
  rw [Files.Tree.Node.text, noText]

lemma readText_eq_error_iff {fault : Files.Fault} :
    files.readText path = .error fault ↔ Unreadable files path fault := by
  rw [Files.Tree.readText]
  constructor
  · intro h
    cases walk : files.walk path with
    | error missing =>
      rw [walk] at h
      cases h
      exact .missing walk
    | ok entry =>
      obtain ⟨id, node⟩ := entry
      rw [walk] at h
      replace h : Files.Tree.Node.text node = .error fault := h
      cases node with
      | directory =>
        cases h
        exact .directory walk
      | file content =>
        by_cases isText : IsText content
        · obtain ⟨text, rfl⟩ := isText
          have read : Files.Tree.Node.text (.file (Utf8.encode text)) = .ok text.toList :=
            text_eq_ok_iff.mpr (by rw [String.ofList_toList])
          cases h.symm.trans read
        · cases h.symm.trans (text_of_noText isText)
          exact .notText walk isText
  · intro unreadable
    cases unreadable with
    | missing walk =>
      rw [walk]
      rfl
    | directory walk =>
      rw [walk]
      rfl
    | notText walk noText =>
      rw [walk]
      exact text_of_noText noText

lemma rule_eq_ok_iff {line : String × FileRule} {r : Rule} :
    RulesFile.rule (serverOfKey line.1) line.2 = .ok r ↔ Listed line r := by
  unfold RulesFile.rule Rule.make Listed
  cases Pattern.compile line.2.route with
  | error fault => simp
  | ok pattern => simp [eq_comm]

lemma rule_eq_error_iff {server : String} {line : FileRule} {cause : PatternError} :
    RulesFile.rule server line = .error cause ↔
      ∃ fault, Pattern.compile line.route = .error fault ∧ ⟨line.route, fault.message⟩ = cause := by
  unfold RulesFile.rule Rule.make
  cases Pattern.compile line.route with
  | error fault => simp
  | ok pattern => simp

lemma list_of_unreadable {fault : Files.Fault} (unread : Unreadable files path fault) :
    RulesFile.list files path = .error (.unreadable (shown path) fault) := by
  rw [RulesFile.list, readText_eq_error_iff.mpr unread]
  rfl

lemma list_of_unparsable {text : List Char} {fault : Toml.Fault}
    (contains : Contains files path text)
    (failed : (Toml.read text >>= RulesFile.decode) = .error fault) :
    RulesFile.list files path = .error (.unparsable (shown path) fault) := by
  rw [RulesFile.list, readText_eq_ok_iff.mpr contains]
  dsimp only [RulesFile.read]
  rw [failed]
  rfl

/-- A file that can be decoded lists what is made of its rules in order. -/
lemma list_of_holds {servers keys : List (String × List FileRule)}
    (holds : Holds files path servers) (order : InOrder servers keys) :
    RulesFile.list files path =
      match (linesOf keys).mapM fun line => RulesFile.rule (serverOfKey line.1) line.2 with
      | .ok made => .ok made
      | .error cause => .error (.badRoute (shown path) cause) := by
  obtain ⟨text, read, decoded⟩ := holds
  have inOrder := inOrder_keysInOrder servers
  obtain rfl := eq_of_sorted order.sorted inOrder.sorted fun key =>
    (order.same key).trans (inOrder.same key).symm
  unfold RulesFile.list
  rw [read]
  dsimp only [RulesFile.read]
  rw [decoded]
  dsimp only
  rw [flatMap_ordered, List.mapM_map]
  rfl

theorem lists_list (files : Files.Tree) (path : Files.Path) :
    Lists files path (RulesFile.list files path) := by
  cases read : files.readText path with
  | error fault =>
    have unread := readText_eq_error_iff.mp read
    exact list_of_unreadable unread ▸ .unreadable unread
  | ok text =>
    cases decoded : Toml.read text >>= RulesFile.decode with
    | error fault =>
      have contains := readText_eq_ok_iff.mp read
      exact list_of_unparsable contains decoded ▸ .unparsable contains decoded
    | ok servers =>
      have holds : Holds files path servers := ⟨text, read, decoded⟩
      have order := inOrder_keysInOrder servers
      rw [list_of_holds holds order]
      split
      · rename_i made each
        rw [mapM_eq_ok_iff] at each
        exact .rules holds order (each.imp fun _ _ => rule_eq_ok_iff.mp)
      · rename_i cause failed
        obtain ⟨before, ⟨key, line⟩, after, split, passed, failed⟩ := mapM_eq_error_iff.mp failed
        obtain ⟨fault, refused, rfl⟩ := rule_eq_error_iff.mp failed
        refine .refused holds order split (fun earlier mem refused => ?_) refused
        obtain ⟨r, made⟩ := passed earlier mem
        obtain ⟨pattern, compiled, -⟩ := rule_eq_ok_iff.mp made
        exact refused pattern compiled

/-- What a rules file lists is determined by the file. -/
theorem lists_iff {out : Except Fault (List Rule)} :
    Lists files path out ↔ out = RulesFile.list files path := by
  refine ⟨fun h => ?_, fun h => h ▸ lists_list files path⟩
  cases h with
  | unreadable unread => exact (list_of_unreadable unread).symm
  | unparsable contains failed => exact (list_of_unparsable contains failed).symm
  | refused holds order split compiled refused =>
    rw [list_of_holds holds order, mapM_eq_error_iff.mpr
      ⟨_, _, _, split, ?_, rule_eq_error_iff.mpr ⟨_, refused, rfl⟩⟩]
    intro earlier mem
    obtain ⟨pattern, made⟩ := not_isRefused_iff.mp (compiled earlier mem)
    exact ⟨_, rule_eq_ok_iff.mpr ⟨pattern, made, rfl⟩⟩
  | rules holds order each =>
    have made := mapM_eq_ok_iff.mpr (each.imp fun _ _ => rule_eq_ok_iff.mpr)
    rw [list_of_holds holds order, made]

end Reading

end Signpost.Proofs

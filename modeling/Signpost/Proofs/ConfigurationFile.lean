import Mathlib.Logic.Basic
import Signpost.Settings.Load
import Signpost.Text.Utf8.Lemmas

/-!
# The configuration file

When a configuration file is given by a name that is a text, the settings come from this file or
cannot be loaded, and no other variable plays a part. A name that is no text is passed over, and the
settings come from the other variables.
-/

namespace Signpost.Proofs
open Settings Text

/-- The variable that names the configuration file. -/
def configName : String := "PROXY_CONFIG_FILE"

/-- Bytes that are the encoding of a text. -/
def IsText (bytes : Bytes) : Prop :=
  ∃ text : String, bytes = Utf8.encode text

lemma isSome_decode?_iff {bytes : Bytes} : (Utf8.decode? bytes).isSome ↔ IsText bytes := by
  rw [Option.isSome_iff_exists]
  simp only [Utf8.decode?_eq_some_iff, IsText]
  constructor
  · rintro ⟨text, h⟩
    exact ⟨_, h⟩
  · rintro ⟨text, h⟩
    exact ⟨text.toList, by rwa [String.ofList_toList]⟩

lemma configPath?_eq_some_iff {env : Environment} {path : Bytes} :
    configPath? env = some path ↔ env.lookup configName = some path ∧ IsText path := by
  rw [← isSome_decode?_iff, configPath?, configName]
  cases env.lookup "PROXY_CONFIG_FILE" with
  | none => simp
  | some given =>
    dsimp only
    split
    · rename_i isText
      constructor
      · rintro ⟨rfl⟩
        exact ⟨rfl, isText⟩
      · exact And.left
    · rename_i noText
      constructor
      · rintro ⟨⟩
      · rintro ⟨⟨rfl⟩, isText⟩
        exact absurd isText noText

lemma configPath?_eq_none_iff {env : Environment} :
    configPath? env = none ↔ ∀ path, env.lookup configName = some path → ¬IsText path := by
  rw [Option.eq_none_iff_forall_ne_some]
  simp only [ne_eq, configPath?_eq_some_iff, not_and]

/-- A file that is named by a text is all that is read. -/
lemma load_of_isText {env : Environment} {path : Bytes} (given : env.lookup configName = some path)
    (isText : IsText path) (files : Files.Tree) : load env files = ofFile files path := by
  rw [load, configPath?_eq_some_iff.mpr ⟨given, isText⟩]

lemma load_of_not_isText {env : Environment} {path : Bytes}
    (given : env.lookup configName = some path) (noText : ¬IsText path) (files : Files.Tree) :
    load env files = ofEnv env := by
  have nothing : configPath? env = none := by
    rw [configPath?_eq_none_iff]
    intro other hother
    obtain rfl : path = other := Option.some.inj (given.symm.trans hother)
    exact noText
  rw [load, nothing]

/-- Only the configuration file is named. -/
def named (path : Bytes) : Environment :=
  [(configName, path)]

/-- The configuration file is named, and another variable asks for a rules file. -/
def namedWithRules (path : Bytes) : Environment :=
  [(configName, path), ("PROXY_FILE_ENABLED", Utf8.encode "true")]

lemma ofEnv_named (path : Bytes) :
    ofEnv (named path) = .ok {} ∧
      ofEnv (namedWithRules path) = .ok { file := { enabled := true } } := by
  constructor <;> rfl

lemma load_named_ne {path : Bytes} (noText : ¬IsText path) (files : Files.Tree) :
    load (named path) files ≠ load (namedWithRules path) files := by
  rw [load_of_not_isText rfl noText, load_of_not_isText rfl noText, (ofEnv_named path).1,
    (ofEnv_named path).2]
  intro same
  exact absurd (Except.ok.inj same) (by decide)

/-- When the configuration file is named by a text, the settings are those of this file or there are
none. The other variables make no difference exactly if the name is a text. -/
theorem configuration_file_excludes_variables (path : Bytes) :
    (IsText path → ∀ env files, env.lookup configName = some path →
      load env files = ofFile files path) ∧
    ((∀ env other files, env.lookup configName = some path → other.lookup configName = some path →
      load env files = load other files) ↔ IsText path) := by
  refine ⟨fun isText env files given => load_of_isText given isText files, ?_, ?_⟩
  · intro same
    refine Classical.byContradiction fun noText => ?_
    exact load_named_ne noText {} (same (named path) (namedWithRules path) {} rfl rfl)
  · intro isText env other files given givenOther
    rw [load_of_isText given isText, load_of_isText givenOther isText]

/-- A configuration file that asks for static rules. -/
def staticRulesFile : Files.Tree where
  fresh := 2
  entries := [(⟨Files.root, Utf8.encode "c.toml"⟩,
    ⟨1, .file (Utf8.encode "[static]\nenabled = true\n")⟩)]

theorem configuration_file_excludes_variables_staticRules :
    IsText (Utf8.encode "c.toml") ∧
      (load (namedWithRules (Utf8.encode "c.toml")) staticRulesFile).toOption =
        some { staticRules := { enabled := true } } := by
  have isText : IsText (Utf8.encode "c.toml") := ⟨_, rfl⟩
  obtain ⟨ofFile, -⟩ := configuration_file_excludes_variables (Utf8.encode "c.toml")
  refine ⟨isText, ?_⟩
  rw [ofFile isText _ staticRulesFile rfl]
  decide +kernel

lemma not_isText_FF : ¬IsText [0xFF] := by
  rw [← isSome_decode?_iff]
  decide

/-- A name that no text has is passed over, and the settings come from the other variables. -/
theorem broken_name_passed_over :
    (named [0xFF]).lookup configName = (namedWithRules [0xFF]).lookup configName ∧
      load (namedWithRules [0xFF]) {} = .ok { file := { enabled := true } } ∧
      load (named [0xFF]) {} ≠ load (namedWithRules [0xFF]) {} := by
  refine ⟨rfl, ?_, load_named_ne not_isText_FF {}⟩
  rw [load_of_not_isText rfl not_isText_FF, (ofEnv_named _).2]

end Signpost.Proofs

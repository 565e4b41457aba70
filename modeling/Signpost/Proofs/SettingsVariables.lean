import Signpost.Proofs.KeyedEntries
import Signpost.Proofs.SettingsTexts
import Signpost.Proofs.SettingsValidity

/-!
# Settings in variables

All settings that are valid can be given in variables, if their texts can stand there: what each
variable holds is read as the setting that it was written for.
-/

namespace Signpost.Proofs
open Settings Text

/-- The variables that settings are read from. -/
inductive Variable
  | logLevel
  | logFormat
  | logOutput
  | dockerEnabled
  | network
  | labelStart
  | excluded
  | attempts
  | interval
  | fileEnabled
  | rulesPath
  | staticEnabled
  | staticRules

def allVariables : List Variable :=
  [.logLevel, .logFormat, .logOutput, .dockerEnabled, .network, .labelStart, .excluded, .attempts,
    .interval, .fileEnabled, .rulesPath, .staticEnabled, .staticRules]

namespace Variable

def name : Variable → String
  | logLevel => "PROXY_LOG_LEVEL"
  | logFormat => "PROXY_LOG_FORMAT"
  | logOutput => "PROXY_LOG_OUTPUT"
  | dockerEnabled => "PROXY_DOCKER_ENABLED"
  | network => "PROXY_DOCKER_NETWORK"
  | labelStart => "PROXY_LABEL_PREFIX"
  | excluded => "PROXY_DOCKER_EXCLUDE"
  | attempts => "PROXY_DOCKER_RETRY_ATTEMPTS"
  | interval => "PROXY_DOCKER_RETRY_INTERVAL"
  | fileEnabled => "PROXY_FILE_ENABLED"
  | rulesPath => "PROXY_FILE_PATH"
  | staticEnabled => "PROXY_STATIC_ENABLED"
  | staticRules => "PROXY_STATIC_RULES"

/-- The text of a setting: flags as words, numbers in decimal, and lists with separators. -/
def text (s : Settings) : Variable → String
  | logLevel => s.logging.level.word
  | logFormat => s.logging.format.word
  | logOutput =>
    match s.logging.output with
    | .stdout => "stdout"
    | .file path => path
  | dockerEnabled => toString s.docker.enabled
  | network => s.docker.network
  | labelStart => s.docker.labelStart
  | excluded => listText ',' s.docker.excluded
  | attempts => toString s.docker.retrying.attempts.toNat
  | interval => toString s.docker.retrying.interval.toNat
  | fileEnabled => toString s.file.enabled
  | rulesPath => s.file.path
  | staticEnabled => toString s.staticRules.enabled
  | staticRules => listText ';' s.staticRules.rules

/-- The texts that give a setting. Words may be in any letter case, and what is not a word has one
text. -/
def Gives (s : Settings) (text : String) : Variable → Prop
  | logLevel => InAnyCase s.logging.level.word text
  | logFormat => InAnyCase s.logging.format.word text
  | logOutput =>
    match s.logging.output with
    | .stdout => text = "" ∨ InAnyCase "stdout" text
    | .file path => text = path
  | v => text = v.text s

end Variable

/-- The settings are what the variables hold, and no file is named. -/
structure Carries (env : Environment) (s : Settings) : Prop where
  noFile : env.lookup configName = none
  holds : ∀ v : Variable, ∃ text,
    env.lookup v.name = some (Utf8.encode text) ∧ v.Gives s text

/-- The texts of settings can stand in variables. A path of a log file must not be a word for the
standard output. -/
structure Portable (s : Settings) : Prop where
  network : IsTrimmed s.docker.network.toList
  labelStart : IsTrimmed s.docker.labelStart.toList
  excluded : ∀ item ∈ s.docker.excluded, IsItem ',' item
  rulesPath : IsTrimmed s.file.path.toList
  rules : ∀ item ∈ s.staticRules.rules, IsItem ';' item
  output : ∀ path, s.logging.output = .file path →
    IsTrimmed path.toList ∧ path ≠ "" ∧ ¬InAnyCase "stdout" path
  noNul : ∀ v : Variable, '\x00' ∉ (v.text s).toList

section Reading

variable {env : Environment} {name text : String}

lemma readVar_of_given {α : Type} {read : List Char → Except String α} {a : α} (default : α)
    (given : env.lookup name = some (Utf8.encode text)) (reads : read (trim text.toList) = .ok a) :
    readVar read env name default = .ok a := by
  rw [readVar, given]
  dsimp only
  rw [Utf8.decode?_encode]
  dsimp only
  rw [reads]

lemma readText_of_given (default : String) (given : env.lookup name = some (Utf8.encode text))
    (trimmed : IsTrimmed text.toList) : readVar readText env name default = .ok text :=
  readVar_of_given default given (by rw [trim_of_isTrimmed trimmed, readText, String.ofList_toList])

lemma readFlag_of_given {b : Bool} (default : Bool)
    (given : env.lookup name = some (Utf8.encode (toString b))) :
    readVar readFlag env name default = .ok b :=
  readVar_of_given default given (by cases b <;> decide)

/-- Blanks around the value of a variable do not count for the list that it holds. -/
lemma readList_of_text (separator : Char) (given : env.lookup name = some (Utf8.encode text)) :
    readList env name separator = .ok (listItems separator text.toList) := by
  have read : readVar readText env name "" = .ok (String.ofList (trim text.toList)) :=
    readVar_of_given "" given rfl
  rw [readList, read]
  change Except.ok (listItems separator _) = _
  rw [String.toList_ofList, ← listItems_of_padded (padded_trim _)]

lemma readList_of_given {separator : Char} {items : List String}
    (given : env.lookup name = some (Utf8.encode (listText separator items)))
    (each : ∀ item ∈ items, IsItem separator item) : readList env name separator = .ok items := by
  rw [readList_of_text separator given, listItems_listText each]

lemma readNumber_decimal {limit n : Nat} (fits : n ≤ limit) :
    readNumber limit (trim (toString n).toList) = .ok n := by
  rw [trim_of_isTrimmed (isTrimmed_decimal n), readNumber, readNat_decimal fits]

lemma readUInt32_of_given {n : UInt32} (default : UInt32)
    (given : env.lookup name = some (Utf8.encode (toString n.toNat))) :
    readVar readUInt32 env name default = .ok n := by
  apply readVar_of_given default given
  have fits : n.toNat ≤ max32 := Nat.le_pred_of_lt n.toNat_lt
  rw [readUInt32, readNumber_decimal fits]
  exact congrArg Except.ok UInt32.ofNat_toNat

lemma readUInt64_of_given {n : UInt64} (default : UInt64)
    (given : env.lookup name = some (Utf8.encode (toString n.toNat))) :
    readVar readUInt64 env name default = .ok n := by
  apply readVar_of_given default given
  have fits : n.toNat ≤ max64 := Nat.le_pred_of_lt n.toNat_lt
  rw [readUInt64, readNumber_decimal fits]
  exact congrArg Except.ok UInt64.ofNat_toNat

end Reading

section Words

variable {text : String}

lemma isLower_of_level (level : LogLevel) : ∀ c ∈ level.word.toList, c.isLower = true := by
  cases level <;> exact List.all_eq_true.mp (by decide)

lemma isLower_of_format (format : LogFormat) : ∀ c ∈ format.word.toList, c.isLower = true := by
  cases format <;> exact List.all_eq_true.mp (by decide)

lemma isLower_of_stdout : ∀ c ∈ "stdout".toList, c.isLower = true :=
  List.all_eq_true.mp (by decide)

lemma ofWord?_level {level : LogLevel} (cased : InAnyCase level.word text) :
    LogLevel.ofWord? text.toList = some level := by
  rw [LogLevel.ofWord?, (folded_eq_iff (isLower_of_level level)).mpr cased, String.ofList_toList]
  cases level <;> rfl

lemma read_format {format : LogFormat} (cased : InAnyCase format.word text) :
    LogFormat.read text.toList = .ok format := by
  rw [LogFormat.read, LogFormat.ofWord?, (folded_eq_iff (isLower_of_format format)).mpr cased,
    String.ofList_toList]
  cases format <;> rfl

lemma ofWord_stdout (cased : InAnyCase "stdout" text) :
    LogOutput.ofWord text.toList = .stdout := by
  rw [LogOutput.ofWord, (folded_eq_iff isLower_of_stdout).mpr cased]
  rfl

lemma ofWord_path (some : text ≠ "") (other : ¬InAnyCase "stdout" text) :
    LogOutput.ofWord text.toList = .file text := by
  have folds : folded text.toList ≠ "stdout".toList := mt (folded_eq_iff isLower_of_stdout).mp other
  have solid : folded text.toList ≠ [] := by
    rw [folded, ne_eq, List.map_eq_nil_iff, String.toList_eq_nil_iff]
    exact some
  unfold LogOutput.ofWord
  split
  · rename_i empty
    exact absurd (String.ofList_eq_empty_iff.mp empty) solid
  · rename_i word
    rw [← word, String.toList_ofList] at folds
    exact absurd rfl folds
  · rw [String.ofList_toList]

end Words

section Loading

variable {env : Environment} {s : Settings}

lemma given_of_carries (carries : Carries env s) (v : Variable)
    (one : ∀ text, v.Gives s text → text = v.text s) :
    env.lookup v.name = some (Utf8.encode (v.text s)) := by
  obtain ⟨text, given, gives⟩ := carries.holds v
  rwa [one text gives] at given

lemma ofWord_of_gives {text : String} (portable : Portable s)
    (gives : Variable.logOutput.Gives s text) :
    LogOutput.ofWord (trim text.toList) = s.logging.output := by
  simp only [Variable.Gives] at gives
  split at gives
  · rename_i stdout
    rw [stdout]
    rcases gives with rfl | word
    · rfl
    · rw [trim_of_isTrimmed (isTrimmed_of_inAnyCase isLower_of_stdout word), ofWord_stdout word]
  · rename_i path file
    obtain ⟨trimmed, some, other⟩ := portable.output path file
    rw [gives, file, trim_of_isTrimmed trimmed, ofWord_path some other]

lemma ofEnv_logging (portable : Portable s) (carries : Carries env s) :
    Logging.ofEnv env = .ok s.logging := by
  obtain ⟨level, givenLevel, isLevel⟩ := carries.holds .logLevel
  obtain ⟨format, givenFormat, isFormat⟩ := carries.holds .logFormat
  obtain ⟨output, givenOutput, isOutput⟩ := carries.holds .logOutput
  have trimmedLevel := isTrimmed_of_inAnyCase (isLower_of_level _) isLevel
  have trimmedFormat := isTrimmed_of_inAnyCase (isLower_of_format _) isFormat
  have readLevel : readVar readText env "PROXY_LOG_LEVEL" "info" = .ok level :=
    readText_of_given "info" givenLevel trimmedLevel
  have readFormat : readVar LogFormat.read env "PROXY_LOG_FORMAT" .text = .ok s.logging.format :=
    readVar_of_given _ givenFormat (by rw [trim_of_isTrimmed trimmedFormat, read_format isFormat])
  have readOutput : readVar (fun text => .ok (LogOutput.ofWord text)) env "PROXY_LOG_OUTPUT"
      .stdout = .ok s.logging.output :=
    readVar_of_given _ givenOutput (by rw [ofWord_of_gives portable isOutput])
  rw [Logging.ofEnv, readLevel, readFormat, readOutput]
  simp only [bind, Except.bind, ofWord?_level isLevel, pure, Except.pure]

lemma ofEnv_docker (portable : Portable s) (carries : Carries env s) :
    Docker.ofEnv env = .ok s.docker := by
  have enabled : readVar readFlag env "PROXY_DOCKER_ENABLED" false = .ok s.docker.enabled :=
    readFlag_of_given false (given_of_carries carries .dockerEnabled fun _ => id)
  have network : readVar readText env "PROXY_DOCKER_NETWORK" "" = .ok s.docker.network :=
    readText_of_given "" (given_of_carries carries .network fun _ => id) portable.network
  have labelStart : readVar readText env "PROXY_LABEL_PREFIX" "reproxy." =
      .ok s.docker.labelStart :=
    readText_of_given _ (given_of_carries carries .labelStart fun _ => id) portable.labelStart
  have excluded : readList env "PROXY_DOCKER_EXCLUDE" ',' = .ok s.docker.excluded :=
    readList_of_given (given_of_carries carries .excluded fun _ => id) portable.excluded
  have attempts : readVar readUInt32 env "PROXY_DOCKER_RETRY_ATTEMPTS" 3 =
      .ok s.docker.retrying.attempts :=
    readUInt32_of_given 3 (given_of_carries carries .attempts fun _ => id)
  have interval : readVar readUInt64 env "PROXY_DOCKER_RETRY_INTERVAL" 2 =
      .ok s.docker.retrying.interval :=
    readUInt64_of_given 2 (given_of_carries carries .interval fun _ => id)
  rw [Docker.ofEnv, enabled, network, labelStart, excluded, attempts, interval]
  rfl

lemma ofEnv_file (portable : Portable s) (carries : Carries env s) :
    RuleFile.ofEnv env = .ok s.file := by
  have enabled : readVar readFlag env "PROXY_FILE_ENABLED" false = .ok s.file.enabled :=
    readFlag_of_given false (given_of_carries carries .fileEnabled fun _ => id)
  have path : readVar readText env "PROXY_FILE_PATH" "routes.toml" = .ok s.file.path :=
    readText_of_given _ (given_of_carries carries .rulesPath fun _ => id) portable.rulesPath
  rw [RuleFile.ofEnv, enabled, path]
  rfl

lemma ofEnv_staticRules (portable : Portable s) (carries : Carries env s) :
    StaticRules.ofEnv env = .ok s.staticRules := by
  have enabled : readVar readFlag env "PROXY_STATIC_ENABLED" false = .ok s.staticRules.enabled :=
    readFlag_of_given false (given_of_carries carries .staticEnabled fun _ => id)
  have rules : readList env "PROXY_STATIC_RULES" ';' = .ok s.staticRules.rules :=
    readList_of_given (given_of_carries carries .staticRules fun _ => id) portable.rules
  rw [StaticRules.ofEnv, enabled, rules]
  rfl

/-- Variables that carry portable settings are read as these settings. -/
lemma readFrom_of_carries (portable : Portable s) (carries : Carries env s) (files : Files.Tree) :
    ReadFrom env files s := by
  refine .environment ?_ (ofEnv_logging portable carries) (ofEnv_docker portable carries)
    (ofEnv_file portable carries) (ofEnv_staticRules portable carries)
  intro path given
  cases carries.noFile.symm.trans given

end Loading

section Writing

variable {s : Settings}

/-- The variables that settings are written to. -/
def environmentOf (s : Settings) : Environment :=
  allVariables.map fun v => (v.name, Utf8.encode (v.text s))

lemma mem_allVariables (v : Variable) : v ∈ allVariables := by
  cases v <;> simp [allVariables]

lemma gives_text (s : Settings) (v : Variable) : v.Gives s (v.text s) := by
  cases v with
  | logLevel | logFormat => exact inAnyCase_self _
  | logOutput =>
    simp only [Variable.Gives, Variable.text]
    split
    · exact .inr (inAnyCase_self _)
    · rfl
  | _ => rfl

lemma carries_environmentOf (s : Settings) : Carries (environmentOf s) s where
  noFile := rfl
  holds v := by
    refine ⟨v.text s, lookup_of_mem ?_ ?_, gives_text s v⟩
    · rw [environmentOf, List.map_map]
      change (allVariables.map Variable.name).Nodup
      decide
    · exact List.mem_map_of_mem (mem_allVariables v)

end Writing

/-- Settings that are valid and portable can be given in variables, none of which holds a null
byte. They are loaded from all variables that carry them. -/
theorem settings_given_by_variables {s : Settings} (valid : s.validate = .ok ())
    (portable : Portable s) :
    (∃ env, Carries env s ∧ ∀ entry ∈ env, 0 ∉ entry.2) ∧
      ∀ env files, Carries env s → load env files = .ok s := by
  constructor
  · refine ⟨environmentOf s, carries_environmentOf s, ?_⟩
    intro entry mem
    obtain ⟨v, -, rfl⟩ := List.mem_map.mp mem
    exact Utf8.zero_notMem_encode (portable.noNul v)
  · intro env files carries
    rw [load_of_readFrom (readFrom_of_carries portable carries files), valid]
    rfl

/-- Settings with the greatest numbers, an empty text, and lists of two items and of none. -/
def limitSettings : Settings :=
  { logging := { format := .json, level := .debug, output := .file "sign post.log" }
    docker :=
      { enabled := true, labelStart := "길.",
        retrying := { attempts := .ofNat max32, interval := .ofNat max64 } }
    staticRules := { enabled := true, rules := ["h,/a/,http://h/", ",b , c"] } }

/-- Variables in another order than they are read, with words in mixed letters. -/
def limitEnvironment : Environment :=
  [("PROXY_STATIC_RULES", Utf8.encode "h,/a/,http://h/;,b , c"),
    ("PROXY_STATIC_ENABLED", Utf8.encode "true"),
    ("PROXY_FILE_PATH", Utf8.encode "routes.toml"),
    ("PROXY_FILE_ENABLED", Utf8.encode "false"),
    ("PROXY_DOCKER_RETRY_INTERVAL", Utf8.encode "18446744073709551615"),
    ("PROXY_DOCKER_RETRY_ATTEMPTS", Utf8.encode "4294967295"),
    ("PROXY_DOCKER_EXCLUDE", Utf8.encode ""),
    ("PROXY_LABEL_PREFIX", Utf8.encode "길."),
    ("PROXY_DOCKER_NETWORK", Utf8.encode ""),
    ("PROXY_DOCKER_ENABLED", Utf8.encode "true"),
    ("PROXY_LOG_OUTPUT", Utf8.encode "sign post.log"),
    ("PROXY_LOG_FORMAT", Utf8.encode "JSon"),
    ("PROXY_LOG_LEVEL", Utf8.encode "DeBuG")]

theorem settings_given_by_variables_limitSettings :
    limitSettings.validate = .ok () ∧ Portable limitSettings ∧
      Carries limitEnvironment limitSettings ∧
      load limitEnvironment {} = .ok limitSettings := by
  have valid : limitSettings.validate = .ok () := rfl
  have portable : Portable limitSettings := by
    refine ⟨by decide, by decide, nofun, by decide, ?_, ?_, ?_⟩
    · rintro item (_ | ⟨_, _ | ⟨_, ⟨⟩⟩⟩) <;> exact ⟨by decide, by decide, by decide⟩
    · rintro path ⟨⟩
      have other : folded "sign post.log".toList ≠ "stdout".toList := by decide
      exact ⟨by decide, by decide, mt (folded_eq_iff isLower_of_stdout).mpr other⟩
    · intro v
      cases v <;> decide
  have carries : Carries limitEnvironment limitSettings := by
    refine ⟨rfl, fun v => ?_⟩
    cases v with
    | logLevel => exact ⟨"DeBuG", rfl, (folded_eq_iff (isLower_of_level .debug)).mp (by decide)⟩
    | logFormat => exact ⟨"JSon", rfl, (folded_eq_iff (isLower_of_format .json)).mp (by decide)⟩
    | _ => exact ⟨_, rfl, rfl⟩
  obtain ⟨-, loads⟩ := settings_given_by_variables valid portable
  exact ⟨valid, portable, carries, loads limitEnvironment {} carries⟩

end Signpost.Proofs

import Signpost.Proofs.SettingsVariables
import Signpost.Proofs.WrittenRules
import Signpost.Proofs.WrittenTexts

/-!
# Texts for logging

Logging is set by a text each for its level, its format and its output, which stand in variables or
in a table of the configuration file. A text means the same in both places, but for a format: in a
variable its word may have capital letters, and in the file it must not.
-/

namespace Signpost.Proofs
open Settings Text Toml

/-- The texts that logging is set by. Each may be left out. -/
structure LoggingTexts where
  level : Option String := none
  format : Option String := none
  output : Option String := none

/-- No text has blanks around it. -/
structure LoggingTexts.Trimmed (t : LoggingTexts) : Prop where
  level : ∀ text ∈ t.level, IsTrimmed text.toList
  format : ∀ text ∈ t.format, IsTrimmed text.toList
  output : ∀ text ∈ t.output, IsTrimmed text.toList

section Meaning

/-- A text says what it means, and without a text there is a default. -/
inductive Says {α : Type} (means : String → α → Prop) (default : α) : Option String → α → Prop
  | given {text : String} {a : α} (said : means text a) : Says means default (some text) a
  | absent : Says means default none default

/-- The words of levels, in any letter case. -/
def MeansLevel (text : String) (level : LogLevel) : Prop :=
  InAnyCase level.word text

/-- The words of formats, in any letter case. -/
def MeansFormat (text : String) (format : LogFormat) : Prop :=
  InAnyCase format.word text

/-- The words of formats, in small letters. -/
def MeansSmallFormat (text : String) (format : LogFormat) : Prop :=
  text = format.word

/-- Any text but the empty one and `stdout` is a path. -/
inductive MeansOutput : String → LogOutput → Prop
  | empty : MeansOutput "" .stdout
  | stdout {text : String} (word : InAnyCase "stdout" text) : MeansOutput text .stdout
  | file {path : String} (some : path ≠ "") (other : ¬InAnyCase "stdout" path) :
      MeansOutput path (.file path)

/-- What the texts say of logging, by what is taken for a format. -/
structure SaysLogging (format : String → LogFormat → Prop) (t : LoggingTexts) (l : Logging) :
    Prop where
  level : Says MeansLevel .info t.level l.level
  format : Says format .text t.format l.format
  output : Says MeansOutput .stdout t.output l.output

/-- A text for the format that is the word of one has no capital letters. -/
def HasSmallFormat (t : LoggingTexts) : Prop :=
  ∀ text ∈ t.format, ∀ format, MeansFormat text format → MeansSmallFormat text format

end Meaning

section Places

/-- The texts stand in variables. -/
structure InVariables (t : LoggingTexts) (env : Environment) : Prop where
  level : env.lookup Variable.logLevel.name = t.level.map Utf8.encode
  format : env.lookup Variable.logFormat.name = t.format.map Utf8.encode
  output : env.lookup Variable.logOutput.name = t.output.map Utf8.encode

/-- The texts stand in a table. -/
structure InEntries (t : LoggingTexts) (entries : Entries) : Prop where
  level : entries.lookup "level" = t.level.map .string
  format : entries.lookup "format" = t.format.map .string
  output : entries.lookup "output" = t.output.map .string

/-- The texts stand in what a file has for logging, which may be nothing if there are no texts. -/
inductive InSection (t : LoggingTexts) : Option Value → Prop
  | table {kind : TableKind} {entries : Entries} (texts : InEntries t entries) :
      InSection t (some (.table kind entries))
  | missing (texts : t = {}) : InSection t none

/-- All that is not about logging can be read. -/
def OthersRead (root : Entries) : Prop :=
  ∀ e ∈ root, e.1 ≠ "logging" → ∃ s, decodeSection {} e.1 e.2 = .ok s

/-- The texts stand in a TOML text. -/
def InFile (t : LoggingTexts) (text : List Char) : Prop :=
  ∃ root, Toml.read text = .ok root ∧ InSection t (root.lookup "logging") ∧ OthersRead root

end Places

section Outcomes

variable {α ε δ : Type}

/-- Both fail, or both give the same. -/
inductive Agree : Except ε α → Except δ α → Prop
  | failed (f : ε) (g : δ) : Agree (.error f) (.error g)
  | same (a : α) : Agree (.ok a) (.ok a)

lemma agree_iff {x : Except ε α} {y : Except δ α} : Agree x y ↔ ∀ a, x = .ok a ↔ y = .ok a := by
  constructor
  · intro agree a
    cases agree with
    | failed => constructor <;> nofun
    | same b => simp only [Except.ok.injEq]
  · intro same
    cases x with
    | ok a =>
      rw [(same a).mp rfl]
      exact .same a
    | error f =>
      cases y with
      | ok a => cases (same a).mpr rfl
      | error g => exact .failed f g

end Outcomes

section Meanings

variable {text : String} {given : Option String}

section Says

variable {α : Type} {means : String → α → Prop} {default a : α}

lemma says_none_iff : Says means default none a ↔ default = a := by
  constructor
  · rintro ⟨⟩
    rfl
  · rintro rfl
    exact .absent

lemma says_some_iff : Says means default (some text) a ↔ means text a :=
  ⟨fun | .given said => said, .given⟩

lemma Says.imp {other : String → α → Prop} (told : Says means default given a)
    (each : ∀ text ∈ given, means text a → other text a) : Says other default given a := by
  cases told with
  | given said => exact .given (each _ rfl said)
  | absent => exact .absent

end Says

lemma ofList_folded_eq_iff {word : String} :
    String.ofList (folded text.toList) = word ↔ folded text.toList = word.toList := by
  constructor
  · rintro rfl
    rw [String.toList_ofList]
  · intro folds
    rw [folds, String.ofList_toList]

lemma ofWord?_eq_some_iff {level : LogLevel} :
    LogLevel.ofWord? text.toList = some level ↔ MeansLevel text level := by
  refine ⟨fun h => ?_, ofWord?_level⟩
  unfold LogLevel.ofWord? at h
  split at h
  case h_6 => cases h
  all_goals
    rename_i word
    cases h
    exact (folded_eq_iff (isLower_of_level _)).mp (ofList_folded_eq_iff.mp word)

lemma read_eq_ok_iff_meansFormat {format : LogFormat} :
    LogFormat.read text.toList = .ok format ↔ MeansFormat text format := by
  refine ⟨fun h => ?_, read_format⟩
  unfold LogFormat.read LogFormat.ofWord? at h
  split at h
  · rename_i found
    split at found
    case h_3 => cases found
    all_goals
      rename_i word
      cases found
      cases h
      exact (folded_eq_iff (isLower_of_format _)).mp (ofList_folded_eq_iff.mp word)
  · cases h

lemma word_eq_ok_iff {format : LogFormat} :
    Decode.word Logging.formatOfWord? (.string text) = .ok format ↔
      MeansSmallFormat text format := by
  constructor
  · intro h
    unfold Decode.word Logging.formatOfWord? at h
    dsimp only at h
    split at h
    · rename_i found
      split at found
      case h_3 => cases found
      all_goals
        cases found
        cases h
        rfl
    · cases h
  · rintro rfl
    cases format <;> rfl

lemma ofWord_eq_iff {output : LogOutput} :
    LogOutput.ofWord text.toList = output ↔ MeansOutput text output := by
  constructor
  · rintro rfl
    by_cases word : InAnyCase "stdout" text
    · rw [ofWord_stdout word]
      exact .stdout word
    · by_cases some : text = ""
      · rw [some]
        exact .empty
      · rw [ofWord_path some word]
        exact .file some word
  · intro means
    cases means with
    | empty => rfl
    | stdout word => exact ofWord_stdout word
    | file some other => exact ofWord_path some other

lemma says_level_iff {level : LogLevel} :
    LogLevel.ofWord? (given.getD "info").toList = some level ↔
      Says MeansLevel .info given level := by
  cases given with
  | none =>
    have word : LogLevel.ofWord? "info".toList = some .info := rfl
    rw [says_none_iff, Option.getD_none, word, Option.some.injEq]
  | some text => rw [says_some_iff, Option.getD_some, ofWord?_eq_some_iff]

lemma says_output_iff {output : LogOutput} :
    (given.map fun text => LogOutput.ofWord text.toList).getD .stdout = output ↔
      Says MeansOutput .stdout given output := by
  cases given with
  | none => rw [says_none_iff, Option.map_none, Option.getD_none]
  | some text => rw [says_some_iff, Option.map_some, Option.getD_some, ofWord_eq_iff]

end Meanings

section Variables

variable {α : Type} {env : Environment} {name : String} {given : Option String}
  {t : LoggingTexts} {l : Logging}

/-- A variable is read as what its text means. -/
lemma readVar_eq_ok_iff {read : List Char → Except String α} {means : String → α → Prop}
    {default a : α} (meaning : ∀ text a, read text.toList = .ok a ↔ means text a)
    (held : env.lookup name = given.map Utf8.encode)
    (trimmed : ∀ text ∈ given, IsTrimmed text.toList) :
    readVar read env name default = .ok a ↔ Says means default given a := by
  cases given with
  | none =>
    rw [says_none_iff, readVar, held]
    dsimp only [Option.map_none]
    rw [Except.ok.injEq]
  | some text =>
    rw [says_some_iff, ← meaning, readVar, held]
    dsimp only [Option.map_some]
    rw [Utf8.decode?_encode]
    dsimp only
    rw [trim_of_isTrimmed (trimmed text rfl)]
    cases read text.toList <;> simp

lemma readVar_readText {default : String} (held : env.lookup name = given.map Utf8.encode)
    (trimmed : ∀ text ∈ given, IsTrimmed text.toList) :
    readVar readText env name default = .ok (given.getD default) := by
  cases given with
  | none =>
    rw [readVar, held]
    rfl
  | some text => exact readText_of_given default held (trimmed text rfl)

/-- Variables are read as what their texts say. -/
lemma ofEnv_logging_iff (trimmed : t.Trimmed) (places : InVariables t env) :
    Logging.ofEnv env = .ok l ↔ SaysLogging MeansFormat t l := by
  have level : readVar readText env "PROXY_LOG_LEVEL" "info" = .ok (t.level.getD "info") :=
    readVar_readText places.level trimmed.level
  have format (f : LogFormat) :
      readVar LogFormat.read env "PROXY_LOG_FORMAT" .text = .ok f ↔
        Says MeansFormat .text t.format f :=
    readVar_eq_ok_iff (fun _ _ => read_eq_ok_iff_meansFormat) places.format trimmed.format
  have output (o : LogOutput) :
      readVar (fun text => .ok (LogOutput.ofWord text)) env "PROXY_LOG_OUTPUT" .stdout = .ok o ↔
        Says MeansOutput .stdout t.output o :=
    readVar_eq_ok_iff (fun _ _ => by rw [Except.ok.injEq, ofWord_eq_iff]) places.output
      trimmed.output
  rw [Logging.ofEnv, level]
  constructor
  · intro h
    obtain ⟨_, ⟨⟩, h⟩ := bind_eq_ok_iff.mp h
    dsimp only at h
    split at h
    · rename_i isLevel
      obtain ⟨_, ⟨⟩, h⟩ := bind_eq_ok_iff.mp h
      obtain ⟨_, isFormat, h⟩ := bind_eq_ok_iff.mp h
      obtain ⟨_, isOutput, h⟩ := bind_eq_ok_iff.mp h
      cases h
      exact ⟨says_level_iff.mp isLevel, (format _).mp isFormat, (output _).mp isOutput⟩
    · cases h
  · intro told
    have isLevel := says_level_iff.mpr told.level
    rw [(format _).mpr told.format, (output _).mpr told.output]
    simp only [bind, Except.bind, isLevel, pure, Except.pure]

end Variables

section Tables

variable {α : Type} {given : Option String} {entries root : Entries} {t : LoggingTexts}
  {l : Logging}

/-- A field is read as what its text means. -/
lemma withDefault_eq_ok_iff {decode : Decoder α} {means : String → α → Prop} {default a : α}
    (meaning : ∀ text a, decode (.string text) = .ok a ↔ means text a) :
    Decode.withDefault default decode (given.map .string) = .ok a ↔ Says means default given a := by
  cases given with
  | none => rw [says_none_iff, Option.map_none, Decode.withDefault, Except.ok.injEq]
  | some text => rw [says_some_iff, Option.map_some, Decode.withDefault, meaning]

lemma withDefault_string {default : String} :
    Decode.withDefault default Decode.string (given.map .string) = .ok (given.getD default) := by
  cases given <;> rfl

/-- A table is read as what its texts say, in which a format has small letters. -/
lemma decode_table_iff {kind : TableKind} (places : InEntries t entries) :
    Logging.decode (.table kind entries) = .ok l ↔ SaysLogging MeansSmallFormat t l := by
  have fields : Decode.fields ["format", "level", "output"] (.table kind entries) =
      .ok [t.format.map .string, t.level.map .string, t.output.map .string] := by
    rw [← places.format, ← places.level, ← places.output]
    rfl
  have format (f : LogFormat) : Decode.withDefault .text (Decode.word Logging.formatOfWord?)
      (t.format.map .string) = .ok f ↔ Says MeansSmallFormat .text t.format f :=
    withDefault_eq_ok_iff fun _ _ => word_eq_ok_iff
  have output : Decode.optional Decode.string (t.output.map .string) = .ok t.output :=
    optional_eq_ok_iff.mpr rfl
  unfold Logging.decode
  rw [fields]
  constructor
  · intro h
    obtain ⟨_, ⟨⟩, h⟩ := bind_eq_ok_iff.mp h
    obtain ⟨_, isFormat, h⟩ := bind_eq_ok_iff.mp h
    rw [withDefault_string, output] at h
    obtain ⟨_, ⟨⟩, h⟩ := bind_eq_ok_iff.mp h
    obtain ⟨_, ⟨⟩, h⟩ := bind_eq_ok_iff.mp h
    dsimp only at h
    split at h
    · cases h
    · rename_i isLevel
      cases h
      exact ⟨says_level_iff.mp isLevel, (format _).mp isFormat, says_output_iff.mp rfl⟩
  · intro told
    have isLevel := says_level_iff.mpr told.level
    have isOutput := says_output_iff.mpr told.output
    simp only [bind, Except.bind, (format _).mpr told.format, withDefault_string, output, isLevel,
      isOutput, pure, Except.pure]

/-- Other sections leave logging as it is. -/
lemma decodeSection_other {key : String} {v : Value} (other : key ≠ "logging")
    (read : ∃ s, decodeSection {} key v = .ok s) (s : Settings) :
    ∃ next, decodeSection s key v = .ok next ∧ next.logging = s.logging := by
  obtain ⟨_, read⟩ := read
  unfold decodeSection at read ⊢
  split at read
  · exact absurd rfl other
  · cases decoded : Docker.decode v with
    | error => simp [decoded] at read
    | ok d => exact ⟨{ s with docker := d }, rfl, rfl⟩
  · cases decoded : RuleFile.decode v with
    | error => simp [decoded] at read
    | ok f => exact ⟨{ s with file := f }, rfl, rfl⟩
  · cases decoded : StaticRules.decode v with
    | error => simp [decoded] at read
    | ok r => exact ⟨{ s with staticRules := r }, rfl, rfl⟩
  · exact ⟨s, rfl, rfl⟩

lemma foldlM_others (absent : "logging" ∉ root.map Prod.fst) (others : OthersRead root)
    (s : Settings) : ∃ last, root.foldlM (fun s e => decodeSection s e.1 e.2) s = .ok last ∧
      last.logging = s.logging := by
  have each (e : String × Value) (mem : e ∈ root) (next : Settings)
      (kept : next.logging = s.logging) :
      ∃ last, decodeSection next e.1 e.2 = .ok last ∧ last.logging = s.logging := by
    have other : e.1 ≠ "logging" := fun same => absent (same ▸ List.mem_map_of_mem mem)
    obtain ⟨last, decoded, same⟩ := decodeSection_other other (others e mem other) next
    exact ⟨last, decoded, same.trans kept⟩
  exact foldlM_keeps each rfl

lemma decode_without_logging (absent : "logging" ∉ root.map Prod.fst) (others : OthersRead root) :
    (decode root).map Settings.logging = .ok {} := by
  obtain ⟨last, read, same⟩ := foldlM_others absent others {}
  rw [decode, read]
  exact congrArg Except.ok same

lemma decode_with_logging {before after : Entries} {v : Value}
    (absent : "logging" ∉ (before ++ after).map Prod.fst) (others : OthersRead (before ++ after)) :
    (decode (before ++ ("logging", v) :: after)).map Settings.logging = Logging.decode v := by
  rw [List.map_append, List.mem_append, not_or] at absent
  obtain ⟨ahead, behind⟩ := List.forall_mem_append.mp others
  -- what stands ahead may change all but logging, which is set here and kept behind
  obtain ⟨first, read, -⟩ := foldlM_others absent.1 ahead {}
  have changed : decodeSection first "logging" v =
      (fun logging => { first with logging }) <$> Logging.decode v := rfl
  rw [decode, List.foldlM_append, read]
  change Except.map _ (decodeSection first "logging" v >>= fun s => after.foldlM _ s) = _
  rw [changed]
  cases decoded : Logging.decode v with
  | error => rfl
  | ok l =>
    obtain ⟨last, readRest, same⟩ := foldlM_others absent.2 behind { first with logging := l }
    change Except.map _ (after.foldlM _ { first with logging := l }) = _
    rw [readRest]
    exact congrArg Except.ok same

/-- A file is read as what its texts say. -/
lemma ofToml_logging_iff {text : List Char} (places : InFile t text) :
    (ofToml text).map Settings.logging = .ok l ↔ SaysLogging MeansSmallFormat t l := by
  obtain ⟨root, read, logging, others⟩ := places
  have keys : (root.map Prod.fst).Nodup := by
    obtain ⟨_, -, holding⟩ := holding_of_read read
    exact holding.keys
  have decoded : ofToml text = decode root := by
    rw [ofToml, read]
    rfl
  rw [decoded]
  generalize found : root.lookup "logging" = given at logging
  cases logging with
  | table texts =>
    obtain ⟨before, after, rfl, -⟩ := List.lookup_eq_some_iff.mp found
    rw [List.map_append, List.map_cons, List.nodup_middle, ← List.map_append] at keys
    have rest : OthersRead (before ++ after) := by
      intro e mem
      apply others e
      rw [List.mem_append] at mem ⊢
      exact mem.imp_right (List.mem_cons_of_mem _)
    rw [decode_with_logging (List.nodup_cons.mp keys).1 rest, decode_table_iff texts]
  | missing texts =>
    have absent : "logging" ∉ root.map Prod.fst := by
      intro mem
      obtain ⟨_, mem, same⟩ := List.mem_map.mp mem
      rw [← same, lookup_of_mem keys mem] at found
      cases found
    -- no section gives what an empty one does
    have empty : Logging.decode (.table .header []) = .ok l ↔ SaysLogging MeansSmallFormat {} l :=
      decode_table_iff ⟨rfl, rfl, rfl⟩
    rw [decode_without_logging absent others, texts, ← empty]
    rfl

end Tables

section Writing

variable {t : LoggingTexts}

/-- The texts in variables. -/
def LoggingTexts.environment (t : LoggingTexts) : Environment :=
  [(Variable.logLevel, t.level), (.logFormat, t.format), (.logOutput, t.output)].filterMap
    fun (v, given) => given.map fun text => (v.name, Utf8.encode text)

/-- The texts with the keys that they have in a table. -/
def LoggingTexts.pairs (t : LoggingTexts) : List (String × String) :=
  [("level", t.level), ("format", t.format), ("output", t.output)].filterMap
    fun (key, given) => given.map fun text => (key, text)

lemma inVariables_environment (t : LoggingTexts) : InVariables t t.environment := by
  obtain ⟨level, format, output⟩ := t
  cases level <;> cases format <;> cases output <;> exact ⟨rfl, rfl, rfl⟩

lemma inEntries_pairs (t : LoggingTexts) :
    InEntries t (t.pairs.map fun pair => (pair.1, .string pair.2)) := by
  obtain ⟨level, format, output⟩ := t
  cases level <;> cases format <;> cases output <;> exact ⟨rfl, rfl, rfl⟩

lemma keys_pairs (t : LoggingTexts) :
    (t.pairs.map Prod.fst).Sublist ["level", "format", "output"] := by
  obtain ⟨level, format, output⟩ := t
  cases level <;> cases format <;> cases output <;> simp [LoggingTexts.pairs]

lemma inFile_tableText (t : LoggingTexts) : InFile t (tableText "logging" t.pairs) := by
  have bareName : IsBareKey "logging" := isBareKey_of_all (by decide) (by decide)
  have fits : ∀ key ∈ ["level", "format", "output"],
      key ≠ "" ∧ key.toList.all isBareKeyChar = true := by decide
  have bare : ∀ pair ∈ t.pairs, IsBareKey pair.1 := by
    intro pair mem
    obtain ⟨nonempty, all⟩ := fits _ ((keys_pairs t).subset (List.mem_map_of_mem mem))
    exact isBareKey_of_all nonempty all
  have keys : (t.pairs.map Prod.fst).Nodup := (keys_pairs t).nodup (by decide)
  refine ⟨_, read_tableText bareName bare keys, .table (inEntries_pairs t), ?_⟩
  intro e mem other
  exact absurd (congrArg Prod.fst (List.mem_singleton.mp mem)) other

end Writing

section Agreement

variable {t : LoggingTexts}

lemma exists_saysLogging {means : String → LogFormat → Prop} {level : LogLevel} {format : LogFormat}
    (isLevel : Says MeansLevel .info t.level level) (isFormat : Says means .text t.format format) :
    ∃ output, SaysLogging means t { level, format, output } :=
  ⟨_, isLevel, isFormat, says_output_iff.mp rfl⟩

lemma inAnyCase_of_eq {word text : String} (same : text = word) : InAnyCase word text := by
  rw [same]
  exact inAnyCase_self word

/-- The texts say the same in both places, unless they say something in variables for which a format
has capital letters. -/
lemma saysLogging_same_iff :
    (∀ l, SaysLogging MeansFormat t l ↔ SaysLogging MeansSmallFormat t l) ↔
      ((∃ level, Says MeansLevel .info t.level level) → HasSmallFormat t) := by
  constructor
  · rintro same ⟨level, isLevel⟩ text given format means
    have isFormat : Says MeansFormat .text t.format format := by
      rw [given]
      exact .given means
    obtain ⟨output, told⟩ := exists_saysLogging isLevel isFormat
    have small := ((same _).mp told).format
    rw [given] at small
    exact says_some_iff.mp small
  · intro small l
    constructor
    · intro told
      have fits := small ⟨_, told.level⟩
      exact ⟨told.level, told.format.imp fun text given => fits text given _, told.output⟩
    · intro told
      exact ⟨told.level, told.format.imp fun _ _ => inAnyCase_of_eq, told.output⟩

end Agreement

/-- Texts for logging can always be given both ways, in variables and in a file. Both times the
logging that is read is what the texts say, and nothing is read if they say nothing. So both give
the same, or both fail, exactly if the text for the format is no word with capital letters, or that
for the level is no level. -/
theorem logging_read_alike {t : LoggingTexts} (trimmed : t.Trimmed) :
    (∃ env text, InVariables t env ∧ InFile t text) ∧
    ∀ env text, InVariables t env → InFile t text →
      (∀ l, Logging.ofEnv env = .ok l ↔ SaysLogging MeansFormat t l) ∧
      (∀ l, (ofToml text).map Settings.logging = .ok l ↔ SaysLogging MeansSmallFormat t l) ∧
      (Agree (Logging.ofEnv env) ((ofToml text).map Settings.logging) ↔
        ((∃ level, Says MeansLevel .info t.level level) → HasSmallFormat t)) := by
  refine ⟨⟨_, _, inVariables_environment t, inFile_tableText t⟩, ?_⟩
  intro env text inVariables inFile
  have fromVariables (l : Logging) := ofEnv_logging_iff trimmed inVariables (l := l)
  have fromFile (l : Logging) := ofToml_logging_iff inFile (l := l)
  refine ⟨fromVariables, fromFile, ?_⟩
  rw [agree_iff, ← saysLogging_same_iff]
  simp only [fromVariables, fromFile]

/-- A word in mixed letters, and a path with quotes and a backslash. -/
def mixedTexts : LoggingTexts :=
  { level := some "WaRN", format := some "json", output := some "a \"log\"\\" }

theorem logging_read_alike_mixedTexts :
    let env : Environment :=
      [("PROXY_LOG_OUTPUT", Utf8.encode "a \"log\"\\"), ("PROXY_LOG_FORMAT", Utf8.encode "json"),
        ("PROXY_LOG_LEVEL", Utf8.encode "WaRN")]
    let text := ("[logging]\nlevel = \"WaRN\"\nformat = \"json\"\n" ++
      "output = \"a \\\"log\\\"\\\\\"\n").toList
    let logging : Logging := { level := .warn, format := .json, output := .file "a \"log\"\\" }
    mixedTexts.Trimmed ∧ InVariables mixedTexts env ∧ InFile mixedTexts text ∧
      Logging.ofEnv env = .ok logging ∧ (ofToml text).map Settings.logging = .ok logging ∧
      Agree (Logging.ofEnv env) ((ofToml text).map Settings.logging) := by
  intro env text logging
  have trimmed : mixedTexts.Trimmed := by
    constructor <;> rintro text ⟨⟩ <;> decide
  have inVariables : InVariables mixedTexts env := ⟨rfl, rfl, rfl⟩
  have written : tableText "logging" mixedTexts.pairs = text := by decide +kernel
  have inFile : InFile mixedTexts text := written ▸ inFile_tableText mixedTexts
  have isLevel : InAnyCase "warn" "WaRN" := (folded_eq_iff (isLower_of_level .warn)).mp (by decide)
  have told : SaysLogging MeansSmallFormat mixedTexts logging :=
    ⟨.given isLevel, .given rfl, says_output_iff.mp rfl⟩
  have toldVariables : SaysLogging MeansFormat mixedTexts logging :=
    ⟨told.level, told.format.imp fun _ _ => inAnyCase_of_eq, told.output⟩
  have small : HasSmallFormat mixedTexts := by
    rintro text ⟨⟩ format means
    have isFormat : Except.ok LogFormat.json = .ok format := read_eq_ok_iff_meansFormat.mpr means
    cases isFormat
    rfl
  obtain ⟨-, alike⟩ := logging_read_alike trimmed
  obtain ⟨fromVariables, fromFile, agree⟩ := alike env text inVariables inFile
  exact ⟨trimmed, inVariables, inFile, (fromVariables _).mpr toldVariables,
    (fromFile _).mpr told, agree.mpr fun _ => small⟩

/-- The same word in capital letters is read in a variable and refused in a file. -/
theorem capitalFormat_refused :
    let t : LoggingTexts := { format := some "JSON" }
    let env : Environment := [("PROXY_LOG_FORMAT", Utf8.encode "JSON")]
    let text := "[logging]\nformat = \"JSON\"\n".toList
    t.Trimmed ∧ InVariables t env ∧ InFile t text ∧ Logging.ofEnv env = .ok { format := .json } ∧
      ofToml text = .error (.unknownWord "JSON") ∧
      ¬Agree (Logging.ofEnv env) ((ofToml text).map Settings.logging) := by
  intro t env text
  have trimmed : t.Trimmed := by
    constructor <;> rintro text ⟨⟩
    decide
  have written : tableText "logging" t.pairs = text := by decide +kernel
  have inFile : InFile t text := written ▸ inFile_tableText t
  have read : Logging.ofEnv env = .ok { format := .json } := by decide +kernel
  have refused : ofToml text = .error (.unknownWord "JSON") := by decide +kernel
  refine ⟨trimmed, ⟨rfl, rfl, rfl⟩, inFile, read, refused, ?_⟩
  rw [read, refused]
  nofun

end Signpost.Proofs

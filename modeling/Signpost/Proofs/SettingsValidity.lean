import Signpost.Proofs.ConfigurationFile
import Signpost.Proofs.Sequences
import Signpost.Proofs.TrimmedText

/-!
# Valid settings

Settings are accepted if they meet six requirements, whether they come from a file or from
variables. The requirements have an order. Settings that do not meet all of them are refused with
the fault of the first one that they miss.
-/

namespace Signpost.Proofs
open Settings Text

/-- A letter or a digit of ASCII, or one of three signs. -/
def IsNetworkChar (c : Char) : Prop :=
  ('A' ≤ c ∧ c ≤ 'Z') ∨ ('a' ≤ c ∧ c ≤ 'z') ∨ ('0' ≤ c ∧ c ≤ '9') ∨ c = '-' ∨ c = '_' ∨ c = '.'

/-- Three or four fields have two or three commas between them. -/
def HasFields (rule : String) : Prop :=
  rule.toList.count ',' = 2 ∨ rule.toList.count ',' = 3

inductive Requirement
  | networkName
  | labelStartLength
  | labelStartDot
  | attempts
  | rulesPath
  | ruleFields

/-- All requirements, in their order. -/
def requirements : List Requirement :=
  [.networkName, .labelStartLength, .labelStartDot, .attempts, .rulesPath, .ruleFields]

def Requirement.Met (s : Settings) : Requirement → Prop
  | networkName => ∀ c ∈ s.docker.network.toList, IsNetworkChar c
  | labelStartLength => s.docker.labelStart.utf8ByteSize ≤ 100
  | labelStartDot => ∃ start, s.docker.labelStart = start ++ "."
  | attempts => 1 ≤ s.docker.retrying.attempts
  | rulesPath => s.file.enabled = true → ∃ c ∈ s.file.path.toList, isBlank c = false
  | ruleFields => s.staticRules.enabled = true → ∀ rule ∈ s.staticRules.rules, HasFields rule

/-- The fault that names a requirement that is missed, and the value that misses it. -/
inductive Refusal (s : Settings) : Requirement → Fault → Prop
  | networkName : Refusal s .networkName
      (.invalid "PROXY_DOCKER_NETWORK" s.docker.network
        "Docker 네트워크 이름은 영숫자와 -_. 만 포함할 수 있습니다")
  | labelStartLength : Refusal s .labelStartLength
      (.invalid "PROXY_LABEL_PREFIX" s.docker.labelStart "라벨 접두사가 너무 깁니다 (최대 100자)")
  | labelStartDot : Refusal s .labelStartDot
      (.invalid "PROXY_LABEL_PREFIX" s.docker.labelStart "라벨 접두사는 '.'으로 끝나야 합니다")
  | attempts : Refusal s .attempts
      (.invalid "PROXY_DOCKER_RETRY_ATTEMPTS" "0" "최소 1회 이상 시도해야 합니다")
  | rulesPath : Refusal s .rulesPath (.missing "PROXY_FILE_PATH")
  | ruleFields {before : List String} {rule : String} {after : List String} :
      s.staticRules.rules = before ++ rule :: after → (∀ other ∈ before, HasFields other) →
      ¬HasFields rule → Refusal s .ruleFields
      (.invalid "PROXY_STATIC_RULES" rule ("규칙은 필드가 3개 또는 4개여야 합니다 (현재 " ++
        toString (rule.toList.count ',' + 1) ++ "개)"))

/-- A fault is that of the first requirement that settings miss. -/
def FirstMissed (s : Settings) (f : Fault) : Prop :=
  ∃ before r after, requirements = before ++ r :: after ∧ (∀ q ∈ before, q.Met s) ∧ ¬r.Met s ∧
    Refusal s r f

/-- The settings that are read without a fault, from the file that is named or from variables. -/
inductive ReadFrom (env : Environment) (files : Files.Tree) (s : Settings) : Prop
  | file {path : Bytes} {text : List Char} : env.lookup configName = some path → IsText path →
      files.readText path = .ok text → ofToml text = .ok s → ReadFrom env files s
  | environment : (∀ path, env.lookup configName = some path → ¬IsText path) →
      Logging.ofEnv env = .ok s.logging → Docker.ofEnv env = .ok s.docker →
      RuleFile.ofEnv env = .ok s.file → StaticRules.ofEnv env = .ok s.staticRules →
      ReadFrom env files s

section Checks

variable {α ε : Type} {ask : α → Except ε Unit}

lemma forM_eq_ok_iff {asked : List α} :
    forM asked ask = .ok () ↔ ∀ a ∈ asked, ask a = .ok () := by
  induction asked with
  | nil => simp [pure, Except.pure]
  | cons a asked ih =>
    rw [List.forM_cons, List.forall_mem_cons, ← ih]
    cases ask a <;> simp [bind, Except.bind]

lemma forM_eq_mapM {asked : List α} : forM asked ask = (asked.mapM ask).map fun _ => () := by
  induction asked with
  | nil => rfl
  | cons a asked ih =>
    rw [List.forM_cons, ih, List.mapM_cons]
    cases ask a with
    | error fault => rfl
    | ok => cases asked.mapM ask <;> rfl

/-- What is asked in turn fails as the first thing that does. -/
lemma forM_eq_error_iff {asked : List α} {e : ε} :
    forM asked ask = .error e ↔ ∃ before a after, asked = before ++ a :: after ∧
      (∀ b ∈ before, ask b = .ok ()) ∧ ask a = .error e := by
  have failed : forM asked ask = .error e ↔ asked.mapM ask = .error e := by
    rw [forM_eq_mapM]
    cases asked.mapM ask <;> simp [Except.map]
  rw [failed, mapM_eq_error_iff]
  -- what is not a fault can only be the one value there is
  simp only [Unique.exists_iff]

end Checks

lemma isNetworkChar_iff {c : Char} : isNetworkChar c = true ↔ IsNetworkChar c := by
  have spelled : isNetworkChar c = (decide (c.val ≥ 'A'.val ∧ c.val ≤ 'Z'.val) ||
      (decide (c.val ≥ 'a'.val) && decide (c.val ≤ 'z'.val)) ||
      (decide (c.val ≥ '0'.val) && decide (c.val ≤ '9'.val)) ||
      c == '-' || c == '_' || c == '.') := rfl
  simp only [spelled, IsNetworkChar, Char.le_def, Bool.or_eq_true, Bool.and_eq_true,
    decide_eq_true_eq, beq_iff_eq, ge_iff_le, or_assoc]

lemma length_splitOn (separator : Char) (cs : List Char) :
    (splitOn separator cs).length = cs.count separator + 1 := by
  induction cs with
  | nil => rfl
  | cons c rest ih =>
    rw [splitOn, List.count_cons]
    split
    · rename_i same
      simp [same, ih]
    · rename_i other
      cases hrest : splitOn separator rest with
      | nil => exact absurd hrest (splitOn_ne_nil separator rest)
      | cons part parts => simpa [hrest, other] using ih

lemma fieldCount_eq (rule : String) : fieldCount rule = rule.toList.count ',' + 1 :=
  length_splitOn ',' rule.toList

lemma hasFieldCount_iff {rule : String} : hasFieldCount rule = true ↔ HasFields rule := by
  simp [hasFieldCount, fieldCount_eq, HasFields]

lemma find?_wrong_iff {rules : List String} {rule : String} :
    (rules.find? fun rule => !hasFieldCount rule) = some rule ↔
      ∃ before after, rules = before ++ rule :: after ∧ (∀ other ∈ before, HasFields other) ∧
        ¬HasFields rule := by
  simp only [List.find?_eq_some_iff_append, Bool.not_not, hasFieldCount_iff, Bool.not_eq_true',
    Bool.eq_false_iff, ne_eq]
  constructor
  · rintro ⟨wrong, before, after, split, right⟩
    exact ⟨before, after, split, right, wrong⟩
  · rintro ⟨before, after, split, right, wrong⟩
    exact ⟨wrong, before, after, split, right⟩

/-- Whether a requirement is met, as it is computed. -/
def meets (s : Settings) : Requirement → Bool
  | .networkName => s.docker.network.toList.all isNetworkChar
  | .labelStartLength => decide (s.docker.labelStart.utf8ByteSize ≤ labelStartLimit)
  | .labelStartDot => s.docker.labelStart.toList.getLast? == some '.'
  | .attempts => s.docker.retrying.attempts != 0
  | .rulesPath => !(s.file.enabled && (trim s.file.path.toList).isEmpty)
  | .ruleFields => !s.staticRules.enabled || s.staticRules.rules.all hasFieldCount

/-- The fault that is reported for a requirement. -/
def refusal (s : Settings) : Requirement → Fault
  | .networkName => .invalid "PROXY_DOCKER_NETWORK" s.docker.network
      "Docker 네트워크 이름은 영숫자와 -_. 만 포함할 수 있습니다"
  | .labelStartLength =>
    .invalid "PROXY_LABEL_PREFIX" s.docker.labelStart "라벨 접두사가 너무 깁니다 (최대 100자)"
  | .labelStartDot =>
    .invalid "PROXY_LABEL_PREFIX" s.docker.labelStart "라벨 접두사는 '.'으로 끝나야 합니다"
  | .attempts => .invalid "PROXY_DOCKER_RETRY_ATTEMPTS" (toString s.docker.retrying.attempts.toNat)
      "최소 1회 이상 시도해야 합니다"
  | .rulesPath => .missing "PROXY_FILE_PATH"
  | .ruleFields =>
    let rule := (s.staticRules.rules.find? fun rule => !hasFieldCount rule).getD ""
    .invalid "PROXY_STATIC_RULES" rule
      ("규칙은 필드가 3개 또는 4개여야 합니다 (현재 " ++ toString (fieldCount rule) ++ "개)")

/-- The check of one requirement. -/
def check (s : Settings) (r : Requirement) : Except Fault Unit :=
  if meets s r then .ok () else .error (refusal s r)

lemma validate_docker (s : Settings) : s.docker.validate =
    forM [.networkName, .labelStartLength, .labelStartDot, .attempts] (check s) := by
  simp only [Docker.validate, List.forM_cons, List.forM_nil, check, meets, refusal]
  by_cases name : s.docker.network.toList.all isNetworkChar <;>
  by_cases short : s.docker.labelStart.utf8ByteSize ≤ labelStartLimit <;>
  by_cases dot : s.docker.labelStart.toList.getLast? = some '.' <;>
  by_cases none : s.docker.retrying.attempts = 0 <;>
    simp [name, short, dot, none, bind, Except.bind, pure, Except.pure]

lemma validate_file (s : Settings) : s.file.validate = check s .rulesPath := by
  by_cases blank : (s.file.enabled && (trim s.file.path.toList).isEmpty) = true <;>
    simp [RuleFile.validate, check, meets, refusal, blank]

lemma validate_staticRules (s : Settings) : s.staticRules.validate = check s .ruleFields := by
  by_cases enabled : s.staticRules.enabled = true
  · cases hfind : s.staticRules.rules.find? fun rule => !hasFieldCount rule with
    | none =>
      have all : ∀ rule ∈ s.staticRules.rules, hasFieldCount rule = true := by simpa using hfind
      simp [StaticRules.validate, check, meets, enabled, hfind]
      exact all
    | some rule =>
      have miss : ∃ rule ∈ s.staticRules.rules, hasFieldCount rule = false :=
        ⟨rule, List.mem_of_find?_eq_some hfind, by simpa using List.find?_some hfind⟩
      simp [StaticRules.validate, check, meets, refusal, enabled, hfind, miss]
  · simp [StaticRules.validate, check, meets, enabled]

/-- Validating is asking for each requirement in turn. -/
lemma validate_eq (s : Settings) : s.validate = forM requirements (check s) := by
  have split : requirements = [.networkName, .labelStartLength, .labelStartDot, .attempts] ++
      [.rulesPath, .ruleFields] := rfl
  rw [Settings.validate, validate_docker, validate_file, validate_staticRules, split,
    List.forM_append]
  simp only [List.forM_cons, List.forM_nil, bind_pure_unit]

lemma meets_iff {s : Settings} {r : Requirement} : meets s r = true ↔ r.Met s := by
  cases r with
  | networkName => simp [meets, Requirement.Met, isNetworkChar_iff]
  | labelStartLength => exact decide_eq_true_iff
  | labelStartDot =>
    rw [meets, beq_iff_eq, Requirement.Met]
    exact getLast?_toList_iff
  | attempts =>
    rw [meets, bne_iff_ne, Requirement.Met]
    grind
  | rulesPath =>
    cases h : s.file.enabled <;> simp [meets, Requirement.Met, trim_eq_nil_iff, h]
  | ruleFields =>
    cases h : s.staticRules.enabled <;> simp [meets, Requirement.Met, hasFieldCount_iff, h]

/-- The fault of a requirement that is missed is the one that is reported for it. -/
lemma refusal_iff {s : Settings} {r : Requirement} {f : Fault} (missed : ¬r.Met s) :
    Refusal s r f ↔ f = refusal s r := by
  cases r with
  | networkName | labelStartLength | labelStartDot | rulesPath =>
    constructor
    · rintro ⟨⟩
      rfl
    · rintro rfl
      constructor
  | attempts =>
    have none : s.docker.retrying.attempts = 0 := by simpa [← meets_iff, meets] using missed
    have same : refusal s .attempts =
        .invalid "PROXY_DOCKER_RETRY_ATTEMPTS" "0" "최소 1회 이상 시도해야 합니다" := by
      rw [refusal, none]
      rfl
    rw [same]
    constructor
    · rintro ⟨⟩
      rfl
    · rintro rfl
      exact .attempts
  | ruleFields =>
    constructor
    · intro h
      cases h with | ruleFields split right wrong =>
      have found := find?_wrong_iff.mpr ⟨_, _, split, right, wrong⟩
      simp only [refusal, found, Option.getD_some, fieldCount_eq]
    · rintro rfl
      have some : (s.staticRules.rules.find? fun rule => !hasFieldCount rule).isSome := by
        by_contra none
        apply missed
        rw [← meets_iff, meets]
        simp_all
      obtain ⟨rule, found⟩ := Option.isSome_iff_exists.mp some
      obtain ⟨before, after, split, right, wrong⟩ := find?_wrong_iff.mp found
      simp only [refusal, found, Option.getD_some, fieldCount_eq]
      exact .ruleFields split right wrong

lemma check_eq_ok_iff {s : Settings} {r : Requirement} : check s r = .ok () ↔ r.Met s := by
  rw [← meets_iff, check]
  split <;> simp_all

lemma check_eq_error_iff {s : Settings} {r : Requirement} {f : Fault} :
    check s r = .error f ↔ ¬r.Met s ∧ Refusal s r f := by
  by_cases met : r.Met s
  · simp [check_eq_ok_iff.mpr met, met]
  · rw [refusal_iff met, check, if_neg (fun h => met (meets_iff.mp h)), Except.error.injEq, eq_comm]
    simp [met]

/-- Settings are accepted exactly if they meet all requirements. -/
theorem validate_eq_ok_iff {s : Settings} : s.validate = .ok () ↔ ∀ r : Requirement, r.Met s := by
  have all (r : Requirement) : r ∈ requirements := by cases r <;> simp [requirements]
  rw [validate_eq, forM_eq_ok_iff]
  simp only [check_eq_ok_iff]
  exact ⟨fun h r => h r (all r), fun h r _ => h r⟩

theorem validate_eq_error_iff {s : Settings} {f : Fault} :
    s.validate = .error f ↔ FirstMissed s f := by
  rw [validate_eq, forM_eq_error_iff]
  simp only [check_eq_ok_iff, check_eq_error_iff, FirstMissed]

lemma load_of_readFrom {env : Environment} {files : Files.Tree} {s : Settings}
    (h : ReadFrom env files s) : load env files = s.validate.map fun _ => s := by
  cases h with
  | file given isText text settings =>
    rw [load_of_isText given isText, ofFile, text]
    dsimp only
    rw [settings]
    dsimp only
    cases s.validate <;> rfl
  | environment noText logging docker file staticRules =>
    rw [load, configPath?_eq_none_iff.mpr noText]
    simp only [ofEnv, logging, docker, file, staticRules, bind, Except.bind]
    cases s.validate <;> rfl

lemma readFrom_of_load {env : Environment} {files : Files.Tree} {s : Settings}
    (h : load env files = .ok s) : ReadFrom env files s := by
  rw [load] at h
  split at h
  · rename_i path named
    obtain ⟨given, isText⟩ := configPath?_eq_some_iff.mp named
    unfold ofFile at h
    split at h
    · cases h
    · rename_i text htext
      split at h
      · cases h
      · rename_i read settings
        split at h
        · cases h
        · cases h
          exact .file given isText htext settings
  · rename_i unnamed
    unfold ofEnv at h
    obtain ⟨l, logging, h⟩ := bind_eq_ok_iff.mp h
    obtain ⟨d, docker, h⟩ := bind_eq_ok_iff.mp h
    obtain ⟨r, file, h⟩ := bind_eq_ok_iff.mp h
    obtain ⟨t, staticRules, h⟩ := bind_eq_ok_iff.mp h
    obtain ⟨-, -, h⟩ := bind_eq_ok_iff.mp h
    cases h
    exact .environment (configPath?_eq_none_iff.mp unnamed) logging docker file staticRules

lemma met_of_load {env : Environment} {files : Files.Tree} {s : Settings}
    (h : load env files = .ok s) (r : Requirement) : r.Met s := by
  rw [load_of_readFrom (readFrom_of_load h)] at h
  refine validate_eq_ok_iff.mp ?_ r
  cases hs : s.validate with
  | ok => rfl
  | error f => simp [hs, Except.map] at h

/-- Loaded settings meet all requirements, wherever they come from. Settings that are read are
refused only if they miss one, and the fault is that of the first one that they miss. -/
theorem loaded_settings_valid (env : Environment) (files : Files.Tree) :
    (∀ s, load env files = .ok s ↔ ReadFrom env files s ∧ ∀ r : Requirement, r.Met s) ∧
    (∀ s f, ReadFrom env files s → (load env files = .error f ↔ FirstMissed s f)) := by
  constructor
  · intro s
    constructor
    · exact fun h => ⟨readFrom_of_load h, met_of_load h⟩
    · rintro ⟨read, met⟩
      rw [load_of_readFrom read, validate_eq_ok_iff.mpr met]
      rfl
  · intro s f read
    rw [load_of_readFrom read, ← validate_eq_error_iff]
    cases s.validate <;> simp [Except.map]

/-- A label that does not end in a dot, and no attempts. -/
def unfitLabel : Environment :=
  [("PROXY_LABEL_PREFIX", Utf8.encode "label"), ("PROXY_DOCKER_RETRY_ATTEMPTS", Utf8.encode " 0")]

theorem loaded_settings_valid_unfitLabel :
    let s : Settings := { docker := { labelStart := "label", retrying := { attempts := 0 } } }
    ReadFrom unfitLabel {} s ∧ ¬Requirement.attempts.Met s ∧
      load unfitLabel {} = .error (.invalid "PROXY_LABEL_PREFIX" "label"
        "라벨 접두사는 '.'으로 끝나야 합니다") := by
  intro s
  have read : ReadFrom unfitLabel {} s := by
    refine .environment ?_ rfl rfl rfl rfl
    intro path given
    cases given
  obtain ⟨-, refused⟩ := loaded_settings_valid unfitLabel {}
  refine ⟨read, ?_, (refused _ _ read).mpr ?_⟩
  · rw [← meets_iff]
    decide
  · refine ⟨[.networkName, .labelStartLength], .labelStartDot, _, rfl, ?_, ?_, .labelStartDot⟩
    · simp only [← meets_iff]
      decide
    · rw [← meets_iff]
      decide

/-- The settings of a program that nothing is set for are valid. -/
theorem load_default (files : Files.Tree) :
    load [] files = .ok {} ∧ ∀ r : Requirement, r.Met {} := by
  have valid : Settings.validate {} = .ok () := by decide
  exact ⟨rfl, validate_eq_ok_iff.mp valid⟩

end Signpost.Proofs

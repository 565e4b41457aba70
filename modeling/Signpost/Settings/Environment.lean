import Signpost.Settings.Validation
import Signpost.Settings.Words
import Signpost.Text.Number

/-!
# Settings from the environment

Each setting has a variable. What stands around a value is trimmed; a variable that is not there
leaves the default.
-/

namespace Signpost

/-- The variables and their bytes. -/
abbrev Environment := List (String × Text.Bytes)

namespace Settings

/-- Why bytes that are no text are refused. -/
def notTextReason (bytes : Text.Bytes) : String :=
  "environment variable was not valid unicode: " ++ Text.quotedBytes bytes

/-- Reads a variable, or gives the default if it is not there. -/
def readVar {α : Type} (read : List Char → Except String α) (env : Environment) (name : String)
    (default : α) : Except Fault α :=
  match env.lookup name with
  | none => .ok default
  | some bytes =>
    match Text.Utf8.decode? bytes with
    | none => .error (.invalid name "" (notTextReason bytes))
    | some text =>
      match read (Text.trim text) with
      | .ok a => .ok a
      | .error reason => .error (.invalid name (String.ofList text) reason)

def readText (text : List Char) : Except String String :=
  .ok (String.ofList text)

def readFlag (text : List Char) : Except String Bool :=
  match Text.readBool text with
  | some b => .ok b
  | none => .error "provided string was not \x60true\x60 or \x60false\x60"

def readNumber (limit : Nat) (text : List Char) : Except String Nat :=
  match Text.readNat limit text with
  | .ok n => .ok n
  | .error f => .error f.message

def readUInt32 (text : List Char) : Except String UInt32 :=
  UInt32.ofNat <$> readNumber Text.max32 text

def readUInt64 (text : List Char) : Except String UInt64 :=
  UInt64.ofNat <$> readNumber Text.max64 text

/-- The items of a list: trimmed, and those that are empty left out. -/
def listItems (separator : Char) (text : List Char) : List String :=
  (((Text.splitOn separator text).map Text.trim).filter (· ≠ [])).map String.ofList

/-- Reads a variable that holds a list. -/
def readList (env : Environment) (name : String) (separator : Char) :
    Except Fault (List String) := do
  let text ← readVar readText env name ""
  return listItems separator text.toList

namespace Logging

def ofEnv (env : Environment) : Except Fault Logging := do
  let word ← readVar readText env "PROXY_LOG_LEVEL" "info"
  let level ←
    match LogLevel.ofWord? word.toList with
    | some level => pure level
    | none => throw (.invalid "PROXY_LOG_LEVEL" word "유효하지 않은 로그 레벨")
  let format ← readVar LogFormat.read env "PROXY_LOG_FORMAT" .text
  let output ← readVar (fun text => .ok (LogOutput.ofWord text)) env "PROXY_LOG_OUTPUT" .stdout
  return { format, level, output }

end Logging

namespace Docker

def ofEnv (env : Environment) : Except Fault Docker := do
  let enabled ← readVar readFlag env "PROXY_DOCKER_ENABLED" false
  let network ← readVar readText env "PROXY_DOCKER_NETWORK" ""
  let labelStart ← readVar readText env "PROXY_LABEL_PREFIX" "reproxy."
  let excluded ← readList env "PROXY_DOCKER_EXCLUDE" ','
  let attempts ← readVar readUInt32 env "PROXY_DOCKER_RETRY_ATTEMPTS" 3
  let interval ← readVar readUInt64 env "PROXY_DOCKER_RETRY_INTERVAL" 2
  return { enabled, network, labelStart, excluded, retrying := { attempts, interval } }

end Docker

namespace RuleFile

def ofEnv (env : Environment) : Except Fault RuleFile := do
  let enabled ← readVar readFlag env "PROXY_FILE_ENABLED" false
  let path ← readVar readText env "PROXY_FILE_PATH" "routes.toml"
  return { enabled, path }

end RuleFile

namespace StaticRules

def ofEnv (env : Environment) : Except Fault StaticRules := do
  let enabled ← readVar readFlag env "PROXY_STATIC_ENABLED" false
  let rules ← readList env "PROXY_STATIC_RULES" ';'
  return { enabled, rules }

end StaticRules

/-- Reads all settings from variables and validates them. -/
def ofEnv (env : Environment) : Except Fault Settings := do
  let logging ← Logging.ofEnv env
  let docker ← Docker.ofEnv env
  let file ← RuleFile.ofEnv env
  let staticRules ← StaticRules.ofEnv env
  let s : Settings := { logging, docker, file, staticRules }
  s.validate
  return s

end Settings

end Signpost

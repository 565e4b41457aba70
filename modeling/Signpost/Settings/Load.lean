import Signpost.Settings.Environment
import Signpost.Toml.Decode
import Signpost.Toml.Document

/-!
# Settings from a file

The settings are read from a TOML file if the variable `PROXY_CONFIG_FILE` names one, else from the
environment. In a file words are taken as they stand.
-/

namespace Signpost

namespace Settings

open Toml (Decoder)

namespace Logging

/-- The format of logging in a file is written in small letters. -/
def formatOfWord? : String → Option LogFormat
  | "text" => some .text
  | "json" => some .json
  | _ => none

def decode : Decoder Logging := fun v => do
  match ← Toml.Decode.fields ["format", "level", "output"] v with
  | [format, level, output] =>
    let format ← Toml.Decode.withDefault .text (Toml.Decode.word formatOfWord?) format
    let word ← Toml.Decode.withDefault "info" Toml.Decode.string level
    let output ← Toml.Decode.optional Toml.Decode.string output
    match LogLevel.ofWord? word.toList with
    | none => throw (.refused (levelRefused word))
    | some level =>
      let output := (output.map fun path => LogOutput.ofWord path.toList).getD .stdout
      return { format, level, output }
  | _ => throw .wrongType

end Logging

namespace Retrying

def decode : Decoder Retrying := fun v => do
  match ← Toml.Decode.fields ["max_attempts", "interval"] v with
  | [attempts, interval] =>
    let attempts ← Toml.Decode.withDefault 3 (Toml.Decode.natural Text.max32) attempts
    let interval ← Toml.Decode.withDefault 2 (Toml.Decode.natural Text.max64) interval
    return { attempts := .ofNat attempts, interval := .ofNat interval }
  | _ => throw .wrongType

end Retrying

namespace Docker

def decode : Decoder Docker := fun v => do
  match ← Toml.Decode.fields ["enabled", "network", "label_prefix", "excluded", "retry"] v with
  | [enabled, network, labelStart, excluded, retrying] =>
    let enabled ← Toml.Decode.withDefault false Toml.Decode.boolean enabled
    let network ← Toml.Decode.withDefault "" Toml.Decode.string network
    let labelStart ← Toml.Decode.withDefault "reproxy." Toml.Decode.string labelStart
    let excluded ← Toml.Decode.withDefault [] (Toml.Decode.list Toml.Decode.string) excluded
    let retrying ← Toml.Decode.withDefault {} Retrying.decode retrying
    return { enabled, network, labelStart, excluded, retrying }
  | _ => throw .wrongType

end Docker

namespace RuleFile

def decode : Decoder RuleFile := fun v => do
  match ← Toml.Decode.fields ["enabled", "path"] v with
  | [enabled, path] =>
    let enabled ← Toml.Decode.withDefault false Toml.Decode.boolean enabled
    let path ← Toml.Decode.withDefault "routes.toml" Toml.Decode.string path
    return { enabled, path }
  | _ => throw .wrongType

end RuleFile

namespace StaticRules

def decode : Decoder StaticRules := fun v => do
  match ← Toml.Decode.fields ["enabled", "rules"] v with
  | [enabled, rules] =>
    let enabled ← Toml.Decode.withDefault false Toml.Decode.boolean enabled
    let rules ← Toml.Decode.withDefault [] (Toml.Decode.list Toml.Decode.string) rules
    return { enabled, rules }
  | _ => throw .wrongType

end StaticRules

/-- Reads one section into the settings; sections without a meaning are ignored. -/
def decodeSection (s : Settings) (key : String) (v : Toml.Value) : Except Toml.Fault Settings :=
  match key with
  | "logging" => (fun logging => { s with logging }) <$> Logging.decode v
  | "docker" => (fun docker => { s with docker }) <$> Docker.decode v
  | "file" => (fun file => { s with file }) <$> RuleFile.decode v
  | "static" => (fun staticRules => { s with staticRules }) <$> StaticRules.decode v
  | _ => .ok s

/-- Reads the sections in the order in which they stand. -/
def decode (entries : Toml.Entries) : Except Toml.Fault Settings :=
  entries.foldlM (fun s e => decodeSection s e.1 e.2) {}

/-- Reads settings from a TOML text, without validating them. -/
def ofToml (text : List Char) : Except Toml.Fault Settings := do
  decode (← Toml.read text)

/-- Reads settings from a file and validates them. -/
def ofFile (files : Files.Tree) (path : Text.Bytes) : Except Fault Settings :=
  match files.readText path with
  | .error cause => .error (.unreadable (String.ofList (Text.Utf8.decodeLossy path)) cause)
  | .ok text =>
    match ofToml text with
    | .error cause => .error (.unparsable cause)
    | .ok s =>
      match s.validate with
      | .error f => .error f
      | .ok () => .ok s

/-- The path of the configuration file, if a text is given for it. -/
def configPath? (env : Environment) : Option Text.Bytes :=
  match env.lookup "PROXY_CONFIG_FILE" with
  | some path => if (Text.Utf8.decode? path).isSome then some path else none
  | none => none

/-- Reads and validates the settings. -/
def load (env : Environment) (files : Files.Tree) : Except Fault Settings :=
  match configPath? env with
  | some path => ofFile files path
  | none => ofEnv env

end Settings

end Signpost

/-!
# Settings

What can be configured: logging, and the three sources of rules.
-/

namespace Signpost.Settings

inductive LogFormat
  | text
  | json
  deriving DecidableEq, Repr

inductive LogLevel
  | error
  | warn
  | info
  | debug
  | trace
  deriving DecidableEq, Repr

/-- The word that a level is written as in the settings. -/
def LogLevel.word : LogLevel → String
  | error => "error"
  | warn => "warn"
  | info => "info"
  | debug => "debug"
  | trace => "trace"

def LogFormat.word : LogFormat → String
  | text => "text"
  | json => "json"

inductive LogOutput
  | stdout
  | file (path : String)
  deriving DecidableEq, Repr

structure Logging where
  format : LogFormat := .text
  level : LogLevel := .info
  output : LogOutput := .stdout
  deriving DecidableEq, Repr

/-- How often the containers are asked for before giving up, and the seconds in between. -/
structure Retrying where
  attempts : UInt32 := 3
  interval : UInt64 := 2
  deriving DecidableEq, Repr

structure Docker where
  enabled : Bool := false
  /-- The network whose address is used; any network if empty. -/
  network : String := ""
  labelStart : String := "reproxy."
  /-- The names of containers that get no rule. -/
  excluded : List String := []
  retrying : Retrying := {}
  deriving DecidableEq, Repr

structure RuleFile where
  enabled : Bool := false
  path : String := "routes.toml"
  deriving DecidableEq, Repr

structure StaticRules where
  enabled : Bool := false
  rules : List String := []
  deriving DecidableEq, Repr

end Settings

/-- All settings. -/
structure Settings where
  logging : Settings.Logging := {}
  docker : Settings.Docker := {}
  file : Settings.RuleFile := {}
  staticRules : Settings.StaticRules := {}
  deriving DecidableEq, Repr

end Signpost

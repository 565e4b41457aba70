import Signpost.Settings.Basic
import Signpost.Settings.Fault
import Signpost.Text.Blank
import Signpost.Text.Split

/-!
# Validation

Settings are checked section by section, and the first thing that is wrong is reported.
-/

namespace Signpost.Settings

/-- A character of a network's name. -/
def isNetworkChar (c : Char) : Bool :=
  c.isAlphanum || c == '-' || c == '_' || c == '.'

/-- How many bytes the start of a label may have. -/
def labelStartLimit : Nat := 100

/-- How many fields a rule's text has. -/
def fieldCount (rule : String) : Nat :=
  (Text.splitOn ',' rule.toList).length

def hasFieldCount (rule : String) : Bool :=
  fieldCount rule == 3 || fieldCount rule == 4

namespace Docker

def validate (d : Docker) : Except Fault Unit :=
  if !d.network.toList.all isNetworkChar then
    .error (.invalid "PROXY_DOCKER_NETWORK" d.network
      "Docker 네트워크 이름은 영숫자와 -_. 만 포함할 수 있습니다")
  else if labelStartLimit < d.labelStart.utf8ByteSize then
    .error (.invalid "PROXY_LABEL_PREFIX" d.labelStart "라벨 접두사가 너무 깁니다 (최대 100자)")
  else if d.labelStart.toList.getLast? != some '.' then
    .error (.invalid "PROXY_LABEL_PREFIX" d.labelStart "라벨 접두사는 '.'으로 끝나야 합니다")
  else if d.retrying.attempts = 0 then
    .error (.invalid "PROXY_DOCKER_RETRY_ATTEMPTS" (toString d.retrying.attempts.toNat)
      "최소 1회 이상 시도해야 합니다")
  else .ok ()

end Docker

namespace RuleFile

def validate (f : RuleFile) : Except Fault Unit :=
  if f.enabled && (Text.trim f.path.toList).isEmpty then .error (.missing "PROXY_FILE_PATH")
  else .ok ()

end RuleFile

namespace StaticRules

def validate (s : StaticRules) : Except Fault Unit :=
  if !s.enabled then .ok ()
  else
    match s.rules.find? fun rule => !hasFieldCount rule with
    | some rule =>
      .error (.invalid "PROXY_STATIC_RULES" rule
        ("규칙은 필드가 3개 또는 4개여야 합니다 (현재 " ++ toString (fieldCount rule) ++ "개)"))
    | none => .ok ()

end StaticRules

end Settings

def Settings.validate (s : Settings) : Except Settings.Fault Unit := do
  s.docker.validate
  s.file.validate
  s.staticRules.validate

end Signpost

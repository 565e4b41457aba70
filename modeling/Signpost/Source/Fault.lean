import Signpost.Docker.Fault
import Signpost.Files.Tree
import Signpost.Rule
import Signpost.Text.Quoted
import Signpost.Toml.Value

/-!
# Faults of sources

Why a source cannot list its rules.
-/

namespace Signpost.Source

inductive Fault
  | docker (cause : Docker.Fault)
  | unreadable (path : String) (cause : Files.Fault)
  | unparsable (path : String) (cause : Toml.Fault)
  /-- A route in a rules file is no pattern. -/
  | badRoute (path : String) (cause : PatternError)
  | invalidRule (rule reason : String)
  deriving DecidableEq, Repr

namespace Fault

/-- The text of a fault, where `toml` words the faults of a TOML text. -/
def messageWith (toml : Toml.Fault → String) : Fault → String
  | docker cause => "Docker 프로바이더 오류: " ++ cause.message
  | unreadable path cause => "규칙 파일 " ++ path ++ " 읽기 실패: " ++ cause.message
  | unparsable path cause => "규칙 파일 " ++ path ++ " 파싱 실패: " ++ toml cause
  | badRoute path cause => "규칙 파일 " ++ path ++ " 파싱 실패: " ++ cause.message
  | invalidRule rule reason => "잘못된 규칙 " ++ Text.quoted rule ++ ": " ++ reason

def message (f : Fault) : String :=
  f.messageWith Toml.Fault.message

end Fault

end Signpost.Source

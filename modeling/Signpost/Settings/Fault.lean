import Signpost.Files.Tree
import Signpost.Text.Quoted
import Signpost.Toml.Value

/-!
# Faults of settings

Why settings cannot be read or are refused.
-/

namespace Signpost.Settings

/-- A level of logging that there is not. -/
def levelRefused (word : String) : String :=
  "유효하지 않은 로그 레벨: " ++ word

inductive Fault
  | missing (name : String)
  | invalid (name value reason : String)
  | unreadable (path : String) (cause : Files.Fault)
  | unparsable (cause : Toml.Fault)
  deriving DecidableEq, Repr

namespace Fault

/-- The text of a fault, where `toml` words the faults of a TOML text. -/
def messageWith (toml : Toml.Fault → String) : Fault → String
  | missing name => "설정 값 누락: " ++ name
  | invalid name value reason =>
    "설정 " ++ name ++ " 값 " ++ Text.quoted value ++ " 오류: " ++ reason
  | unreadable path cause => "설정 파일 " ++ path ++ " 오류: " ++ cause.message
  | unparsable cause => "설정 파싱 오류: " ++ toml cause

def message (f : Fault) : String :=
  f.messageWith Toml.Fault.message

end Fault

end Signpost.Settings

import Signpost.Settings.Basic
import Signpost.Text.Split

/-!
# Words of the settings

The words for formats, levels and outputs of logging. Capital and small letters are the same.
-/

namespace Signpost.Settings

def LogFormat.ofWord? (word : List Char) : Option LogFormat :=
  match String.ofList (Text.folded word) with
  | "text" => some .text
  | "json" => some .json
  | _ => none

/-- Reads a format, or says why there is none of that name. -/
def LogFormat.read (word : List Char) : Except String LogFormat :=
  match ofWord? word with
  | some format => .ok format
  | none => .error ("Invalid log format: " ++ String.ofList word)

def LogLevel.ofWord? (word : List Char) : Option LogLevel :=
  match String.ofList (Text.folded word) with
  | "error" => some .error
  | "warn" => some .warn
  | "info" => some .info
  | "debug" => some .debug
  | "trace" => some .trace
  | _ => none

/-- Any text but the empty one and `stdout` is the path of a file. -/
def LogOutput.ofWord (word : List Char) : LogOutput :=
  match String.ofList (Text.folded word) with
  | "" => .stdout
  | "stdout" => .stdout
  | _ => .file (String.ofList word)

end Signpost.Settings

import Signpost.Source.Fault
import Signpost.Text.Blank
import Signpost.Text.Split

/-!
# Rules on a line

A rule written as `server,source,target` or `server,source,target,ping`. Blanks around the fields do
not count. No server means every server, and no ping means that there is none.
-/

namespace Signpost.Source

/-- Why a line is no rule. -/
inductive LineFault
  | fieldCount (n : Nat)
  | pattern (cause : PatternError)
  deriving DecidableEq, Repr

def LineFault.reason : LineFault → String
  | fieldCount n => "필드가 3개 또는 4개여야 함 (현재 " ++ toString n ++ "개)"
  | pattern cause => cause.message

namespace Line

/-- The fields of a line. -/
def fields (line : String) : List String :=
  (Text.splitOn ',' line.toList).map fun field => String.ofList (Text.trim field)

/-- The server that a field names. -/
def serverOf (field : String) : String :=
  if field = "" then "*" else field

/-- Makes the rule of the fields. -/
def ofFields : List String → Except LineFault Rule
  | [server, source, target] =>
    match Rule.make .static (serverOf server) source target with
    | .ok r => .ok r
    | .error cause => .error (.pattern cause)
  | [server, source, target, ping] =>
    match Rule.make .static (serverOf server) source target with
    | .ok r => .ok (if ping = "" then r else r.withPing ping)
    | .error cause => .error (.pattern cause)
  | fields => .error (.fieldCount fields.length)

/-- Reads a line. -/
def read (line : String) : Except LineFault Rule :=
  ofFields (fields line)

/-- Writes a rule as a line. -/
def write (r : Rule) : String :=
  match r.ping with
  | none => r.server ++ "," ++ r.pattern.source ++ "," ++ r.target
  | some ping => r.server ++ "," ++ r.pattern.source ++ "," ++ r.target ++ "," ++ ping

/-- The rules of the lines, or the fault of the first line that is no rule. -/
def readAll (lines : List String) : Except Fault (List Rule) :=
  lines.mapM fun line =>
    match read line with
    | .ok r => .ok r
    | .error cause => .error (.invalidRule line cause.reason)

end Line

end Signpost.Source

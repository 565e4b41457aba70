import Signpost.Settings.Basic

/-!
# Log lines

What the program tells while it runs: a message of some level with named values. A line is written
by a part of the program, maybe during some work that has a name and named values too.
-/

namespace Signpost.Log

inductive Value
  | text (s : String)
  | number (n : Nat)
  deriving DecidableEq, Repr

/-- A part of the program that writes lines. -/
inductive Part
  | main
  | service
  | extension
  | rulesFile
  | shutdown
  deriving DecidableEq, Repr

/-- The name under which a part of the program logs. -/
def Part.target : Part → String
  | main => "reverse_proxy_discovery"
  | service => "reverse_proxy_discovery::discovery::service"
  | extension => "reverse_proxy_discovery::discovery::extend"
  | rulesFile => "reverse_proxy_discovery::provider::file"
  | shutdown => "reverse_proxy_discovery::shutdown"

/-- Work during which lines are written. -/
structure Span where
  name : String
  part : Part
  fields : List (String × Value) := []
  deriving DecidableEq, Repr

structure Line where
  level : Settings.LogLevel
  part : Part := .main
  message : String
  fields : List (String × Value) := []
  span : Option Span := none
  deriving DecidableEq, Repr

/-- How much a level lets through: the greater the number, the more. -/
def rank : Settings.LogLevel → Nat
  | .error => 1
  | .warn => 2
  | .info => 3
  | .debug => 4
  | .trace => 5

/-- The digits and letters of a character as they stand between the quotes of a JSON text. -/
def jsonChar (c : Char) : List Char :=
  match c with
  | '"' => ['\\', '"']
  | '\\' => ['\\', '\\']
  | '\n' => ['\\', 'n']
  | '\r' => ['\\', 'r']
  | '\t' => ['\\', 't']
  | c =>
    if c.toNat < 0x20 then
      ['\\', 'u', '0', '0'] ++ (if c.toNat < 0x10 then ['0'] else []) ++ Nat.toDigits 16 c.toNat
    else [c]

def jsonText (s : String) : String :=
  String.ofList ('"' :: s.toList.flatMap jsonChar ++ ['"'])

def Value.json : Value → String
  | text s => jsonText s
  | number n => toString n

def Value.plain : Value → String
  | text s => s
  | number n => toString n

/-- Named values as a JSON object. -/
def jsonFields (fields : List (String × Value)) : String :=
  "\x7b" ++ ",".intercalate (fields.map fun f => jsonText f.1 ++ ":" ++ f.2.json) ++ "\x7d"

/-- The fields of a line, the message among them. -/
def Line.allFields (l : Line) : List (String × Value) :=
  ("message", .text l.message) :: l.fields

/-- A line as a JSON object. -/
def Line.json (l : Line) : String :=
  let span :=
    match l.span with
    | some s => ",\"span\":" ++ jsonFields (s.fields ++ [("name", .text s.name)])
    | none => ""
  "\x7b\"level\":" ++ jsonText l.level.word.toUpper ++ ",\"fields\":" ++ jsonFields l.allFields
    ++ ",\"target\":" ++ jsonText l.part.target ++ span ++ "\x7d"

/-- Named values as plain text. -/
def plainFields (fields : List (String × Value)) : String :=
  " ".intercalate (fields.map fun f => f.1 ++ "=" ++ f.2.plain)

/-- A line as plain text. -/
def Line.plain (l : Line) : String :=
  let span :=
    match l.span with
    | some s => s.name ++ "\x7b" ++ plainFields s.fields ++ "\x7d: "
    | none => ""
  l.level.word.toUpper ++ " " ++ span ++ l.part.target ++ ": " ++ l.message
    ++ (if l.fields = [] then "" else " " ++ plainFields l.fields)

/-- A line in one of the formats. -/
def Line.write (format : Settings.LogFormat) (l : Line) : String :=
  match format with
  | .text => l.plain
  | .json => l.json

end Signpost.Log

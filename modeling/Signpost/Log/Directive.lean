import Signpost.Settings.Words
import Signpost.Text.Blank
import Signpost.Text.Letter
import Signpost.Text.Number
import Signpost.Text.Utf8

/-!
# Log directives

A directive lets lines through up to some level: those of the parts of the program whose name begins
with a text, those written during some work, or those with some field. It is written
`target[work{field=value}]=level`, and most of that may be left out. A level alone is for all
lines.
-/

namespace Signpost.Log

open Signpost.Text (Bytes)

/-- What the value of a field has to be. -/
inductive Wanted
  | number (n : Nat)
  /-- Anything else; no number is like it. -/
  | other (text : String)
  deriving DecidableEq, Repr

def Wanted.ofText (text : String) : Wanted :=
  match Text.readNat Text.max64 text.toList with
  | .ok n => number n
  | .error _ => other text

/-- A field that has to be there. -/
structure FieldTest where
  name : String
  value : Option Wanted := none
  deriving DecidableEq, Repr

/-- Reads `name` or `name=value`; a second equals sign ends the value. -/
def FieldTest.ofText (text : String) : FieldTest :=
  match Text.splitOn '=' text.toList with
  | name :: value :: _ => ⟨String.ofList name, some (.ofText (String.ofList value))⟩
  | _ => ⟨text, none⟩

structure Directive where
  /-- What the name of the part of the program begins with. -/
  target : Option String := none
  /-- The name of the work. -/
  span : Option String := none
  field : Option FieldTest := none
  /-- The greatest rank that is let through: nothing at zero, everything at five. -/
  rank : Nat := 5
  deriving DecidableEq, Repr

/-- Why a text is no directive. -/
inductive DirectiveFault
  | malformed
  | unknownLevel
  deriving DecidableEq, Repr

def DirectiveFault.message : DirectiveFault → String
  | malformed => "invalid filter directive"
  | unknownLevel => "error parsing level filter: expected one of \"off\", \"error\", \"warn\", " ++
      "\"info\", \"debug\", \"trace\", or a number 0-5"

/-- The rank that a word or a number stands for. -/
def rankOf? (text : String) : Option Nat :=
  match Text.readNat Text.max64 text.toList with
  | .ok n => if n ≤ 5 then some n else none
  | .error _ =>
    match String.ofList (Text.folded text.toList) with
    | "off" => some 0
    | "error" => some 1
    | "warn" => some 2
    | "info" => some 3
    | "debug" => some 4
    | "trace" => some 5
    | _ => none

/-- What is being read of a directive, from which byte on. -/
inductive Reading
  | start
  | target (first : Nat)
  | span (first : Nat)
  | field (first : Nat)
  /-- After a field, before the bracket. -/
  | afterField
  /-- After the bracket. -/
  | afterSpan
  | level (first : Nat)
  deriving DecidableEq, Repr

/-- A directive that is being read: the byte that comes next and what is known so far. -/
structure Draft where
  next : Nat := 0
  reading : Reading := .start
  directive : Directive := {}

namespace Draft

/-- A character that a directive may begin with, a bracket apart. -/
def isFirst (c : Char) : Bool :=
  c == '-' || c == ':' || c == '_' || Text.isLetter c || Text.isNumeral c

/-- The bytes from `first` to `stop` as a text. -/
def cut (text : Bytes) (first stop : Nat) : String :=
  String.ofList (Text.Utf8.decodeLossy ((text.take stop).drop first))

/-- What is being read after a character, and what is known then. -/
def read (text : Bytes) (d : Draft) (c : Char) : Except DirectiveFault (Reading × Directive) :=
  let known := d.directive
  match d.reading, c with
  | .start, '[' => .ok (.span (d.next + 1), known)
  | .start, c => if isFirst c then .ok (.target d.next, known) else .error .malformed
  | .target first, '=' =>
    .ok (.level (d.next + 1), { known with target := some (cut text first d.next) })
  | .target first, '[' =>
    .ok (.span (d.next + 1), { known with target := some (cut text first d.next) })
  | .target first, _ => .ok (.target first, known)
  | .span first, ']' => .ok (.afterSpan, { known with span := some (cut text first d.next) })
  | .span first, '\x7b' =>
    let name := cut text first d.next
    .ok (.field (d.next + 1), { known with span := if name = "" then none else some name })
  | .span first, _ => .ok (.span first, known)
  | .field first, '\x7d' =>
    let test := cut text first d.next
    if test = "" then .error .malformed
    else .ok (.afterField, { known with field := some (.ofText test) })
  | .field first, _ => .ok (.field first, known)
  | .afterField, ']' => .ok (.afterSpan, known)
  | .afterField, _ => .error .malformed
  | .afterSpan, '=' => .ok (.level (d.next + 1), known)
  | .afterSpan, _ => .error .malformed
  | .level first, _ => .ok (.level first, known)

/-- Takes a character. -/
def step (text : Bytes) (d : Draft) (c : Char) : Except DirectiveFault Draft := do
  let (reading, directive) ← d.read text c
  return { next := d.next + c.utf8Size, reading, directive }

/-- The directive at the end of the text. -/
def finish (text : Bytes) (d : Draft) : Except DirectiveFault Directive :=
  match d.reading with
  | .target first =>
    let word := cut text first text.length
    match rankOf? word with
    | some rank => .ok { d.directive with rank }
    | none => .ok { d.directive with target := some word }
  | .afterSpan => .ok d.directive
  | .level first =>
    let word := cut text first text.length
    if word = "" then .ok d.directive
    else
      match rankOf? word with
      | some rank => .ok { d.directive with rank }
      | none => .error .unknownLevel
  | _ => .error .malformed

end Draft

/-- Reads a directive. Blanks around it are passed over, but what is cut out is counted from the
beginning of the whole text. -/
def Directive.read (item : List Char) : Except DirectiveFault Directive :=
  let text := Text.Utf8.encode (String.ofList item)
  (Text.trim item).foldlM (Draft.step text) {} >>= Draft.finish text

end Signpost.Log

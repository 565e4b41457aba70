import Signpost.Text.Utf8

/-!
# Paths

A path is a row of parts with slashes between them. It begins at the root if a slash comes first,
else at the working directory. Empty parts and single dots stay where they are; two dots go up. What
a path leads to has the name of its last part, apart from parts that stay where they are.
-/

namespace Signpost.Files

open Signpost.Text (Bytes)

abbrev Name := Bytes

abbrev Path := Bytes

def slash : UInt8 := 0x2F

def dot : UInt8 := 0x2E

/-- The most bytes that a name can have. -/
def longestName : Nat := 255

/-- The most bytes that a path can have. -/
def longestPath : Nat := 4095

/-- Why a path cannot be followed, or the file that it leads to cannot be read. -/
inductive Fault
  | notFound
  | isDirectory
  | notDirectory
  | nameTooLong
  | nulInName
  | notText
  deriving DecidableEq, Repr

def Fault.message : Fault → String
  | notFound => "No such file or directory (os error 2)"
  | isDirectory => "Is a directory (os error 21)"
  | notDirectory => "Not a directory (os error 20)"
  | nameTooLong => "File name too long (os error 36)"
  | nulInName => "file name contained an unexpected NUL byte"
  | notText => "stream did not contain valid UTF-8"

namespace Path

def ofString (s : String) : Path :=
  Text.Utf8.encode s

/-- The path as a text. -/
def shown (p : Path) : String :=
  String.ofList (Text.Utf8.decodeLossy p)

/-- Refuses what is no path at all. -/
def check (p : Path) : Except Fault Unit :=
  if 0 ∈ p then .error .nulInName
  else if p = [] then .error .notFound
  else if longestPath < p.length then .error .nameTooLong
  else .ok ()

def isAbsolute (p : Path) : Bool :=
  p.head? == some slash

/-- The parts of a path between its slashes. -/
def parts : Path → List Name
  | [] => [[]]
  | b :: rest =>
    if b = slash then [] :: parts rest
    else
      match parts rest with
      | [] => [[b]]
      | part :: more => (b :: part) :: more

/-- The path with the given parts. -/
def ofParts (ps : List Name) : Path :=
  List.intercalate [slash] ps

/-- Whether a part stays where it is. -/
def isStill (part : Name) : Bool :=
  part == [] || part == [dot]

/-- Leaves out the parts at the end that stay where they are. -/
def trimEnd (ps : List Name) : List Name :=
  (ps.reverse.dropWhile isStill).reverse

/-- What a path begins with before its names: the slash of the root, or a dot. -/
def head (p : Path) : Path :=
  if isAbsolute p then [slash] else if (parts p).head? = some [dot] then [dot] else []

/-- The parts after the head, up to the last one that goes somewhere. -/
def body (p : Path) : List Name :=
  trimEnd (parts (p.drop (head p).length))

/-- Whether the path can lead to directories only: its last part stays where it is. -/
def asksDirectory (p : Path) : Bool :=
  (parts p).getLast?.any isStill

/-- Whether the last part is a dot. Nothing is made, moved or removed by such a name, but what a
directory holds can be removed by it. -/
def endsInDot (p : Path) : Bool :=
  (parts p).getLast? == some [dot]

/-- The name of what the path leads to; a path that goes up at the end has none. -/
def fileName? (p : Path) : Option Name :=
  (body p).getLast?.filter fun name => name != [dot, dot]

/-- The path without the last part that goes somewhere. -/
def parent? (p : Path) : Option Path :=
  if body p = [] then if head p = [dot] then some [] else none
  else some (head p ++ ofParts (trimEnd (body p).dropLast))

/-- The directory that holds what the path leads to; without one it is the working directory. -/
def directory (p : Path) : Path :=
  match parent? p with
  | none | some [] => [dot]
  | some directory => directory

/-- The path of a name in the directory that a path leads to. -/
def join (p name : Path) : Path :=
  if isAbsolute name then name
  else if p.getLast?.any (· != slash) then p ++ slash :: name
  else p ++ name

end Path

end Signpost.Files

import Signpost.Files.Tree

/-!
# Changes of files

A change of the files, and what someone who watches a directory or a file is told of it. What cannot
be done changes nothing and is not told, and neither is reading.
-/

namespace Signpost.Files

open Signpost.Text (Bytes)

inductive Edit
  | write (path : Path) (content : Bytes)
  /-- Written at another place and then moved to this one. -/
  | replace (path : Path) (content : Bytes)
  | rename (path target : Path)
  | remove (path : Path)
  | read (path : Path)
  | makeDirectory (path : Path)
  deriving DecidableEq, Repr

/-- What a change is told of. -/
inductive Touch
  /-- What is at a place is made, changed, moved or removed. -/
  | entry (p : Place)
  /-- What has an identity is changed, moved or removed. -/
  | itself (id : Identity)
  deriving DecidableEq, Repr

/-- The files after a change, and what is told. -/
structure Change where
  tree : Tree
  touches : List Touch := []

namespace Tree

/-- The place that a path names, if the directory that it is in is there. -/
def placeOf? (t : Tree) (path : Path) : Option Place :=
  match t.walk path.directory, path.fileName? with
  | .ok ⟨id, .directory⟩, some name =>
    if 0 ∉ name ∧ name.length ≤ longestName then some ⟨id, name⟩ else none
  | _, _ => none

/-- What is told when directories have been made or a file after them. -/
def made (before after : Tree) : List Touch :=
  (after.entries.filter fun e => decide (before.fresh ≤ e.2.id)).map fun e => .entry e.1

/-- Whether what is at some place gives way to something that is moved there. -/
def givesWay (t : Tree) (moved old : Entry) : Bool :=
  match moved.node, old.node with
  | .file _, .file _ => true
  | .directory, .directory => t.entries.all fun e => e.1.directory != old.id
  | _, _ => false

/-- Moves what is at a place to another one. Nothing is moved into itself. -/
def move (t : Tree) (p target : Place) : Change :=
  match t.get? p with
  | none => { tree := t }
  | some moved =>
    let after := (t.erase p).put target moved
    let touches : List Touch := [.entry p, .entry target, .itself moved.id]
    if t.holds moved.id target.directory then { tree := t }
    else
      match t.get? target with
      | none => { tree := after, touches }
      | some old =>
        if old.id ≠ moved.id ∧ t.givesWay moved old then
          { tree := after, touches := touches ++ [.itself old.id] }
        else { tree := t }

/-- Removes what is at a place, with all that it holds, or only what it holds. -/
def remove (t : Tree) (p : Place) (spared : Bool) : Change :=
  match t.get? p with
  | none => { tree := t }
  | some e =>
    let (gone, left) := t.entries.partition fun other =>
      t.holds e.id other.2.id && !(spared && other.1 == p)
    { tree := { t with entries := left }
      touches := gone.flatMap fun other => [.entry other.1, .itself other.2.id] }

/-- Writes a file; a directory is left as it is. If what is there is replaced, the file is another
one afterwards. -/
def write (t : Tree) (p : Place) (content : Bytes) (replaced : Bool) : Change :=
  match t.get? p with
  | none => { tree := t.add p (.file content), touches := [.entry p] }
  | some ⟨_, .directory⟩ => { tree := t }
  | some ⟨id, .file _⟩ =>
    { tree := if replaced then t.add p (.file content) else t.put p ⟨id, .file content⟩
      touches := [.entry p, .itself id] }

end Tree

namespace Edit

/-- Writes a file after the directories on the way to it. -/
def writeAt (t : Tree) (path : Path) (content : Bytes) (replaced : Bool) : Change :=
  let parents := (t.makeDirectories path.directory).1
  match path.asksDirectory, parents.placeOf? path with
  | false, some p =>
    let change := parents.write p content replaced
    { change with touches := t.made parents ++ change.touches }
  | _, _ => { tree := parents, touches := t.made parents }

/-- Whether what is at a place is what a path asks for: a directory, if the path asks for one. -/
def fits (t : Tree) (path : Path) (p : Place) : Bool :=
  !path.asksDirectory || (t.get? p).any (·.node == .directory)

/-- Makes a change. -/
def change (t : Tree) : Edit → Change
  | write path content => writeAt t path content false
  | replace path content => writeAt t path content true
  | rename path target =>
    match t.placeOf? path, t.placeOf? target with
    | some p, some q =>
      if !path.endsInDot && !target.endsInDot && fits t path p && fits t target p then t.move p q
      else { tree := t }
    | _, _ => { tree := t }
  | remove path =>
    match t.placeOf? path with
    | some p => if fits t path p then t.remove p path.endsInDot else { tree := t }
    | none => { tree := t }
  | read _ => { tree := t }
  | makeDirectory path =>
    let after := (t.makeDirectories (if path.endsInDot then path.directory else path)).1
    { tree := after, touches := t.made after }

def apply (t : Tree) (e : Edit) : Tree :=
  (e.change t).tree

/-- What is told of a change. -/
def touches (t : Tree) (e : Edit) : List Touch :=
  (e.change t).touches

end Edit

/-- Watching for a file. -/
structure Watch where
  /-- What is watched: the directory that the path of the file names, whatever it is. -/
  target : Identity
  /-- The last name of the path to it. -/
  label : Option Name
  /-- The name of the file. -/
  name : Option Name
  deriving DecidableEq, Repr

namespace Watch

/-- Starts to watch for the file of a path, or tells why its directory cannot be watched. -/
def start (t : Tree) (path : Path) : Except Fault Watch :=
  (fun e : Entry =>
    ⟨e.id, ((t.pathTo t.working).join path.directory).fileName?, path.fileName?⟩)
    <$> t.walk path.directory

/-- Whether a touch is told under the name of the file: one in the directory is told under the name
there, one of what is watched itself under its own. -/
def sees (w : Watch) : Touch → Bool
  | .entry p => p.directory == w.target && some p.name == w.name
  | .itself id => id == w.target && w.label == w.name

/-- Whether a change is taken for one of the file. -/
def notices (w : Watch) (t : Tree) (e : Edit) : Bool :=
  (e.touches t).any w.sees

end Watch

end Signpost.Files

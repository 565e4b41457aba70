import Signpost.Files.Path

/-!
# Files

The files that the program can see. What is there is known by its identity, which it keeps when it
gets another name or another place, and which nothing else ever gets.
-/

namespace Signpost.Files

open Signpost.Text (Bytes)

abbrev Identity := Nat

/-- The identity of the root directory. -/
def root : Identity := 0

inductive Node
  | file (content : Bytes)
  | directory
  deriving DecidableEq, Repr

/-- What is at some place. -/
structure Entry where
  id : Identity
  node : Node
  deriving DecidableEq, Repr

/-- A name in a directory. -/
structure Place where
  directory : Identity
  name : Name
  deriving DecidableEq, Repr

structure Tree where
  /-- The working directory. -/
  working : Identity := root
  /-- The identity of what is made next. -/
  fresh : Identity := root + 1
  entries : List (Place × Entry) := []
  deriving DecidableEq, Repr

namespace Tree

def get? (t : Tree) (p : Place) : Option Entry :=
  t.entries.lookup p

/-- The place of what has an identity; the root has none. -/
def place? (t : Tree) (id : Identity) : Option Place :=
  (t.entries.find? fun e => e.2.id == id).map Prod.fst

/-- The directory that holds what has an identity. The root is above itself. -/
def above (t : Tree) (id : Identity) : Identity :=
  ((t.place? id).map Place.directory).getD root

/-- Whether a directory is on the way up from an identity, itself included, within some steps. -/
def isAbove (t : Tree) (directory : Identity) : (steps : Nat) → Identity → Bool
  | 0, id => id == directory
  | n + 1, id => id == directory || (t.place? id).any fun p => t.isAbove directory n p.directory

/-- Whether something is what has an identity, or within it. -/
def holds (t : Tree) (directory id : Identity) : Bool :=
  t.isAbove directory t.entries.length id

/-- The last names on the way from the root, as many as there are steps. -/
def namesTo (t : Tree) : (steps : Nat) → Identity → List Name
  | 0, _ => []
  | n + 1, id =>
    match t.place? id with
    | some p => t.namesTo n p.directory ++ [p.name]
    | none => []

/-- The path from the root to what has an identity. -/
def pathTo (t : Tree) (id : Identity) : Path :=
  slash :: Path.ofParts (t.namesTo t.entries.length id)

def erase (t : Tree) (p : Place) : Tree :=
  { t with entries := t.entries.filter fun e => e.1 != p }

def put (t : Tree) (p : Place) (e : Entry) : Tree :=
  { t with entries := (p, e) :: (t.erase p).entries }

theorem get?_erase (t : Tree) (p q : Place) :
    (t.erase p).get? q = if q = p then none else t.get? q := by
  simp only [erase, get?]
  induction t.entries with
  | nil => simp
  | cons e rest ih =>
    by_cases he : e.1 = p
    · by_cases hq : q = p
      · simpa [he, hq] using ih
      · have hne : (q == p) = false := by simpa using hq
        obtain ⟨place, entry⟩ := e
        obtain rfl : place = p := he
        simpa [hq, List.lookup_cons, hne] using ih
    · obtain ⟨place, entry⟩ := e
      by_cases hqe : q = place
      · subst hqe
        have hne : q ≠ p := he
        simp [hne]
      · have hne : (q == place) = false := by simpa using hqe
        have hkeep : (place != p) = true := by simpa using he
        simpa [List.filter_cons, hkeep, List.lookup_cons, hne] using ih

theorem get?_put (t : Tree) (p q : Place) (e : Entry) :
    (t.put p e).get? q = if q = p then some e else t.get? q := by
  have herase := get?_erase t p q
  by_cases h : q = p
  · simp [put, get?, h]
  · have hne : (q == p) = false := by simpa using h
    rw [if_neg h] at herase ⊢
    rw [← herase]
    simp [put, get?, List.lookup_cons, hne]

/-- Puts something new at a place. -/
def add (t : Tree) (p : Place) (n : Node) : Tree :=
  { t.put p ⟨t.fresh, n⟩ with fresh := t.fresh + 1 }

/-- Where a path begins. -/
def start (t : Tree) (path : Path) : Entry :=
  ⟨if path.isAbsolute then root else t.working, .directory⟩

/-- Goes along one part of a path. -/
def walkPart (t : Tree) (e : Entry) (part : Name) : Except Fault Entry :=
  if e.node ≠ .directory then .error .notDirectory
  else if Path.isStill part then .ok e
  else if part = [dot, dot] then .ok ⟨t.above e.id, .directory⟩
  else if longestName < part.length then .error .nameTooLong
  else
    match t.get? ⟨e.id, part⟩ with
    | some next => .ok next
    | none => .error .notFound

/-- What a path leads to. -/
def walk (t : Tree) (path : Path) : Except Fault Entry := do
  path.check
  path.parts.foldlM t.walkPart (t.start path)

/-- Goes along the parts of a path and makes a directory wherever nothing is there, until something
is in the way. -/
def makeParts (t : Tree) (e : Entry) : List Name → Tree × Except Fault Entry
  | [] => (t, if e.node = .directory then .ok e else .error .notDirectory)
  | part :: rest =>
    match t.walkPart e part with
    | .ok next => makeParts t next rest
    | .error .notFound =>
      makeParts (t.add ⟨e.id, part⟩ .directory) ⟨t.fresh, .directory⟩ rest
    | .error f => (t, .error f)

/-- Makes the directories along a path that are missing; tells the identity of the last one. -/
def makeDirectories (t : Tree) (path : Path) : Tree × Except Fault Identity :=
  match path.check with
  | .ok () =>
    let (made, e) := t.makeParts (t.start path) path.parts
    (made, Entry.id <$> e)
  | .error f => (t, .error f)

/-- Goes to work in the directory of a path, which is made if it is missing. -/
def enter (t : Tree) (path : Path) : Tree :=
  match t.makeDirectories path with
  | (made, .ok working) => { made with working }
  | (made, .error _) => made

/-- The text of a file. -/
def Node.text : Node → Except Fault (List Char)
  | .directory => .error .isDirectory
  | .file content =>
    match Text.Utf8.decode? content with
    | some text => .ok text
    | none => .error .notText

/-- The text of the file that a path leads to. -/
def readText (t : Tree) (path : Path) : Except Fault (List Char) := do
  Node.text (← t.walk path).node

end Tree

end Signpost.Files

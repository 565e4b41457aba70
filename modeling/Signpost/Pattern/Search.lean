import Signpost.Pattern.Expr
import Std.Data.TreeSet.Basic

/-!
# Search

The first match of an expression in a text. Of all places where a match starts the leftmost counts.
Of the matches that start there the one counts whose choices come first: an earlier branch before a
later one, one more copy of a greedy repetition before none.

Choices are tried depth first. A *fork* is a place in the expression where there is a choice, and
every fork of every copy of a repeated part has its own number. A fork that has been tried at a
place in the text is not tried there again: what follows it is the same, so it failed or is still
under way. This keeps the work linear in the length of the text, and it ends a repetition whose body
takes no character.
-/

namespace Signpost.Pattern

/-- A place in a text. -/
structure Place where
  index : Nat
  before : Option Char
  after : List Char
  deriving DecidableEq, Repr

namespace Place

def ofText (text : List Char) : Place :=
  ⟨0, none, text⟩

def next (p : Place) (c : Char) (rest : List Char) : Place :=
  ⟨p.index + 1, some c, rest⟩

/-- The text from one place to a later one. -/
def textTo (p q : Place) : List Char :=
  p.after.take (q.index - p.index)

end Place

/-- A piece of the text between two places. -/
structure Span where
  start : Place
  stop : Place
  deriving DecidableEq, Repr

def Span.text (s : Span) : List Char :=
  s.start.textTo s.stop

/-- What each group holds, the latest first. -/
abbrev Groups := List (Nat × Span)

/-- The forks that have been tried: the index of the place and the number of the fork. -/
abbrev Tried :=
  Std.TreeSet (Nat × Nat) (compareLex (compareOn Prod.fst) (compareOn Prod.snd))

inductive Attempt
  | matched (stop : Place) (groups : Groups)
  | failed (tried : Tried)

def Attempt.orElse (a : Attempt) (other : Tried → Attempt) : Attempt :=
  match a with
  | matched stop groups => matched stop groups
  | failed tried => other tried

/-- An attempt that starts at a place, with the groups so far. -/
abbrev Trial := Place → Groups → Tried → Attempt

/-- Tries two ways at a fork, the one to take first being `first`. -/
def fork (id : Nat) (first second : Trial) : Trial := fun p groups tried =>
  if tried.contains (p.index, id) then .failed tried
  else (first p groups (tried.insert (p.index, id))).orElse (second p groups)

/-- A fork between one more copy and going on. -/
def forkRepeat (id : Nat) (greedy : Bool) (again leave : Trial) : Trial :=
  if greedy then fork id again leave else fork id leave again

/-- The attempt to match a part whose forks are numbered from the given number, and then what
follows. -/
abbrev Part := Nat → Trial → Trial

/-- Any number of copies. Each copy that comes round again has taken a character, so `fuel` need
only exceed the length of the text that is left. -/
def loop (body : Part) (id : Nat) (greedy : Bool) (follow : Trial) : Nat → Trial
  | 0 => fun _ _ tried => .failed tried
  | fuel + 1 =>
    forkRepeat id greedy
      (fun p => body (id + 1)
        (fun q groups tried =>
          if p.index < q.index then loop body id greedy follow fuel q groups tried
          else .failed tried) p)
      follow

/-- At least one copy. -/
def loopOnce (body : Part) (id : Nat) (greedy : Bool) (follow : Trial) : Trial := fun p =>
  body (id + 1) (loop body id greedy follow (p.after.length + 1)) p

/-- Exactly `n` copies, each with `width` forks. -/
def times (body : Part) (width : Nat) (follow : Trial) : (n : Nat) → (id : Nat) → Trial
  | 0, _ => follow
  | n + 1, id => body id (times body width follow n (id + width))

/-- At most `n` copies. -/
def upTo (body : Part) (width : Nat) (greedy : Bool) (follow : Trial) :
    (n : Nat) → (id : Nat) → Trial
  | 0, _ => follow
  | n + 1, id =>
    forkRepeat id greedy
      (body (id + 1) (upTo body width greedy follow n (id + 1 + width)))
      follow

namespace Expr

mutual

/-- The number of forks. -/
def forks : Expr → Nat
  | empty => 0
  | char _ => 0
  | set _ => 0
  | look _ => 0
  | group _ _ body => forks body
  | concat items => forksAll items
  | choice branches => forksAll branches + 1
  | repetition least most _ body =>
    match most with
    | none => (least + 1) * forks body + 2
    | some m => m * (forks body + 1)

def forksAll : List Expr → Nat
  | [] => 0
  | e :: es => forks e + forksAll es

end

mutual

def attempt (e : Expr) (id : Nat) (follow : Trial) : Trial :=
  match e with
  | empty => follow
  | char c => fun p groups tried =>
    match p.after with
    | [] => .failed tried
    | d :: rest => if c = d then follow (p.next d rest) groups tried else .failed tried
  | set s => fun p groups tried =>
    match p.after with
    | [] => .failed tried
    | d :: rest => if s.contains d then follow (p.next d rest) groups tried else .failed tried
  | look l => fun p groups tried =>
    if l.holds p.before p.after.head? then follow p groups tried else .failed tried
  | group index _ body => fun p =>
    attempt body id (fun q groups tried => follow q ((index, ⟨p, q⟩) :: groups) tried) p
  | concat items => attemptAll items id follow
  | choice branches => fork id (attemptAny branches (id + 1) follow) fun _ _ tried => .failed tried
  | repetition least most greedy body =>
    let part : Part := attempt body
    let width := forks body
    match least, most with
    | 0, none =>
      if body.nullable then forkRepeat id greedy (loopOnce part (id + 1) greedy follow) follow
      else fun p => loop part id greedy follow (p.after.length + 1) p
    | n + 1, none =>
      times part width (loopOnce part (id + n * width) greedy follow) n id
    | n, some m =>
      times part width (upTo part width greedy follow (m - n) (id + n * width)) n id

/-- The items one after the other. -/
def attemptAll (items : List Expr) (id : Nat) (follow : Trial) : Trial :=
  match items with
  | [] => follow
  | e :: es => attempt e id (attemptAll es (id + forks e) follow)

/-- The first branch that leads to a match. -/
def attemptAny (branches : List Expr) (id : Nat) (follow : Trial) : Trial :=
  match branches with
  | [] => fun _ _ tried => .failed tried
  | e :: es => fun p groups tried =>
    (attempt e id follow p groups tried).orElse (attemptAny es (id + forks e) follow p groups)

end

end Expr

/-- A match: the whole of it and what its groups hold. -/
structure Match where
  whole : Span
  groups : Groups
  deriving DecidableEq, Repr

namespace Match

/-- The text that a group holds; group 0 is the whole match. -/
def group? (m : Match) (index : Nat) : Option (List Char) :=
  if index = 0 then some m.whole.text
  else (m.groups.lookup index).map Span.text

/-- Whether the match takes no character. -/
def isEmpty (m : Match) : Bool :=
  m.whole.start.index == m.whole.stop.index

end Match

namespace Expr

/-- A match that starts at the place. -/
def matchAt (e : Expr) (p : Place) (tried : Tried) : Attempt :=
  attempt e 0 (fun q groups _ => .matched q groups) p [] tried

/-- The first match that starts at or after the place with the given text after it. -/
def findFrom (e : Expr) (index : Nat) (before : Option Char) (tried : Tried) :
    List Char → Option Match
  | [] =>
    let p : Place := ⟨index, before, []⟩
    match e.matchAt p tried with
    | .matched stop groups => some ⟨⟨p, stop⟩, groups⟩
    | .failed _ => none
  | c :: rest =>
    let p : Place := ⟨index, before, c :: rest⟩
    match e.matchAt p tried with
    | .matched stop groups => some ⟨⟨p, stop⟩, groups⟩
    | .failed tried => findFrom e (index + 1) (some c) tried rest

def find (e : Expr) (p : Place) : Option Match :=
  e.findFrom p.index p.before ∅ p.after

end Expr

end Signpost.Pattern

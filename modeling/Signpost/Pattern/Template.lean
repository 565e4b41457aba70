import Signpost.Pattern.Search
import Signpost.Text.Number

/-!
# Templates and replacement

A template is a text with references to groups: `$1`, `$name`, `${name}`. `$$` stands for a dollar
sign. `Expr.replaceAll` puts the expanded template in the place of every match.
-/

namespace Signpost.Pattern

inductive Piece
  | char (c : Char)
  | group (index : Nat)
  | named (name : String)
  deriving DecidableEq, Repr

namespace Piece

/-- A reference is a number if it reads as one of 64 bits, else a name. -/
def reference (name : List Char) : Piece :=
  match Text.readNat Text.max64 name with
  | .ok n => group n
  | .error _ => named (String.ofList name)

end Piece

namespace Template

/-- What has been read before the next character of a template. A name is held backwards. -/
inductive Mode
  | text
  | dollar
  | bare (name : List Char)
  | braced (name : List Char)

/-- A character of a name without braces. -/
def isNameChar (c : Char) : Bool :=
  c.isAlphanum || c == '_'

/-- The pieces of the rest of a template. A dollar sign that starts no reference stands for
itself. -/
def pieces : Mode → List Char → List Piece
  | .text, [] => []
  | .dollar, [] => [.char '$']
  | .bare name, [] => [.reference name.reverse]
  | .braced name, [] => [.reference name.reverse]
  | .text, c :: rest =>
    if c = '$' then pieces .dollar rest else .char c :: pieces .text rest
  | .dollar, c :: rest =>
    if c = '$' then .char '$' :: pieces .text rest
    else if c = '{' ∧ '}' ∈ rest then pieces (.braced []) rest
    else if isNameChar c then pieces (.bare [c]) rest
    else .char '$' :: .char c :: pieces .text rest
  | .bare name, c :: rest =>
    if isNameChar c then pieces (.bare (c :: name)) rest
    else if c = '$' then .reference name.reverse :: pieces .dollar rest
    else .reference name.reverse :: .char c :: pieces .text rest
  | .braced name, c :: rest =>
    if c = '}' then .reference name.reverse :: pieces .text rest
    else pieces (.braced (c :: name)) rest

def read (template : List Char) : List Piece :=
  pieces .text template

/-- The text of a piece for a match; a group that is unknown or holds nothing gives no text. -/
def Piece.expand (names : List (String × Nat)) (m : Match) : Piece → List Char
  | .char c => [c]
  | .group index => (m.group? index).getD []
  | .named name => ((names.lookup name).bind m.group?).getD []

def expand (names : List (String × Nat)) (m : Match) (template : List Piece) : List Char :=
  template.flatMap (Piece.expand names m)

end Template

namespace Expr

/-- Replaces the matches at or after a place. An empty match is passed over unless it is `allowed`
at the place itself; right after a match it is not. Every second step takes a character, so twice
the length of the text bounds the steps. -/
def replaceFrom (e : Expr) (template : List Piece) : Nat → Place → (allowed : Bool) → List Char
  | 0, p, _ => p.after
  | fuel + 1, p, allowed =>
    match e.find p with
    | none => p.after
    | some m =>
      if m.isEmpty && !allowed && m.whole.stop.index == p.index then
        match p.after with
        | [] => []
        | c :: rest => c :: replaceFrom e template fuel (p.next c rest) true
      else
        p.textTo m.whole.start ++ Template.expand e.names m template
          ++ replaceFrom e template fuel m.whole.stop false

/-- Replaces every match, from left to right. -/
def replaceAll (e : Expr) (text template : List Char) : List Char :=
  replaceFrom e (Template.read template) (2 * text.length + 2) (Place.ofText text) true

end Expr

end Signpost.Pattern

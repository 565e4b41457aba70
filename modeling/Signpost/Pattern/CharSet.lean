/-!
# Sets of characters

A set of characters is a list of closed ranges of code points. `CharSet.ofRanges` brings a list of
ranges into normal form: ascending, with ranges that touch joined into one. The complement and the
folding of ASCII letters are defined on normal forms.
-/

namespace Signpost.Pattern

/-- The code points from `first` to `last`, both included. It holds nothing if `last < first`. -/
structure CharRange where
  first : Nat
  last : Nat
  deriving DecidableEq, Repr

namespace CharRange

def single (c : Char) : CharRange :=
  ⟨c.toNat, c.toNat⟩

def between (a b : Char) : CharRange :=
  ⟨a.toNat, b.toNat⟩

def contains (r : CharRange) (c : Char) : Bool :=
  decide (r.first ≤ c.toNat) && decide (c.toNat ≤ r.last)

def le (r s : CharRange) : Bool :=
  decide (r.first < s.first) || (decide (r.first = s.first) && decide (r.last ≤ s.last))

/-- Two ranges touch if they overlap or one starts right after the other. -/
def touches (r s : CharRange) : Bool :=
  decide (max r.first s.first ≤ min r.last s.last + 1)

def join (r s : CharRange) : CharRange :=
  ⟨min r.first s.first, max r.last s.last⟩

/-- The part of the range that lies in `first … last`, moved to start at `target`. -/
def moved (r : CharRange) (first last target : Nat) : Option CharRange :=
  let lo := max r.first first
  let hi := min r.last last
  if lo ≤ hi then some ⟨target + (lo - first), target + (hi - first)⟩ else none

/-- The letters of the other case. A range that has both kinds gives those of its small letters
only. -/
def otherCase (r : CharRange) : Option CharRange :=
  match r.moved 0x61 0x7A 0x41 with
  | some s => some s
  | none => r.moved 0x41 0x5A 0x61

end CharRange

/-- The greatest code point. -/
def lastCodePoint : Nat := 0x10FFFF

/-- The character after a code point; the surrogates are no characters. -/
def codePointAfter (n : Nat) : Nat :=
  if n = 0xD7FF then 0xE000 else n + 1

def codePointBefore (n : Nat) : Nat :=
  if n = 0xE000 then 0xD7FF else n - 1

/-- A set of characters, as closed ranges. -/
abbrev CharSet := List CharRange

namespace CharSet

def contains (s : CharSet) (c : Char) : Bool :=
  s.any (·.contains c)

def insertSorted (r : CharRange) : CharSet → CharSet
  | [] => [r]
  | s :: rest => if r.le s then r :: s :: rest else s :: insertSorted r rest

/-- Joins each range of an ascending list to the range before it where they touch. -/
def joinFrom (r : CharRange) : CharSet → CharSet
  | [] => [r]
  | s :: rest => if r.touches s then joinFrom (r.join s) rest else r :: joinFrom s rest

def ofRanges (ranges : List CharRange) : CharSet :=
  match ranges.foldr insertSorted [] with
  | [] => []
  | r :: rest => joinFrom r rest

/-- Adds the letters of the other case, range by range. -/
def foldCase (s : CharSet) : CharSet :=
  ofRanges (s ++ s.filterMap CharRange.otherCase)

/-- The gaps between the ranges of a normal form, after a range that ends at `last`. -/
def gapsAfter (last : Nat) : CharSet → CharSet
  | [] => if last < lastCodePoint then [⟨codePointAfter last, lastCodePoint⟩] else []
  | r :: rest => ⟨codePointAfter last, codePointBefore r.first⟩ :: gapsAfter r.last rest

def complement : CharSet → CharSet
  | [] => [⟨0, lastCodePoint⟩]
  | r :: rest =>
    (if 0 < r.first then [⟨0, codePointBefore r.first⟩] else []) ++ gapsAfter r.last rest

def digit : CharSet := [.between '0' '9']
def lower : CharSet := [.between 'a' 'z']
def upper : CharSet := [.between 'A' 'Z']
def alpha : CharSet := ofRanges (upper ++ lower)
def alnum : CharSet := ofRanges (digit ++ alpha)
def word : CharSet := ofRanges (.single '_' :: alnum)
def blank : CharSet := ofRanges [.single ' ', .single '\t']
def space : CharSet := ofRanges [⟨0x09, 0x0D⟩, .single ' ']
def punct : CharSet :=
  ofRanges [.between '!' '/', .between ':' '@', .between '[' '\x60', .between '{' '~']
def graph : CharSet := [.between '!' '~']
def print : CharSet := [.between ' ' '~']
def ascii : CharSet := [⟨0x00, 0x7F⟩]
def cntrl : CharSet := ofRanges [⟨0x00, 0x1F⟩, .single '\x7F']
def xdigit : CharSet := ofRanges [.between '0' '9', .between 'A' 'F', .between 'a' 'f']

/-- The set that a name stands for inside `[: :]`. -/
def named? (name : List Char) : Option CharSet :=
  match String.ofList name with
  | "alnum" => some alnum
  | "alpha" => some alpha
  | "ascii" => some ascii
  | "blank" => some blank
  | "cntrl" => some cntrl
  | "digit" => some digit
  | "graph" => some graph
  | "lower" => some lower
  | "print" => some print
  | "punct" => some punct
  | "space" => some space
  | "upper" => some upper
  | "word" => some word
  | "xdigit" => some xdigit
  | _ => none

/-- All characters. -/
def all : CharSet := [⟨0, lastCodePoint⟩]

/-- All characters but the line feed. -/
def notLineFeed : CharSet := complement [.single '\n']

/-- All characters but the line feed and the carriage return. -/
def notLineEnd : CharSet := complement [.single '\n', .single '\r']

end CharSet

end Signpost.Pattern

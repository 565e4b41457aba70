import Signpost.Pattern.CharSet

/-!
# Expressions

What a pattern means, as a tree. Groups are numbered from 1 in the order in which they open; number
0 is the whole match.
-/

namespace Signpost.Pattern

/-- A condition on a place between two characters. -/
inductive Look
  | textStart
  | textEnd
  | lineStart
  | lineEnd
  /-- A line starts after `\n`, and after `\r` unless `\n` follows. -/
  | anyLineStart
  /-- A line ends before `\r`, and before `\n` unless `\r` precedes. -/
  | anyLineEnd
  | wordBoundary
  | notWordBoundary
  | wordStart
  | wordEnd
  | wordStartHalf
  | wordEndHalf
  deriving DecidableEq, Repr

namespace Look

/-- Letters, digits and the underscore of ASCII. -/
def isWord (c : Char) : Bool :=
  c.isAlphanum || c == '_'

/-- Whether the condition holds between the character before and the character after. -/
def holds (look : Look) (before after : Option Char) : Bool :=
  let left := before.any isWord
  let right := after.any isWord
  match look with
  | textStart => before.isNone
  | textEnd => after.isNone
  | lineStart => before.isNone || before == some '\n'
  | lineEnd => after.isNone || after == some '\n'
  | anyLineStart =>
    before.isNone || before == some '\n' || (before == some '\r' && after != some '\n')
  | anyLineEnd =>
    after.isNone || after == some '\r' || (after == some '\n' && before != some '\r')
  | wordBoundary => left != right
  | notWordBoundary => left == right
  | wordStart => !left && right
  | wordEnd => left && !right
  | wordStartHalf => !left
  | wordEndHalf => !right

end Look

inductive Expr
  | empty
  | char (c : Char)
  | set (s : CharSet)
  | look (l : Look)
  | group (index : Nat) (name : Option String) (body : Expr)
  | concat (items : List Expr)
  | choice (branches : List Expr)
  /-- At least `least` and at most `most` copies of `body`, without a bound if `most` is `none`. -/
  | repetition (least : Nat) (most : Option Nat) (greedy : Bool) (body : Expr)

namespace Expr

/-- The items one after the other; a single item stands for itself. -/
def ofItems : List Expr → Expr
  | [] => empty
  | [e] => e
  | es => concat es

/-- One of the branches; a single branch stands for itself. -/
def ofBranches : List Expr → Expr
  | [] => empty
  | [e] => e
  | es => choice es

/-- A repetition. No copy is the empty expression, exactly one copy is the body itself. -/
def ofRepetition (least : Nat) (most : Option Nat) (greedy : Bool) (body : Expr) : Expr :=
  if least = 0 ∧ most = some 0 then empty
  else if least = 1 ∧ most = some 1 then body
  else repetition least most greedy body

mutual

/-- Whether the expression can match without taking a character, as far as its form tells: every
condition on a place counts as one that can hold. -/
def nullable : Expr → Bool
  | empty => true
  | char _ => false
  | set _ => false
  | look _ => true
  | group _ _ body => nullable body
  | concat items => nullableAll items
  | choice branches => nullableAny branches
  | repetition least _ _ body => least == 0 || nullable body

def nullableAll : List Expr → Bool
  | [] => true
  | e :: es => nullable e && nullableAll es

def nullableAny : List Expr → Bool
  | [] => false
  | e :: es => nullable e || nullableAny es

end

mutual

/-- The length of the longest way from the root to a leaf. -/
def depth : Expr → Nat
  | empty => 0
  | char _ => 0
  | set _ => 0
  | look _ => 0
  | group _ _ body => depth body + 1
  | concat items => depthMax items + 1
  | choice branches => depthMax branches + 1
  | repetition _ _ _ body => depth body + 1

/-- The depth of the deepest expression. -/
def depthMax : List Expr → Nat
  | [] => 0
  | e :: es => max (depth e) (depthMax es)

end

mutual

/-- The groups that have a name, in the order in which they open. -/
def names : Expr → List (String × Nat)
  | empty => []
  | char _ => []
  | set _ => []
  | look _ => []
  | group index name body =>
    match name with
    | some n => (n, index) :: names body
    | none => names body
  | concat items => namesAll items
  | choice branches => namesAll branches
  | repetition _ _ _ body => names body

def namesAll : List Expr → List (String × Nat)
  | [] => []
  | e :: es => names e ++ namesAll es

end

mutual

/-- The greatest number of a group. -/
def lastGroup : Expr → Nat
  | empty => 0
  | char _ => 0
  | set _ => 0
  | look _ => 0
  | group index _ body => max index (lastGroup body)
  | concat items => lastGroupAll items
  | choice branches => lastGroupAll branches
  | repetition _ _ _ body => lastGroup body

def lastGroupAll : List Expr → Nat
  | [] => 0
  | e :: es => max (lastGroup e) (lastGroupAll es)

end

end Expr

end Signpost.Pattern

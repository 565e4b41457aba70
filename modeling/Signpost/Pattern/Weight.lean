import Signpost.Pattern.Expr
import Signpost.Total

/-!
# The weight of a pattern

A pattern is refused if the automaton that would run it takes too much room. The weight is that
room in bytes, counted from the expression alone: a counted repetition weighs as much as its copies
written out.
-/

namespace Signpost.Pattern

namespace Expr

/-- A state of the automaton. -/
def stateWeight : Nat := 32

/-- One way out of a state that has several. -/
def branchWeight : Nat := 4

/-- A state with two ways out. -/
def splitWeight : Nat := stateWeight + 2 * branchWeight

/-- The greatest weight that is accepted. -/
def weightLimit : Nat := 10485760

mutual

/-- The weight of the states of an expression. -/
def statesWeight : Expr → Nat
  | empty => stateWeight
  | char _ => stateWeight
  | set s => stateWeight + 8 * s.length
  | look _ => stateWeight
  | group _ _ body => 2 * stateWeight + statesWeight body
  | concat items => statesWeightAll items
  | choice branches =>
    2 * stateWeight + branchWeight * branches.length + statesWeightAll branches
  | repetition least most _ body =>
    let copy := statesWeight body
    match least, most with
    | 0, none =>
      if body.nullable then 2 * splitWeight + stateWeight + copy else splitWeight + copy
    | n, none => n * copy + splitWeight
    | 0, some 1 => splitWeight + stateWeight + copy
    | 0, some m => stateWeight + m * (copy + splitWeight) + stateWeight
    | n, some m =>
      if m = n then n * copy else m * copy + (m - n) * splitWeight + stateWeight

def statesWeightAll : List Expr → Nat
  | [] => 0
  | e :: es => statesWeight e + statesWeightAll es

end

/-- The weight of the whole: the states, group 0 and the final state around them, 16 for each group,
and for each name its length and 4. -/
def weight (e : Expr) : Nat :=
  statesWeight e + 3 * stateWeight + 16 * (e.lastGroup + 1)
    + total (fun p => p.1.utf8ByteSize + 4) e.names

end Expr

end Signpost.Pattern

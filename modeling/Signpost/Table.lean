import Signpost.Rule

/-!
# Routing tables

A table is a list of rules in order of precedence. A query is answered by the first rule that
applies to its server and changes its path.
-/

namespace Signpost

abbrev Table := List Rule

namespace Table

/-- The new path and whether a rule changed it. -/
def lookUp : Table → (server path : String) → String × Bool
  | [], _, path => (path, false)
  | r :: rest, server, path =>
    let target := r.redirect path
    if r.appliesTo server && target != path then (target, true) else lookUp rest server path

/-- The servers of the rules that are not for every server. -/
def servers (t : Table) : List String :=
  (t.filter (fun r => !r.isCatchAll)).map Rule.server

/-- What a source with the given origin adds to a table. -/
def ofSource (origin : Origin) (rules : List Rule) : Table :=
  rules.map fun r => { r.extend with origin := origin }

/-- What a source with the given origin adds to a table when it is asked. A source that fails adds
nothing. -/
def contribution {ε : Type} (origin : Origin) : Except ε (List Rule) → Table
  | .ok rules => ofSource origin rules
  | .error _ => []

/-- The table made of the answers of all sources, in their order. -/
def ofAnswers {ε : Type} (answers : List (Origin × Except ε (List Rule))) : Table :=
  answers.flatMap fun a => contribution a.1 a.2

end Table

end Signpost

import Signpost.Docker.Container

/-!
# Events

What the daemon tells of a change. The events that may change the rules are those by which a
container starts to run or ceases to.
-/

namespace Signpost.Docker

structure Actor where
  id : Option String := none
  attributes : Option (List (String × String)) := none
  deriving DecidableEq, Repr

structure Event where
  /-- The kind of thing that has changed. -/
  kind : Option String := none
  action : Option String := none
  actor : Option Actor := none
  deriving DecidableEq, Repr

namespace Event

/-- The kind of events that are asked for. -/
def watchedKind : String := "container"

/-- The actions that are asked for. -/
def watchedActions : List String :=
  ["start", "stop", "die", "destroy", "restart", "pause", "unpause"]

/-- What a subscription asks the daemon for. -/
def filters : List (String × List String) :=
  [("type", [watchedKind]), ("event", watchedActions)]

/-- The name of the container that an event is about. -/
def subject? (e : Event) : Option String := do
  let actor ← e.actor
  match actor.attributes.bind fun attributes => attributes.lookup "name" with
  | some name => return bareName name
  | none => actor.id

/-- The container that an event is about, if the event is a watched one. -/
def watched? (e : Event) : Option String :=
  if e.kind = some watchedKind then
    match e.action with
    | some action => if watchedActions.contains action then e.subject? else none
    | none => none
  else none

/-- Whether the rules may have changed by an event. -/
def isRelevant (s : Settings.Docker) (e : Event) : Bool :=
  match e.watched? with
  | some name => !s.excluded.contains name
  | none => false

end Event

end Signpost.Docker

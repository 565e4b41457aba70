import Signpost.Rule
import Signpost.Settings.Basic
import Signpost.Text.Number

/-!
# Containers

What the daemon tells of a container and the rule that is made of it. Labels that begin with the
configured start say how the container is to be reached; what they leave open has a default.
-/

namespace Signpost.Docker

structure Container where
  id : Option String := none
  names : Option (List String) := none
  state : Option String := none
  labels : Option (List (String × String)) := none
  /-- The ports that the container listens on. -/
  ports : Option (List Nat) := none
  /-- The networks that the container is attached to, with its address in each. -/
  networks : Option (List (String × Option String)) := none
  deriving DecidableEq, Repr

/-- A name without the slashes in front of it. -/
def bareName (name : String) : String :=
  String.ofList (name.toList.dropWhile (· == '/'))

/-- The entry whose key comes first in the order of characters. -/
def firstByKey {α : Type} : List (String × α) → Option (String × α)
  | [] => none
  | e :: rest =>
    match firstByKey rest with
    | none => some e
    | some f => if f.1 < e.1 then some f else some e

/-- A text that is there and not empty. -/
def nonEmpty (text : Option String) : Option String :=
  text.filter (· ≠ "")

namespace Container

/-- The first name; without any the identifier stands for it. -/
def name (c : Container) : String :=
  match c.names.bind List.head? with
  | some name => bareName name
  | none => c.id.getD "unknown"

/-- The value of a label, if it is not empty. -/
def label (s : Settings.Docker) (c : Container) (key : String) : Option String :=
  nonEmpty (c.labels.bind fun labels => labels.lookup (s.labelStart ++ key))

/-- The address in the configured network. If none is configured, it is that in the network whose
name comes first. -/
def address (s : Settings.Docker) (c : Container) : Option String := do
  let networks ← c.networks
  let address ←
    if s.network = "" then (firstByKey networks).map Prod.snd else networks.lookup s.network
  nonEmpty address

/-- The port of the label, or the first one that the container listens on. -/
def port (s : Settings.Docker) (c : Container) : Option Nat :=
  match (c.label s "port").bind fun text => (Text.readNat Text.max16 text.toList).toOption with
  | some port => some port
  | none => c.ports.bind List.head?

/-- Whether the container is to get no rule. -/
def isExcluded (s : Settings.Docker) (c : Container) : Bool :=
  s.excluded.contains c.name

def isRunning (c : Container) : Bool :=
  c.state == some "running"

/-- What stands before the paths of a container. -/
def base (address : String) (port : Nat) : String :=
  "http://" ++ address ++ ":" ++ toString port

/-- A place given by a label: a path is one of the container itself. -/
def place (base : String) (label : String) : String :=
  if label.toList.head? = some '/' then base ++ label else label

/-- The pattern of a container without a route. -/
def defaultRoute (name : String) : String :=
  "^/api/" ++ name ++ "/(.*)"

/-- The rule that sends paths to a container at a base. -/
def ruleAt (s : Settings.Docker) (c : Container) (base : String) : Except PatternError Rule :=
  let server := (c.label s "server").getD "*"
  let route := (c.label s "route").getD (defaultRoute c.name)
  let dest := ((c.label s "dest").map (place base)).getD (base ++ "/$1")
  let ping := ((c.label s "ping").map (place base)).getD (base ++ "/ping")
  (·.withPing ping) <$> Rule.make .docker server route dest

/-- The rule of a container, if it can be reached and its route is a pattern. -/
def rule? (s : Settings.Docker) (c : Container) : Option Rule :=
  if c.isExcluded s || !c.isRunning then none
  else do
    let address ← c.address s
    let port ← c.port s
    (c.ruleAt s (base address port)).toOption

end Container

/-- The rules of the containers, in their order. -/
def rules (s : Settings.Docker) (containers : List Container) : List Rule :=
  containers.filterMap (Container.rule? s)

end Signpost.Docker

import Signpost.Pattern

/-!
# Rules

A rule sends the paths of a server that its pattern matches to another place.
-/

namespace Signpost

/-- Where a rule comes from. -/
inductive Origin
  | docker
  | static
  | file
  deriving DecidableEq, Repr

def Origin.name : Origin → String
  | docker => "docker"
  | static => "static"
  | file => "file"

structure Rule where
  server : String
  pattern : Pattern
  /-- The template that replaces each match. -/
  target : String
  origin : Origin
  /-- Where the health of the target can be asked for. -/
  ping : Option String := none
  deriving DecidableEq

/-- A pattern that is refused. -/
structure PatternError where
  source : String
  reason : String
  deriving DecidableEq, Repr

def PatternError.message (e : PatternError) : String :=
  "잘못된 소스 패턴: " ++ e.source ++ " (" ++ e.reason ++ ")"

namespace Rule

/-- A rule without a ping. -/
def make (origin : Origin) (server source target : String) : Except PatternError Rule :=
  match Pattern.compile source with
  | .ok pattern => .ok { server, pattern, target, origin }
  | .error fault => .error ⟨source, fault.message⟩

def withPing (r : Rule) (ping : String) : Rule :=
  { r with ping := some ping }

/-- A rule for every server. -/
def isCatchAll (r : Rule) : Bool :=
  r.server == "" || r.server == "*"

/-- Whether the rule applies to a server. -/
def appliesTo (r : Rule) (server : String) : Bool :=
  r.isCatchAll || r.server == server

/-- The path with every match replaced. -/
def redirect (r : Rule) (path : String) : String :=
  r.pattern.replaceAll path r.target

/-- A text less one slash at its end. -/
def dropSlash (text : String) : String :=
  let cs := text.toList
  if cs.getLast? = some '/' then String.ofList cs.dropLast else text

/-- Whether a text occurs in another one. -/
def occursIn (part : List Char) : List Char → Bool
  | [] => part.isEmpty
  | c :: rest => part.isPrefixOf (c :: rest) || occursIn part rest

/-- A prefix rule: its source ends in a slash and has no parenthesis, and its target has no `$1`. -/
def isPrefixRule (r : Rule) : Bool :=
  r.pattern.source.toList.getLast? == some '/' && !r.pattern.source.toList.contains '('
    && !occursIn "$1".toList r.target.toList

/-- The longer pattern of a prefix rule, which captures what follows the prefix. -/
def longerSource (r : Rule) : String :=
  "^" ++ dropSlash r.pattern.source ++ "/(.*)"

/-- Spells a prefix rule out: what follows the prefix is captured and put after the target. Other
rules, and a rule whose longer pattern is refused, stay as they are. -/
def extend (r : Rule) : Rule :=
  if r.isPrefixRule then
    match Pattern.compile r.longerSource with
    | .ok pattern => { r with pattern := pattern, target := dropSlash r.target ++ "/$1" }
    | .error _ => r
  else r

/-- Why the longer pattern of a prefix rule is refused, if it is. -/
def extensionFault? (r : Rule) : Option PatternError :=
  if r.isPrefixRule then
    match Pattern.compile r.longerSource with
    | .ok _ => none
    | .error fault => some ⟨r.longerSource, fault.message⟩
  else none

end Rule

end Signpost

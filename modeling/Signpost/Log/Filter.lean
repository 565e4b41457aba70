import Signpost.Log
import Signpost.Log.Directive
import Signpost.Settings.Environment
import Signpost.Text.Split

/-!
# Log filters

Which lines are written. There are directives in the variable `RUST_LOG`, and the level of the
settings is one more, for all lines. Of the directives that do not ask for work or for a value, the
most special one that fits a line decides. What it holds back is let through after all if another
directive fits the work during which it is written.
-/

namespace Signpost.Log

/-- The texts in the variable that should be directives. -/
def items (env : Environment) : List (List Char) :=
  match (env.lookup "RUST_LOG").bind Text.Utf8.decode? with
  | some text => (Text.splitOn ',' text).filter (· != [])
  | none => []

/-- What is told about a text that is no directive. -/
def complaint? (item : List Char) : Option String :=
  match Directive.read item with
  | .ok _ => none
  | .error f => some ("ignoring `" ++ String.ofList item ++ "`: " ++ f.message)

/-- What is told about the texts that are no directives. -/
def complaints (env : Environment) : List String :=
  (items env).filterMap complaint?

/-- The directives of the variable and then that of the settings. -/
def directives (env : Environment) (level : Settings.LogLevel) : List Directive :=
  ((items env).filterMap fun item => (Directive.read item).toOption) ++ [{ rank := rank level }]

namespace Directive

/-- Whether the directive is for lines by themselves. -/
def isStatic (d : Directive) : Bool :=
  d.span.isNone && (d.field.bind FieldTest.value).isNone

/-- Whether the directive is for work. -/
def isDynamic (d : Directive) : Bool :=
  d.span.isSome || d.field.isSome

/-- Whether the directive is for a part of the program. -/
def isFor (d : Directive) (p : Part) : Bool :=
  d.target.all fun target => target.toList.isPrefixOf p.target.toList

/-- Whether the directive asks for a field that is there. -/
def asksFor (d : Directive) (fields : List (String × Value)) : Bool :=
  d.field.all fun test => (fields.lookup test.name).isSome

/-- Whether the directive fits a line by itself. -/
def fits (d : Directive) (l : Line) : Bool :=
  d.isStatic && d.isFor l.part && d.asksFor l.allFields

/-- Whether another directive is at least as special: it has a longer target, or it asks for a
field, or for one whose name comes later. -/
def yields (d other : Directive) : Bool :=
  let size (d : Directive) : Nat := (d.target.map fun t => t.utf8ByteSize + 1).getD 0
  if size d ≠ size other then size d < size other
  else
    match d.field, other.field with
    | none, _ => true
    | some _, none => false
    | some f, some g => f.name ≤ g.name

/-- Whether a value is what the directive asks for, if it asks for one. -/
def accepts (test : FieldTest) (v : Value) : Bool :=
  match test.value, v with
  | none, _ => true
  | some (.number m), .number n => m == n
  | some _, _ => false

/-- Whether the directive fits work. -/
def fitsSpan (d : Directive) (s : Span) : Bool :=
  d.isDynamic && d.isFor s.part && d.span.all (· == s.name)
    && d.field.all fun test => (s.fields.lookup test.name).any (accepts test)

/-- Whether another directive is for the same and so takes the place of this one. -/
def isReplacedBy (d other : Directive) : Bool :=
  d.target == other.target && d.span == other.span && d.field == other.field

end Directive

/-- The most special directive; of those that are equally special the last. -/
def mostSpecial : List Directive → Option Directive
  | [] => none
  | d :: rest =>
    match mostSpecial rest with
    | none => some d
    | some other => if d.yields other then some other else some d

/-- The directives that nothing takes the place of. -/
def lasting : List Directive → List Directive
  | [] => []
  | d :: rest => if rest.any d.isReplacedBy then lasting rest else d :: lasting rest

/-- The greatest rank of a line that is let through by itself. -/
def limit (ds : List Directive) (l : Line) : Nat :=
  ((mostSpecial (ds.filter (·.fits l))).map Directive.rank).getD 0

/-- The greatest rank that any directive lets through. A value may be known only later, so a
directive that asks for one counts as much as any. -/
def highest (ds : List Directive) : Nat :=
  ds.foldl (fun n d => max n (if (d.field.bind FieldTest.value).isSome then 5 else d.rank)) 0

/-- The greatest rank of the lines that are let through during work. Work is told of at the level of
information: it counts for nothing if no directive lets that through. -/
def spanLimit (ds : List Directive) (s : Span) : Nat :=
  if highest ds < rank .info then 0
  else ((lasting ds).filter (·.fitsSpan s)).foldl (fun n d => max n d.rank) 0

/-- Whether a line is written. -/
def lets (ds : List Directive) (l : Line) : Bool :=
  rank l.level ≤ limit ds l || l.span.any fun s => rank l.level ≤ spanLimit ds s

/-- The lines that are written. -/
def shown (env : Environment) (level : Settings.LogLevel) (lines : List Line) : List Line :=
  lines.filter (lets (directives env level))

end Signpost.Log

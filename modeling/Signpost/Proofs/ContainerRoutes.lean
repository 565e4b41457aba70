import Signpost.Proofs.ContainerData
import Signpost.Proofs.LiteralRewriting

/-!
# The paths of containers

Which paths the rule of a container answers, and with what. A container without a route has the
paths that begin with its name, where a dot of the name stands for any character. A route that is
a plain prefix is one if a label gives the place; if none does, it is replaced wherever it stands.
-/

namespace Signpost.Proofs
open Docker Pattern Pattern.Expr

section Rules

variable {settings : Settings.Docker} {c : Container} {ip : String} {port : Nat}

/-- A container that runs, with the address and the port that its rule leads to. -/
structure RunsAt (settings : Settings.Docker) (c : Container) (ip : String) (port : Nat) :
    Prop where
  included : c.name ∉ settings.excluded
  running : c.state = some "running"
  address : HasAddress settings c ip
  hasPort : HasPort settings c port

lemma RunsAt.ruleFor (h : RunsAt settings c ip port) {route server target : String}
    {pattern : Pattern} (routed : LabelOr settings c "route" ("^/api/" ++ c.name ++ "/(.*)") route)
    (compiled : Pattern.compile route = .ok pattern)
    (named : LabelOr settings c "server" "*" server)
    (placed : PlaceOr settings c "dest" (Container.base ip port) "/$1" target) :
    ∃ ping, RuleFor settings c { server, pattern, target, origin := .docker, ping } :=
  ⟨_, .intro h.included h.running h.address h.hasPort routed compiled named placed
    (placeOr_iff.mpr rfl)⟩

lemma plain_base (plain : '$' ∉ ip.toList) : '$' ∉ (Container.base ip port).toList := by
  have digits : '$' ∉ Nat.toDigits 10 port := by
    intro mem
    exact absurd (Nat.isDigit_of_mem_toDigits (by decide) (by decide) mem) (by decide)
  simp [Container.base, plain, digits]

end Rules

section Names

/-- A character of a container's name. -/
def isNameChar (c : Char) : Bool :=
  c.isAlphanum || c == '_' || c == '.' || c == '-'

/-- A name that the daemon allows. It begins with a letter or a digit. -/
def IsContainerName (name : String) : Prop :=
  name.toList.head?.any Char.isAlphanum = true ∧ name.toList.all isNameChar = true

/-- What the paths of a container without a route begin with. -/
def ownPath (name : String) : String :=
  "/api/" ++ name ++ "/"

lemma readsAlone_of_isNameChar {c : Char} (h : isNameChar c = true) : readsAlone c = true := by
  have literal_of_isAlphanum (alphanum : c.isAlphanum = true) : isLiteral c = true := by
    have special : ∀ d ∈ "\\.+*?()|[]\x7b\x7d^$".toList, (!d.isAlphanum) = true :=
      List.all_eq_true.mp (by decide)
    rw [isLiteral, Bool.not_eq_true', List.contains_eq_mem, decide_eq_false_iff_not]
    intro mem
    have other := special c mem
    rw [alphanum] at other
    cases other
  simp only [isNameChar, Bool.or_eq_true, beq_iff_eq] at h
  rcases h with ((alphanum | rfl) | rfl) | rfl
  · rw [readsAlone, literal_of_isAlphanum alphanum, Bool.true_or]
  all_goals decide

lemma readsAlone_of_mem_ownPath {name : String} (legal : IsContainerName name) :
    ∀ c ∈ (ownPath name).toList, readsAlone c = true := by
  have ends : ∀ c ∈ "/api/".toList, readsAlone c = true := List.all_eq_true.mp (by decide)
  intro c mem
  simp only [ownPath, String.toList_append, List.mem_append] at mem
  rcases mem with (mem | mem) | mem
  · exact ends c mem
  · exact readsAlone_of_isNameChar (List.all_eq_true.mp legal.2 c mem)
  · rw [List.mem_singleton.mp mem]
    decide

lemma read_defaultRoute {name : String} (legal : IsContainerName name)
    (fits : 32 * name.toList.length + 16 * name.toList.count '.' + 504 ≤ weightLimit) :
    Expr.read ("^/api/" ++ name ++ "/(.*)").toList =
      .ok (lineExpr ((ownPath name).toList.map single)) := by
  have text : ("^/api/" ++ name ++ "/(.*)").toList =
      '^' :: (ownPath name).toList ++ "(.*)".toList := by
    simp [ownPath]
  have length : (ownPath name).toList.length = name.toList.length + 6 := by
    simp [ownPath]
  have dots : (ownPath name).toList.count '.' = name.toList.count '.' := by
    simp [ownPath]
  rw [text, read_lineExpr (readsAlone_of_mem_ownPath legal), length, dots, if_neg]
  omega

lemma standsFor_ownPath_iff {name : String} {own : List Char} :
    StandsFor (ownPath name).toList own ↔
      ∃ other : String, StandsFor name.toList other.toList ∧ own = (ownPath other).toList := by
  have front : '.' ∉ "/api/".toList := by decide
  have back : '.' ∉ "/".toList := by decide
  simp only [ownPath, String.toList_append, standsFor_append_iff, standsFor_iff_of_notMem front,
    standsFor_iff_of_notMem back]
  constructor
  · rintro ⟨_, _, rfl, ⟨_, other, rfl, rfl, stands⟩, rfl⟩
    refine ⟨.ofList other, ?_, ?_⟩
    · rwa [String.toList_ofList]
    · simp
  · rintro ⟨other, stands, rfl⟩
    exact ⟨_, _, rfl, ⟨_, _, rfl, rfl, stands⟩, rfl⟩

lemma slash_notMem_of_isContainerName {name : String} (legal : IsContainerName name) :
    '/' ∉ name.toList :=
  fun mem => absurd (List.all_eq_true.mp legal.2 _ mem) (by decide)

/-- The paths of two names have no beginning in common. -/
lemma ownPath_inj {name other first second : String} (legal : IsContainerName name)
    (legal' : IsContainerName other) (same : ownPath name ++ first = ownPath other ++ second) :
    name = other := by
  have parts : name.toList ++ '/' :: first.toList = other.toList ++ '/' :: second.toList := by
    simpa [ownPath, ← String.toList_inj] using same
  have split := congrArg (Text.splitOn '/') parts
  rw [Text.splitOn_append (slash_notMem_of_isContainerName legal),
    Text.splitOn_append (slash_notMem_of_isContainerName legal')] at split
  exact String.toList_injective (List.cons.inj split).1

lemma base_ne_ownPath (ip : String) (port : Nat) (other first second : String) :
    Container.base ip port ++ "/" ++ first ≠ ownPath other ++ second := by
  intro same
  have heads := congrArg (fun text => text.toList.head?) same
  simp [Container.base, ownPath] at heads

variable {name front : String}

lemma replaceAll_ownPath {other : String} (stands : StandsFor name.toList other.toList)
    (plain : '$' ∉ front.toList) (rest : String) :
    (lineExpr ((ownPath name).toList.map single)).replaceAll (ownPath other ++ rest).toList
      (front ++ "/$1").toList = (front ++ "/" ++ rest).toList := by
  obtain ⟨line, tail, rfl, noFeed, ends⟩ := exists_line rest
  have nonempty : (ownPath name).toList.map single ≠ [] := by simp [ownPath]
  have takes := takesAll_singles_iff.mpr (standsFor_ownPath_iff.mpr ⟨other, stands, rfl⟩)
  have replaced := replaceAll_lineExpr_of_takes nonempty takes noFeed ends plain
  simpa only [String.toList_append, List.append_assoc] using replaced

lemma replaceAll_ownPath_other {path : String}
    (apart : ∀ other rest, StandsFor name.toList other.toList → path ≠ ownPath other ++ rest)
    (template : List Char) :
    (lineExpr ((ownPath name).toList.map single)).replaceAll path.toList template =
      path.toList := by
  apply replaceAll_lineExpr_of_not_takes isSingle_of_mem_singles
  intro own rest text takes
  obtain ⟨other, stands, rfl⟩ := standsFor_ownPath_iff.mp (takesAll_singles_iff.mp takes)
  apply apart other (.ofList rest) stands
  rw [← String.toList_inj, text]
  simp

/-- A container without labels for its place, with a name that the daemon allows. The name may be as
long as its pattern is accepted. -/
structure Unlabelled (settings : Settings.Docker) (c : Container) (ip : String) (port : Nat) : Prop
    extends RunsAt settings c ip port where
  noRoute : ∀ value, ¬HasLabel settings c "route" value
  noDest : ∀ value, ¬HasLabel settings c "dest" value
  noServer : ∀ value, ¬HasLabel settings c "server" value
  legal : IsContainerName c.name
  fits : 32 * c.name.toList.length + 16 * c.name.toList.count '.' + 504 ≤ weightLimit
  plain : '$' ∉ ip.toList

variable {settings : Settings.Docker} {c : Container} {ip : String} {port : Nat}

lemma Unlabelled.exists_rule (h : Unlabelled settings c ip port) :
    ∃ r, RuleFor settings c r ∧ r.isCatchAll = true ∧ ∀ path, r.extend.redirect path =
      String.ofList ((lineExpr ((ownPath c.name).toList.map single)).replaceAll path.toList
        (Container.base ip port ++ "/$1").toList) := by
  obtain ⟨ping, own⟩ := h.toRunsAt.ruleFor (.default h.noRoute)
    (compile_of_read (read_defaultRoute h.legal h.fits)) (.default h.noServer) (.default h.noDest)
  refine ⟨_, own, rfl, fun path => ?_⟩
  rw [extend_of_group (by simp)]
  rfl

end Names

section Prefixes

variable {settings : Settings.Docker} {c : Container} {ip source : String} {port : Nat}

/-- A container whose route is a plain prefix. The longer pattern is accepted up to a length. -/
structure PrefixRoute (settings : Settings.Docker) (c : Container) (ip : String) (port : Nat)
    (source : String) : Prop extends RunsAt settings c ip port where
  route : HasLabel settings c "route" source
  slash : source.toList.getLast? = some '/'
  literal : ∀ d ∈ source.toList, isLiteral d = true
  fits : 32 * source.toList.length + 312 ≤ weightLimit

namespace PrefixRoute

variable (h : PrefixRoute settings c ip port source)
include h

lemma ne_nil : source.toList ≠ [] := by
  intro none
  have slash := h.slash
  rw [none] at slash
  cases slash

lemma compiled : ∃ pattern, Pattern.compile source = .ok pattern ∧ pattern.source = source ∧
    pattern.expr = literalExpr source.toList := by
  have some : source ≠ "" := mt String.toList_eq_nil_iff.mpr h.ne_nil
  have fits : 32 * source.toList.length + 112 ≤ weightLimit := by
    have fits := h.fits
    omega
  obtain ⟨pattern, compiled⟩ := (exists_compile_literal_iff some h.literal).mpr fits
  exact ⟨pattern, compiled, compile_eq_ok compiled, expr_of_compile_literal some h.literal compiled⟩

/-- With a place that a label gives the rule is one about a plain prefix. -/
lemma plainPrefix_rule {server dest : String} (named : LabelOr settings c "server" "*" server)
    (has : HasLabel settings c "dest" dest) (plain : '$' ∉ dest.toList)
    (plainAddress : IsPath dest → '$' ∉ ip.toList) :
    ∃ r, RuleFor settings c r ∧ r.server = server ∧ r.pattern.source = source ∧
      r.target = Container.place (Container.base ip port) dest ∧ PlainPrefix r := by
  obtain ⟨pattern, compiled, rfl, -⟩ := h.compiled
  have placed : PlaceOr settings c "dest" (Container.base ip port) "/$1"
      (Container.place (Container.base ip port) dest) := by
    rw [placeOr_iff, label_eq_some_iff.mpr has]
    rfl
  have plainPlace : '$' ∉ (Container.place (Container.base ip port) dest).toList := by
    by_cases isPath : IsPath dest
    · rw [place_of_path isPath, String.toList_append, List.mem_append, not_or]
      exact ⟨plain_base (plainAddress isPath), plain⟩
    · rwa [place_of_not_path isPath]
  obtain ⟨ping, own⟩ := h.toRunsAt.ruleFor (.label h.route) compiled named placed
  exact ⟨_, own, rfl, rfl, rfl, ⟨h.slash, h.literal, plainPlace, h.fits⟩⟩

/-- Without such a label the rule is left as it is, and its target does not depend on the match. -/
lemma substituted_of_noDest {server : String} (named : LabelOr settings c "server" "*" server)
    (noDest : ∀ dest, ¬HasLabel settings c "dest" dest) (plain : '$' ∉ ip.toList) :
    ∃ r, RuleFor settings c r ∧ r.server = server ∧ ∀ text : String,
      Substituted source.toList (Container.base ip port ++ "/").toList text.toList
        (r.extend.redirect text).toList := by
  obtain ⟨pattern, compiled, -, expr⟩ := h.compiled
  obtain ⟨ping, own⟩ := h.toRunsAt.ruleFor (.label h.route) compiled named (.default noDest)
  refine ⟨_, own, rfl, fun text => ?_⟩
  have target : Container.base ip port ++ "/$1" =
      Container.base ip port ++ "/" ++ "$1" ++ "" := by
    simp [← String.toList_inj]
  rw [extend_of_reference target, Rule.redirect, Pattern.replaceAll, expr, String.toList_ofList]
  -- The pattern has no group, so that the reference to one gives nothing.
  refine (substituted_iff h.ne_nil fun m noGroups => ?_).mpr rfl
  rw [expand_reference (plain_base plain), Match.group?, noGroups]
  simp

end PrefixRoute

end Prefixes

namespace Course

/-- A service whose rules are those of a single container answers by the rule of it. -/
lemma lookUp_of_ruleFor {settings : Settings.Docker} {c : Container} {r : Rule} {s : Service}
    {token : Nat} {acts : List Act} {answers : List Answer}
    (pass : LatestPass s token acts answers)
    (only : offered answers = (rules settings [c]).map (Prod.mk .docker))
    (own : RuleFor settings c r) {host : String} (applies : r.isCatchAll = true ∨ r.server = host)
    (path : String) :
    ((start s token).after acts).service.lookUp host path =
      (r.extend.redirect path, r.extend.redirect path != path) := by
  rw [rules_singleton_eq_iff.mpr own] at only
  exact lookUp_of_only pass only applies path

/-- A service whose rules are those of a single container, which has no labels for its place,
answers each path that begins with the name of the container by its address and what follows the
name. It does so too where a text that the name stands for is in the place of the name, and leaves
all other paths as they are. So without a dot in the name there is no other path that it answers. -/
theorem own_paths_answered {settings : Settings.Docker} {c : Container} {ip : String} {port : Nat}
    (h : Unlabelled settings c ip port) {s : Service} {token : Nat} {acts : List Act}
    {answers : List Answer} (pass : LatestPass s token acts answers)
    (only : offered answers = (rules settings [c]).map (Prod.mk .docker)) (host : String) :
    let t := ((start s token).after acts).service
    let target rest := "http://" ++ ip ++ ":" ++ toString port ++ "/" ++ rest
    (∀ rest, t.lookUp host (ownPath c.name ++ rest) = (target rest, true)) ∧
      (∀ other rest, StandsFor c.name.toList other.toList →
        t.lookUp host (ownPath other ++ rest) = (target rest, true)) ∧
      (∀ path, (∀ other rest, StandsFor c.name.toList other.toList →
        path ≠ ownPath other ++ rest) → t.lookUp host path = (path, false)) ∧
      ('.' ∉ c.name.toList →
        (∀ path, ¬(ownPath c.name).toList <+: path.toList → t.lookUp host path = (path, false)) ∧
        ∀ other rest, IsContainerName other → other ≠ c.name →
          t.lookUp host (ownPath other ++ rest) = (ownPath other ++ rest, false)) := by
  intro t target
  obtain ⟨r, own, catchAll, redirect⟩ := h.exists_rule
  have answered (path : String) : t.lookUp host path =
      (r.extend.redirect path, r.extend.redirect path != path) :=
    lookUp_of_ruleFor pass only own (.inl catchAll) path
  have captured (other rest : String) (stands : StandsFor c.name.toList other.toList) :
      t.lookUp host (ownPath other ++ rest) = (target rest, true) := by
    have sent : r.extend.redirect (ownPath other ++ rest) = target rest := by
      rw [redirect, replaceAll_ownPath stands (plain_base h.plain), String.ofList_toList]
      rfl
    have changed : target rest ≠ ownPath other ++ rest := base_ne_ownPath ip port other rest rest
    rw [answered, sent, bne_iff_ne.mpr changed]
  have kept (path : String) (apart : ∀ other rest, StandsFor c.name.toList other.toList →
      path ≠ ownPath other ++ rest) : t.lookUp host path = (path, false) := by
    have same : r.extend.redirect path = path := by
      rw [redirect, replaceAll_ownPath_other apart, String.ofList_toList]
    rw [answered, same, bne_self_eq_false]
  refine ⟨fun rest => captured c.name rest (standsFor_self _), captured, kept, fun noDot => ?_⟩
  -- Without a dot the name stands for itself only.
  have only_own {other : String} (stands : StandsFor c.name.toList other.toList) :
      other = c.name :=
    String.toList_inj.mp ((standsFor_iff_of_notMem noDot).mp stands)
  constructor
  · intro path apart
    apply kept path
    rintro name rest stands rfl
    rw [only_own stands, String.toList_append] at apart
    exact apart (List.prefix_append _ _)
  · intro other rest legal ne
    apply kept
    intro name more stands same
    rw [only_own stands] at same
    exact ne (ownPath_inj legal h.legal same)

/-- A service with the daemon alone, which lists a single container. -/
def alone (c : Container) : Service :=
  .ofProviders {} [.docker {} { lists := [⟨0, .ok [c]⟩] }]

/-- What the daemon is to answer in the first pass. -/
def aloneAnswers (c : Container) : List Answer :=
  [(.docker, .ok (rules {} [c]))]

lemma latestPass_alone {c : Container}
    (log : (start (alone c) 0).log (firstPass 1) = passNotes (aloneAnswers c)) :
    LatestPass (alone c) 0 (firstPass 1) (aloneAnswers c) :=
  ⟨[], [], by rw [log, List.nil_append, List.append_nil], List.not_mem_nil⟩

/-- A container that runs, with some labels. -/
def called (name : String) (labels : List (String × String)) : Container where
  names := some [name]
  state := some "running"
  labels := some labels
  ports := some [80]
  networks := some [("bridge", some "10.0.0.2")]

lemma runsAt_called {name : String} {labels : List (String × String)}
    (noPort : (called name labels).label {} "port" = none) :
    RunsAt {} (called name labels) "10.0.0.2" 80 where
  included := List.not_mem_nil
  running := rfl
  address := address_eq_some_iff.mp rfl
  hasPort := .first (fun text _ has => absurd has (label_eq_none_iff.mp noPort text)) rfl

lemma unlabelled_called {name : String} (legal : IsContainerName (bareName name))
    (fits : 32 * (bareName name).toList.length + 16 * (bareName name).toList.count '.' + 504 ≤
      weightLimit) : Unlabelled {} (called name []) "10.0.0.2" 80 where
  toRunsAt := runsAt_called rfl
  noRoute := label_eq_none_iff.mp rfl
  noDest := label_eq_none_iff.mp rfl
  noServer := label_eq_none_iff.mp rfl
  legal := legal
  fits := fits
  plain := by decide

def bareContainer : Container :=
  called "/web_1" []

theorem own_paths_answered_bareContainer :
    Unlabelled {} bareContainer "10.0.0.2" 80 ∧
      LatestPass (alone bareContainer) 0 (firstPass 1) (aloneAnswers bareContainer) ∧
      let t := ((start (alone bareContainer) 0).after (firstPass 1)).service
      t.lookUp "h" "/api/web_1/x\n/api/web_1/" = ("http://10.0.0.2:80/x\n/api/web_1/", true) ∧
        t.lookUp "h" "/api/web_2/" = ("/api/web_2/", false) := by
  have h : Unlabelled {} bareContainer "10.0.0.2" 80 :=
    unlabelled_called ⟨by decide, by decide⟩ (by decide)
  have pass := latestPass_alone (c := bareContainer) (by rfl)
  obtain ⟨answered, -, -, others⟩ := own_paths_answered h pass (List.append_nil _) "h"
  obtain ⟨-, others⟩ := others (by decide)
  have legal : IsContainerName "web_2" := ⟨by decide, by decide⟩
  exact ⟨h, pass, answered "x\n/api/web_1/", others "web_2" "" legal (by decide)⟩

/-- A container with a dot in its name. -/
def dottedContainer : Container :=
  called "/a.b" []

/-- A dot in the name of a container stands for any character, so that the paths of another
container are answered too. -/
theorem dottedContainer_captures :
    Unlabelled {} dottedContainer "10.0.0.2" 80 ∧ IsContainerName "axb" ∧
      LatestPass (alone dottedContainer) 0 (firstPass 1) (aloneAnswers dottedContainer) ∧
      ¬(ownPath dottedContainer.name).toList <+: (ownPath "axb" ++ "c").toList ∧
      let t := ((start (alone dottedContainer) 0).after (firstPass 1)).service
      t.lookUp "h" (ownPath "axb" ++ "c") = ("http://10.0.0.2:80/c", true) := by
  have h : Unlabelled {} dottedContainer "10.0.0.2" 80 :=
    unlabelled_called ⟨by decide, by decide⟩ (by decide)
  have legal : IsContainerName "axb" := ⟨by decide, by decide⟩
  refine ⟨h, legal, latestPass_alone (by rfl), ?_, ?_⟩
  all_goals decide +kernel

/-- A service whose rules are those of a single container, whose route is a plain prefix, rewrites
no other paths than those that begin with the prefix, if a label gives the place. Without such a
label it replaces the prefix wherever it stands. -/
theorem prefix_route_answered {settings : Settings.Docker} {c : Container} {ip source : String}
    {port : Nat} (h : PrefixRoute settings c ip port source) {s : Service} {token : Nat}
    {acts : List Act} {answers : List Answer} (pass : LatestPass s token acts answers)
    (only : offered answers = (rules settings [c]).map (Prod.mk .docker)) {server host : String}
    (named : LabelOr settings c "server" "*" server) (admitted : server = "*" ∨ server = host) :
    let t := ((start s token).after acts).service
    (∀ dest, HasLabel settings c "dest" dest → '$' ∉ dest.toList →
      (IsPath dest → '$' ∉ ip.toList) →
      let front := Rule.dropSlash (Container.place (Container.base ip port) dest) ++ "/"
      (∀ path, ¬source.toList <+: path.toList → t.lookUp host path = (path, false)) ∧
        ∀ rest, t.lookUp host (source ++ rest) = (front ++ rest, front ++ rest != source ++ rest)) ∧
      ((∀ dest, ¬HasLabel settings c "dest" dest) → '$' ∉ ip.toList → ∀ path, ∃ target : String,
        Substituted source.toList (Container.base ip port ++ "/").toList path.toList target.toList ∧
          t.lookUp host path = (target, target != path)) := by
  intro t
  have applies {r : Rule} (same : r.server = server) : r.isCatchAll = true ∨ r.server = host := by
    rcases admitted with any | one
    · exact .inl (by rw [Rule.isCatchAll, same, any]; rfl)
    · exact .inr (same.trans one)
  constructor
  · intro dest has plain plainAddress front
    obtain ⟨r, own, same, rfl, target, plainPrefix⟩ :=
      h.plainPrefix_rule named has plain plainAddress
    have answered := lookUp_of_ruleFor pass only own (applies same)
    constructor
    · intro path other
      rw [answered, plainPrefix.redirect_other other, bne_self_eq_false]
    · intro rest
      rw [answered, plainPrefix.redirect_append rest, target]
  · intro noDest plain path
    obtain ⟨r, own, same, substituted⟩ := h.substituted_of_noDest named noDest plain
    exact ⟨_, substituted path, lookUp_of_ruleFor pass only own (applies same) path⟩

lemma prefixRoute_called {labels : List (String × String)}
    (noPort : (called "/web" labels).label {} "port" = none)
    (route : HasLabel {} (called "/web" labels) "route" "/api/") :
    PrefixRoute {} (called "/web" labels) "10.0.0.2" 80 "/api/" where
  toRunsAt := runsAt_called noPort
  route := route
  slash := by decide
  literal := List.all_eq_true.mp (by decide)
  fits := by decide

/-- A container with a plain prefix as its route, and a place for some server. -/
def placedContainer : Container :=
  called "/web" [("reproxy.route", "/api/"), ("reproxy.dest", "/v1"), ("reproxy.server", "h")]

theorem prefix_route_answered_placedContainer :
    PrefixRoute {} placedContainer "10.0.0.2" 80 "/api/" ∧
      LabelOr {} placedContainer "server" "*" "h" ∧
      HasLabel {} placedContainer "dest" "/v1" ∧
      LatestPass (alone placedContainer) 0 (firstPass 1) (aloneAnswers placedContainer) ∧
      let t := ((start (alone placedContainer) 0).after (firstPass 1)).service
      t.lookUp "h" "/api/x/api/" = ("http://10.0.0.2:80/v1/x/api/", true) ∧
        t.lookUp "h" "/x/api/y" = ("/x/api/y", false) := by
  have h : PrefixRoute {} placedContainer "10.0.0.2" 80 "/api/" :=
    prefixRoute_called rfl (label_eq_some_iff.mp rfl)
  have named : LabelOr {} placedContainer "server" "*" "h" := labelOr_iff.mpr rfl
  have has : HasLabel {} placedContainer "dest" "/v1" := label_eq_some_iff.mp rfl
  have pass := latestPass_alone (c := placedContainer) (by rfl)
  obtain ⟨placed, -⟩ := prefix_route_answered h pass (List.append_nil _) named (.inr rfl)
  obtain ⟨kept, rewritten⟩ := placed "/v1" has (by decide) fun _ => by decide
  have answered := rewritten "x/api/"
  exact ⟨h, named, has, pass, answered.trans (by decide), kept "/x/api/y" (by decide)⟩

/-- A container with a plain prefix as its route, and no place. -/
def unplacedContainer : Container :=
  called "/web" [("reproxy.route", "/api/")]

/-- A prefix without a place is replaced inside of a path. -/
theorem unplacedContainer_rewrites_inside :
    PrefixRoute {} unplacedContainer "10.0.0.2" 80 "/api/" ∧
      LabelOr {} unplacedContainer "server" "*" "*" ∧
      LatestPass (alone unplacedContainer) 0 (firstPass 1) (aloneAnswers unplacedContainer) ∧
      ¬"/api/".toList <+: "/x/api/y".toList ∧
      let t := ((start (alone unplacedContainer) 0).after (firstPass 1)).service
      t.lookUp "h" "/x/api/y" = ("/xhttp://10.0.0.2:80/y", true) := by
  have h : PrefixRoute {} unplacedContainer "10.0.0.2" 80 "/api/" :=
    prefixRoute_called rfl (label_eq_some_iff.mp rfl)
  refine ⟨h, labelOr_iff.mpr rfl, latestPass_alone (by rfl), ?_, ?_⟩
  all_goals decide +kernel

end Course

end Signpost.Proofs

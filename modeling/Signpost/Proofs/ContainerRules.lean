import Mathlib.Data.String.Basic
import Signpost.Proofs.KeyedEntries
import Signpost.Proofs.Retrying
import Signpost.Provider

/-!
# The rules of containers

Each container has a rule of its own or none. What its labels leave open has a default, and nothing
of a container makes a difference to the rule of another one.
-/

namespace Signpost.Proofs
open Docker

section Containers

variable {s : Settings.Docker} {c : Container}

/-- A label counts if it is not empty. -/
def HasLabel (s : Settings.Docker) (c : Container) (key value : String) : Prop :=
  value ≠ "" ∧
    ∃ labels, c.labels = some labels ∧ labels.lookup (s.labelStart ++ key) = some value

/-- The value of a label, or a default. -/
inductive LabelOr (s : Settings.Docker) (c : Container) (key default : String) : String → Prop
  | label {value : String} (has : HasLabel s c key value) : LabelOr s c key default value
  | default (missing : ∀ value, ¬HasLabel s c key value) : LabelOr s c key default default

def IsPath (place : String) : Prop :=
  place.toList.head? = some '/'

/-- The place that a label gives, which may be a path behind a base, or a default path. -/
inductive PlaceOr (s : Settings.Docker) (c : Container) (key base default : String) : String → Prop
  | path {path : String} (has : HasLabel s c key path) (isPath : IsPath path) :
      PlaceOr s c key base default (base ++ path)
  | place {place : String} (has : HasLabel s c key place) (noPath : ¬IsPath place) :
      PlaceOr s c key base default place
  | default (missing : ∀ value, ¬HasLabel s c key value) :
      PlaceOr s c key base default (base ++ default)

/-- The address in a network: the configured one or, if none is configured, the one whose name comes
first. An empty address does not count. -/
inductive HasAddress (s : Settings.Docker) (c : Container) : String → Prop
  | configured {networks : List (String × Option String)} {ip : String}
      (known : c.networks = some networks) (configured : s.network ≠ "")
      (found : networks.lookup s.network = some (some ip)) (full : ip ≠ "") : HasAddress s c ip
  | first {networks : List (String × Option String)} {name ip : String}
      (known : c.networks = some networks) (any : s.network = "")
      (found : networks.lookup name = some (some ip)) (least : ∀ e ∈ networks, name ≤ e.1)
      (full : ip ≠ "") : HasAddress s c ip

/-- The port of a label that is a number of 16 bits, or else the first port of the container. -/
inductive HasPort (s : Settings.Docker) (c : Container) : Nat → Prop
  | label {text : String} {port : Nat} (has : HasLabel s c "port" text)
      (reads : Text.readNat Text.max16 text.toList = .ok port) : HasPort s c port
  | first {port : Nat} {ports : List Nat}
      (missing : ∀ text port, HasLabel s c "port" text →
        Text.readNat Text.max16 text.toList ≠ .ok port)
      (found : c.ports = some (port :: ports)) : HasPort s c port

/-- The rule of a container that can be reached. -/
inductive RuleFor (s : Settings.Docker) (c : Container) : Rule → Prop
  | intro {ip route server target ping : String} {port : Nat} {pattern : Pattern}
      (included : c.name ∉ s.excluded) (running : c.state = some "running")
      (address : HasAddress s c ip) (hasPort : HasPort s c port)
      (routed : LabelOr s c "route" ("^/api/" ++ c.name ++ "/(.*)") route)
      (compiled : Pattern.compile route = .ok pattern)
      (named : LabelOr s c "server" "*" server)
      (placed : PlaceOr s c "dest" (Container.base ip port) "/$1" target)
      (pinged : PlaceOr s c "ping" (Container.base ip port) "/ping" ping) :
      RuleFor s c { server, pattern, target, origin := .docker, ping := some ping }

/-- The rules of containers in their order. -/
inductive Collected (s : Settings.Docker) : List Container → List Rule → Prop
  | nil : Collected s [] []
  | rule {c : Container} {r : Rule} {containers : List Container} {made : List Rule}
      (own : RuleFor s c r) (rest : Collected s containers made) :
      Collected s (c :: containers) (r :: made)
  | skip {c : Container} {containers : List Container} {made : List Rule}
      (nothing : ∀ r, ¬RuleFor s c r) (rest : Collected s containers made) :
      Collected s (c :: containers) made

/-- A place in the container itself, unless its label gives something else than a path. -/
structure LeadsTo (s : Settings.Docker) (c : Container) (key ip : String) (port : Nat)
    (place : String) : Prop where
  own : (∀ value, HasLabel s c key value → IsPath value) →
    ("http://" ++ ip ++ ":" ++ toString port ++ "/").toList <+: place.toList
  other : ∀ value, HasLabel s c key value → ¬IsPath value → place = value

/-- A rule that leads to a container and asks it for its health. -/
structure Reaches (s : Settings.Docker) (c : Container) (r : Rule) : Prop where
  server : r.server ≠ ""
  origin : r.origin = .docker
  places : ∃ ip port ping, HasAddress s c ip ∧ HasPort s c port ∧ r.ping = some ping ∧
    LeadsTo s c "dest" ip port r.target ∧ LeadsTo s c "ping" ip port ping

/-- What a container needs for a rule. -/
structure Routable (s : Settings.Docker) (c : Container) : Prop where
  included : c.name ∉ s.excluded
  running : c.state = some "running"
  address : ∃ ip, HasAddress s c ip
  port : ∃ port, HasPort s c port
  route : ∃ route pattern, LabelOr s c "route" ("^/api/" ++ c.name ++ "/(.*)") route ∧
    Pattern.compile route = .ok pattern

lemma nonEmpty_eq_some_iff {text : Option String} {value : String} :
    nonEmpty text = some value ↔ text = some value ∧ value ≠ "" := by
  rw [nonEmpty, Option.filter_eq_some_iff, decide_eq_true_eq]

lemma label_eq_some_iff {key value : String} :
    c.label s key = some value ↔ HasLabel s c key value := by
  rw [Container.label, nonEmpty_eq_some_iff, Option.bind_eq_some_iff, HasLabel, and_comm]

lemma label_eq_none_iff {key : String} :
    c.label s key = none ↔ ∀ value, ¬HasLabel s c key value := by
  rw [Option.eq_none_iff_forall_ne_some]
  simp only [ne_eq, label_eq_some_iff]

lemma labelOr_iff {key default value : String} :
    LabelOr s c key default value ↔ value = (c.label s key).getD default := by
  constructor
  · intro h
    cases h with
    | label has => rw [label_eq_some_iff.mpr has, Option.getD_some]
    | default missing => rw [label_eq_none_iff.mpr missing, Option.getD_none]
  · rintro rfl
    cases found : c.label s key with
    | none => exact .default (label_eq_none_iff.mp found)
    | some value => exact .label (label_eq_some_iff.mp found)

lemma place_of_path {base place : String} (isPath : IsPath place) :
    Container.place base place = base ++ place :=
  if_pos isPath

lemma place_of_not_path {base place : String} (noPath : ¬IsPath place) :
    Container.place base place = place :=
  if_neg noPath

lemma placeOr_iff {key base default place : String} :
    PlaceOr s c key base default place ↔
      place = ((c.label s key).map (Container.place base)).getD (base ++ default) := by
  constructor
  · intro h
    cases h with
    | path has isPath =>
      rw [label_eq_some_iff.mpr has, Option.map_some, Option.getD_some, place_of_path isPath]
    | place has noPath =>
      rw [label_eq_some_iff.mpr has, Option.map_some, Option.getD_some, place_of_not_path noPath]
    | default missing => rw [label_eq_none_iff.mpr missing, Option.map_none, Option.getD_none]
  · rintro rfl
    cases found : c.label s key with
    | none => exact .default (label_eq_none_iff.mp found)
    | some value =>
      have has := label_eq_some_iff.mp found
      rw [Option.map_some, Option.getD_some]
      by_cases isPath : IsPath value
      · rw [place_of_path isPath]
        exact .path has isPath
      · rw [place_of_not_path isPath]
        exact .place has isPath

/-- An entry that no other one comes before, and the first one of its key. -/
def IsFirst {α : Type} (entries : List (String × α)) (e : String × α) : Prop :=
  entries.lookup e.1 = some e.2 ∧ ∀ f ∈ entries, e.1 ≤ f.1

lemma isFirst_unique {α : Type} {entries : List (String × α)} {e f : String × α}
    (first : IsFirst entries e) (other : IsFirst entries f) : e = f := by
  have key : e.1 = f.1 :=
    le_antisymm (first.2 f (mem_of_lookup other.1)) (other.2 e (mem_of_lookup first.1))
  have value := other.1
  rw [← key, first.1] at value
  exact Prod.ext key (Option.some.inj value)

lemma firstByKey_eq_none_iff {α : Type} {entries : List (String × α)} :
    firstByKey entries = none ↔ entries = [] := by
  cases entries with
  | nil => simp [firstByKey]
  | cons e rest =>
    rw [firstByKey]
    cases firstByKey rest with
    | none => simp
    | some f => by_cases less : f.1 < e.1 <;> simp [less]

lemma isFirst_of_firstByKey {α : Type} {entries : List (String × α)} {e : String × α}
    (found : firstByKey entries = some e) : IsFirst entries e := by
  induction entries generalizing e with
  | nil => cases found
  | cons g rest ih =>
    rw [firstByKey] at found
    cases hrest : firstByKey rest with
    | none =>
      obtain rfl : g = e := by simpa [hrest] using found
      obtain rfl := firstByKey_eq_none_iff.mp hrest
      exact ⟨List.lookup_cons_self, by simp⟩
    | some f =>
      obtain ⟨lookup, least⟩ := ih hrest
      simp only [hrest] at found
      split at found
      · rename_i less
        obtain rfl : f = e := Option.some.inj found
        refine ⟨?_, List.forall_mem_cons.mpr ⟨less.le, least⟩⟩
        rwa [List.lookup_cons, beq_eq_false_iff_ne.mpr less.ne]
      · rename_i notLess
        obtain rfl : g = e := Option.some.inj found
        have le : g.1 ≤ f.1 := not_lt.mp notLess
        refine ⟨List.lookup_cons_self, List.forall_mem_cons.mpr ⟨le_rfl, ?_⟩⟩
        exact fun h mem => le.trans (least h mem)

lemma firstByKey_eq_some_iff {α : Type} {entries : List (String × α)} {e : String × α} :
    firstByKey entries = some e ↔ IsFirst entries e := by
  refine ⟨isFirst_of_firstByKey, fun first => ?_⟩
  cases found : firstByKey entries with
  | none =>
    rw [firstByKey_eq_none_iff.mp found] at first
    cases first.1
  | some f => rw [isFirst_unique first (isFirst_of_firstByKey found)]

lemma address_eq_some_iff {ip : String} : c.address s = some ip ↔ HasAddress s c ip := by
  unfold Container.address
  constructor
  · intro h
    obtain ⟨networks, known, inNetwork⟩ := Option.bind_eq_some_iff.mp h
    split at inNetwork
    all_goals
      obtain ⟨address, found, last⟩ := Option.bind_eq_some_iff.mp inNetwork
      obtain ⟨rfl, full⟩ := nonEmpty_eq_some_iff.mp last
    · rename_i any
      obtain ⟨⟨name, _⟩, first, rfl⟩ := Option.map_eq_some_iff.mp found
      obtain ⟨lookup, least⟩ := firstByKey_eq_some_iff.mp first
      exact .first known any lookup least full
    · rename_i configured
      exact .configured known configured found full
  · intro h
    refine Option.bind_eq_some_iff.mpr ?_
    cases h with
    | configured known configured found full =>
      refine ⟨_, known, ?_⟩
      rw [if_neg configured, found]
      exact nonEmpty_eq_some_iff.mpr ⟨rfl, full⟩
    | first known any found least full =>
      refine ⟨_, known, ?_⟩
      rw [if_pos any, firstByKey_eq_some_iff.mpr (show IsFirst _ (_, some ip) from ⟨found, least⟩)]
      exact nonEmpty_eq_some_iff.mpr ⟨rfl, full⟩

lemma port_eq_some_iff {port : Nat} : c.port s = some port ↔ HasPort s c port := by
  have reads_iff (text : String) (number : Nat) :
      (Text.readNat Text.max16 text.toList).toOption = some number ↔
        Text.readNat Text.max16 text.toList = .ok number := by
    cases Text.readNat Text.max16 text.toList <;> simp [Except.toOption]
  have labelled {number : Nat} : ((c.label s "port").bind fun text =>
      (Text.readNat Text.max16 text.toList).toOption) = some number ↔
        ∃ text, HasLabel s c "port" text ∧ Text.readNat Text.max16 text.toList = .ok number := by
    simp only [Option.bind_eq_some_iff, label_eq_some_iff, reads_iff]
  unfold Container.port
  split
  · rename_i number found
    obtain ⟨text, has, reads⟩ := labelled.mp found
    constructor
    · rintro ⟨⟩
      exact .label has reads
    · intro h
      cases h with
      | label hasToo readsToo => rw [← found, labelled.mpr ⟨_, hasToo, readsToo⟩]
      | first missing => exact absurd reads (missing text number has)
  · rename_i noLabel
    have missing (text : String) (number : Nat) (has : HasLabel s c "port" text) :
        Text.readNat Text.max16 text.toList ≠ .ok number := by
      intro reads
      rw [labelled.mpr ⟨text, has, reads⟩] at noLabel
      cases noLabel
    constructor
    · intro found
      obtain ⟨ports, known, head⟩ := Option.bind_eq_some_iff.mp found
      obtain ⟨rest, rfl⟩ := List.head?_eq_some_iff.mp head
      exact .first missing known
    · intro h
      cases h with
      | label has reads => exact absurd reads (missing _ _ has)
      | first _ found => rw [found, Option.bind_some, List.head?_cons]

lemma make_withPing_eq_some_iff {origin : Origin} {server route target ping : String} {r : Rule} :
    ((·.withPing ping) <$> Rule.make origin server route target).toOption = some r ↔
      ∃ pattern, Pattern.compile route = .ok pattern ∧
        r = { server, pattern, target, origin, ping := some ping } := by
  rw [Rule.make]
  cases Pattern.compile route with
  | error fault => simp [Except.toOption]
  | ok pattern => simp [Except.toOption, Rule.withPing, eq_comm]

/-- A container has the rule that its labels and the defaults describe, or none. -/
theorem rule?_eq_some_iff {r : Rule} : c.rule? s = some r ↔ RuleFor s c r := by
  have reached : (c.isExcluded s || !c.isRunning) = false ↔
      c.name ∉ s.excluded ∧ c.state = some "running" := by
    simp [Container.isExcluded, Container.isRunning]
  unfold Container.rule? Container.ruleAt
  constructor
  · intro h
    split at h
    · cases h
    · rename_i passed
      obtain ⟨included, running⟩ := reached.mp (Bool.eq_false_iff.mpr passed)
      obtain ⟨ip, address, h⟩ := Option.bind_eq_some_iff.mp h
      obtain ⟨port, hasPort, h⟩ := Option.bind_eq_some_iff.mp h
      obtain ⟨pattern, compiled, rfl⟩ := make_withPing_eq_some_iff.mp h
      exact .intro included running (address_eq_some_iff.mp address) (port_eq_some_iff.mp hasPort)
        (labelOr_iff.mpr rfl) compiled (labelOr_iff.mpr rfl) (placeOr_iff.mpr rfl)
        (placeOr_iff.mpr rfl)
  · rintro ⟨included, running, address, hasPort, routed, compiled, named, placed, pinged⟩
    rw [if_neg (Bool.eq_false_iff.mp (reached.mpr ⟨included, running⟩))]
    refine Option.bind_eq_some_iff.mpr ⟨_, address_eq_some_iff.mpr address, ?_⟩
    refine Option.bind_eq_some_iff.mpr ⟨_, port_eq_some_iff.mpr hasPort, ?_⟩
    rw [labelOr_iff.mp routed] at compiled
    refine make_withPing_eq_some_iff.mpr ⟨_, compiled, ?_⟩
    rw [labelOr_iff.mp named, placeOr_iff.mp placed, placeOr_iff.mp pinged]

lemma collected_iff {containers : List Container} {made : List Rule} :
    Collected s containers made ↔ made = rules s containers := by
  constructor
  · intro h
    induction h with
    | nil => rfl
    | rule own _ ih =>
      rw [rules, List.filterMap_cons_some (rule?_eq_some_iff.mpr own), ih]
      rfl
    | skip nothing _ ih =>
      have none := Option.eq_none_iff_forall_ne_some.mpr
        fun r own => nothing r (rule?_eq_some_iff.mp own)
      rw [rules, List.filterMap_cons_none none, ih]
      rfl
  · rintro rfl
    induction containers with
    | nil => exact .nil
    | cons c containers ih =>
      cases found : c.rule? s with
      | none =>
        rw [rules, List.filterMap_cons_none found]
        refine .skip (fun r own => ?_) ih
        rw [rule?_eq_some_iff.mpr own] at found
        cases found
      | some r =>
        rw [rules, List.filterMap_cons_some found]
        exact .rule (rule?_eq_some_iff.mp found) ih

/-- A container has a rule if and only if it can be reached and its route is a pattern. -/
lemma exists_ruleFor_iff : (∃ r, RuleFor s c r) ↔ Routable s c := by
  constructor
  · rintro ⟨_, included, running, address, hasPort, routed, compiled, -, -, -⟩
    exact ⟨included, running, ⟨_, address⟩, ⟨_, hasPort⟩, ⟨_, _, routed, compiled⟩⟩
  · rintro ⟨included, running, ⟨ip, address⟩, ⟨port, hasPort⟩, route, pattern, routed, compiled⟩
    exact ⟨_, .intro included running address hasPort routed compiled (labelOr_iff.mpr rfl)
      (placeOr_iff.mpr rfl) (placeOr_iff.mpr rfl)⟩

lemma ruleFor_unique {r t : Rule} (h : RuleFor s c r) (k : RuleFor s c t) : r = t := by
  rw [← rule?_eq_some_iff] at h k
  exact Option.some.inj (h.symm.trans k)

lemma hasLabel_unique {key value other : String} (h : HasLabel s c key value)
    (k : HasLabel s c key other) : value = other := by
  rw [← label_eq_some_iff] at h k
  exact Option.some.inj (h.symm.trans k)

/-- What stands behind the base of a container is a path. -/
lemma prefix_of_isPath {ip path : String} {port : Nat} (isPath : IsPath path) :
    ("http://" ++ ip ++ ":" ++ toString port ++ "/").toList <+:
      (Container.base ip port ++ path).toList := by
  obtain ⟨rest, hpath⟩ := List.head?_eq_some_iff.mp isPath
  refine ⟨rest, ?_⟩
  have base : "http://" ++ ip ++ ":" ++ toString port = Container.base ip port := rfl
  rw [base, String.toList_append, String.toList_append, hpath, List.append_assoc]
  rfl

lemma leadsTo_of_placeOr {key ip default place : String} {port : Nat} (defaultPath : IsPath default)
    (h : PlaceOr s c key (Container.base ip port) default place) :
    LeadsTo s c key ip port place := by
  cases h with
  | path has isPath =>
    refine ⟨fun _ => prefix_of_isPath isPath, fun value hasToo noPath => ?_⟩
    exact absurd (hasLabel_unique has hasToo ▸ isPath) noPath
  | place has noPath =>
    exact ⟨fun paths => absurd (paths _ has) noPath, fun _ hasToo _ => hasLabel_unique has hasToo⟩
  | default missing =>
    exact ⟨fun _ => prefix_of_isPath defaultPath, fun value has => absurd has (missing value)⟩

lemma reaches_of_ruleFor {r : Rule} (h : RuleFor s c r) : Reaches s c r := by
  obtain ⟨included, running, address, hasPort, routed, compiled, named, placed, pinged⟩ := h
  have dest : IsPath "/$1" := rfl
  have ping : IsPath "/ping" := rfl
  refine ⟨?_, rfl, _, _, _, address, hasPort, rfl, leadsTo_of_placeOr dest placed,
    leadsTo_of_placeOr ping pinged⟩
  cases named with
  | label has => exact has.1
  | default missing => exact (by decide : "*" ≠ "")

/-- The requests of the next call to the daemon. -/
def requests (d : Daemon) : Operation (List Container) where
  attempt n := d.list (d.asked + n)

/-- The daemon returns the containers, maybe not before some further attempts. -/
def Returns (s : Settings.Docker) (d : Daemon) (containers : List Container) : Prop :=
  ∃ n, IsLeast {k | Final (.ofSettings s.retrying) (requests d) k} (n + 1) ∧
    (d.list (d.asked + n)).result = .ok containers

lemma list_of_returns {d : Daemon} {containers : List Container} (returns : Returns s d containers)
    (files : Files.Tree) : (Provider.docker s d).list files = .ok (rules s containers) := by
  obtain ⟨n, first, result⟩ := returns
  have outcome := congrArg Outcome.result (run_of_first_final first)
  unfold requests at outcome
  rw [Provider.list, Daemon.rules]
  dsimp only
  rw [outcome, result]
  rfl

/-- Whatever containers the daemon returns, a call succeeds and gives each container that can be
reached one rule, in the order of the containers. Other containers get none and do no harm. A rule
has a server and leads to its own container, also with its ping, as far as the labels of the
container do not give another place. -/
theorem container_rules_separate (s : Settings.Docker) (files : Files.Tree) {d : Daemon}
    {containers : List Container} (returns : Returns s d containers) :
    ∃ made, (Provider.docker s d).list files = .ok made ∧ Collected s containers made ∧
      (∀ other, Collected s containers other → other = made) ∧
      (∀ c, (∃ r, RuleFor s c r) ↔ Routable s c) ∧
      (∀ c r, RuleFor s c r → Reaches s c r ∧ ∀ t, RuleFor s c t → t = r) ∧
      ∀ first second, containers = first ++ second → ∀ a b,
        Returns s a first → Returns s b second →
        ∃ x y, (Provider.docker s a).list files = .ok x ∧
          (Provider.docker s b).list files = .ok y ∧ made = x ++ y := by
  refine ⟨rules s containers, list_of_returns returns files, collected_iff.mpr rfl,
    fun _ => collected_iff.mp, fun _ => exists_ruleFor_iff,
    fun c r own => ⟨reaches_of_ruleFor own, fun _ other => ruleFor_unique other own⟩, ?_⟩
  rintro first second rfl a b firstReturns secondReturns
  exact ⟨_, _, list_of_returns firstReturns files, list_of_returns secondReturns files,
    List.filterMap_append⟩

end Containers

/-- Two containers that can be reached, and between them one with a route that is no pattern and one
that does not run. -/
def fourContainers : List Container :=
  [{ names := some ["/web"], state := some "running", ports := some [80, 443],
     networks := some [("outer", some "10.0.0.2"), ("inner", some "10.0.0.1")] },
   { names := some ["/broken"], state := some "running", ports := some [80],
     labels := some [("reproxy.route", "^/(")], networks := some [("inner", some "10.0.0.3")] },
   { names := some ["/idle"], state := some "exited", ports := some [80],
     networks := some [("inner", some "10.0.0.4")] },
   { names := some ["/shop"], state := some "running",
     labels := some [("reproxy.port", "8080"), ("reproxy.server", "shop.local"),
       ("reproxy.dest", "/v1/$1"), ("reproxy.ping", "http://health/shop")],
     networks := some [("inner", some "10.0.0.5")] }]

/-- A daemon that is not there yet when it is asked for the first time. -/
def lateDaemon : Daemon where
  lists := [⟨5, .error (.ofDaemon .timeout)⟩, ⟨5, .ok fourContainers⟩]

theorem container_rules_separate_fourContainers :
    Returns {} lateDaemon fourContainers ∧
      ∃ made, (Provider.docker {} lateDaemon).list {} = .ok made ∧
        made.map (fun r => (r.server, r.target, r.ping)) =
          [("*", "http://10.0.0.1:80/$1", some "http://10.0.0.1:80/ping"),
           ("shop.local", "http://10.0.0.5:8080/v1/$1", some "http://health/shop")] := by
  have returns : Returns {} lateDaemon fourContainers := by
    refine ⟨1, ⟨.succeeded rfl, fun k final => ?_⟩, rfl⟩
    match k, final with
    | 1, final => exact absurd ((final_iff 0).mp final _ rfl) (by decide)
    | k + 2, _ => exact Nat.le_add_left 2 k
  obtain ⟨made, listed, collected, -⟩ := container_rules_separate {} {} returns
  refine ⟨returns, made, listed, ?_⟩
  rw [collected_iff.mp collected]
  decide +kernel

end Signpost.Proofs

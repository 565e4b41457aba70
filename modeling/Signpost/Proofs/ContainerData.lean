import Signpost.Proofs.ContainerRules
import Signpost.Proofs.PrefixRules

/-!
# What counts of a container

The rule of a container is made of five labels and of one of its networks. All other labels make no
difference, and neither do empty ones and a port that is no number. Without a configured network
it is the network whose name comes first that decides, whether it has an address or not.
-/

namespace Signpost.Proofs
open Docker

variable {s : Settings.Docker} {c d : Container}

section Labels

/-- The labels that a rule is made of, without their start. -/
def routingLabels : List String :=
  ["port", "route", "dest", "server", "ping"]

/-- A text that can be told by a label: it is not empty, and as a port it is a number of 16 bits. -/
structure Telling (key value : String) : Prop where
  full : value ≠ ""
  reads : key = "port" → ∃ port, Text.readNat Text.max16 value.toList = .ok port

/-- A label is missing, empty, or a port that is no number. -/
def Silent (s : Settings.Docker) (c : Container) (key : String) : Prop :=
  ∀ value, HasLabel s c key value → ¬Telling key value

/-- A label has the same text in two containers, or tells nothing in either. -/
inductive SameLabel (s : Settings.Docker) (c d : Container) (key : String) : Prop
  | same {value : String} (first : HasLabel s c key value) (second : HasLabel s d key value) :
      SameLabel s c d key
  | silent (first : Silent s c key) (second : Silent s d key) : SameLabel s c d key

lemma label_eq_of_sameLabel {key : String} (noPort : key ≠ "port") (h : SameLabel s c d key) :
    c.label s key = d.label s key := by
  have none_of_silent {e : Container} (silent : Silent s e key) : e.label s key = none :=
    label_eq_none_iff.mpr fun value has =>
      silent value has ⟨has.1, fun isPort => absurd isPort noPort⟩
  cases h with
  | same first second => rw [label_eq_some_iff.mpr first, label_eq_some_iff.mpr second]
  | silent first second => rw [none_of_silent first, none_of_silent second]

lemma hasPort_of_sameLabel (h : SameLabel s c d "port") (ports : c.ports = d.ports) {port : Nat}
    (hasPort : HasPort s c port) : HasPort s d port := by
  have unread_of_silent {e : Container} (silent : Silent s e "port") (text : String) (number : Nat)
      (has : HasLabel s e "port" text) : Text.readNat Text.max16 text.toList ≠ .ok number :=
    fun reads => silent text has ⟨has.1, fun _ => ⟨number, reads⟩⟩
  cases h with
  | same first second =>
    cases hasPort with
    | label has reads =>
      obtain rfl := hasLabel_unique first has
      exact .label second reads
    | first missing found =>
      refine .first (fun text number has => ?_) (ports ▸ found)
      obtain rfl := hasLabel_unique second has
      exact missing _ number first
  | silent first second =>
    cases hasPort with
    | label has reads => exact absurd reads (unread_of_silent first _ _ has)
    | first missing found => exact .first (unread_of_silent second) (ports ▸ found)

lemma sameLabel_symm {key : String} (h : SameLabel s c d key) : SameLabel s d c key := by
  cases h with
  | same first second => exact .same second first
  | silent first second => exact .silent second first

lemma port_eq_of_sameLabel (h : SameLabel s c d "port") (ports : c.ports = d.ports) :
    c.port s = d.port s := by
  apply Option.ext
  intro port
  rw [port_eq_some_iff, port_eq_some_iff]
  exact ⟨hasPort_of_sameLabel h ports, hasPort_of_sameLabel (sameLabel_symm h) ports.symm⟩

/-- A rule is made of the name, the address and the port of a container that runs, and of four
labels. -/
lemma rule?_congr (name : c.name = d.name) (state : c.state = d.state)
    (address : c.address s = d.address s) (port : c.port s = d.port s)
    (labels : ∀ key ∈ ["route", "dest", "server", "ping"], c.label s key = d.label s key) :
    c.rule? s = d.rule? s := by
  have excluded : c.isExcluded s = d.isExcluded s := by
    rw [Container.isExcluded, Container.isExcluded, name]
  have running : c.isRunning = d.isRunning := by
    rw [Container.isRunning, Container.isRunning, state]
  have route := labels "route" (by decide)
  have dest := labels "dest" (by decide)
  have server := labels "server" (by decide)
  have ping := labels "ping" (by decide)
  unfold Container.rule? Container.ruleAt
  rw [excluded, running, address, port, name, route, dest, server, ping]

lemma rule?_eq_of_sameLabels (others : d = { c with labels := d.labels })
    (same : ∀ key ∈ routingLabels, SameLabel s c d key) : c.rule? s = d.rule? s := by
  have port : c.port s = d.port s :=
    port_eq_of_sameLabel (same _ (by decide)) (congrArg Container.ports others).symm
  refine rule?_congr (congrArg Container.name others).symm (congrArg Container.state others).symm
    (congrArg (Container.address s) others).symm port fun key mem => ?_
  have noPort : key ≠ "port" := by
    rintro rfl
    revert mem
    decide
  exact label_eq_of_sameLabel noPort (same key (List.mem_cons_of_mem _ mem))

/-- Whether an entry of a container's labels can make a difference. -/
def IsRoutingLabel (s : Settings.Docker) (entry : String × String) : Prop :=
  ∃ key ∈ routingLabels, entry.1 = s.labelStart ++ key ∧ Telling key entry.2

lemma sameLabel_filter {labels : List (String × String)} (keys : (labels.map Prod.fst).Nodup)
    {kept : String × String → Bool} (keeps : ∀ entry, IsRoutingLabel s entry → kept entry = true)
    {key : String} (routing : key ∈ routingLabels) :
    SameLabel s { c with labels := some labels } { c with labels := some (labels.filter kept) }
      key := by
  have keys' : ((labels.filter kept).map Prod.fst).Nodup :=
    keys.sublist (List.filter_sublist.map _)
  have of_kept {value : String} (has : HasLabel s { c with labels := some (labels.filter kept) }
      key value) : HasLabel s { c with labels := some labels } key value := by
    obtain ⟨full, found, known, lookup⟩ := has
    cases known
    exact ⟨full, labels, rfl, lookup_of_mem keys (List.mem_of_mem_filter (mem_of_lookup lookup))⟩
  by_cases told : ∃ value, HasLabel s { c with labels := some labels } key value ∧ Telling key value
  · obtain ⟨value, has, telling⟩ := told
    obtain ⟨full, found, known, lookup⟩ := has
    cases known
    refine .same ⟨full, labels, rfl, lookup⟩ ⟨full, _, rfl, lookup_of_mem keys' ?_⟩
    exact List.mem_filter.mpr ⟨mem_of_lookup lookup, keeps _ ⟨key, routing, rfl, telling⟩⟩
  · refine .silent (fun value has telling => told ⟨value, has, telling⟩) ?_
    exact fun value has telling => told ⟨value, of_kept has, telling⟩

/-- Two containers that differ in their labels only get the same rule or both none, if each of the
five labels has the same text in both or tells nothing in either. So all other labels can be left
out. -/
theorem routing_labels_decide (s : Settings.Docker) {c d : Container}
    (others : d = { c with labels := d.labels })
    (same : ∀ key ∈ routingLabels, SameLabel s c d key) :
    c.rule? s = d.rule? s ∧
      (∀ before after, rules s (before ++ c :: after) = rules s (before ++ d :: after)) ∧
      ∀ labels (kept : String × String → Bool), c.labels = some labels →
        (labels.map Prod.fst).Nodup → (∀ entry, IsRoutingLabel s entry → kept entry = true) →
        ({ c with labels := some (labels.filter kept) } : Container).rule? s = d.rule? s := by
  have rule : c.rule? s = d.rule? s := rule?_eq_of_sameLabels others same
  refine ⟨rule, ?_, ?_⟩
  · intro before after
    simp only [rules, List.filterMap_append, List.filterMap_cons, rule]
  · intro labels kept known keys keeps
    have whole : c = { c with labels := some labels } := by rw [← known]
    rw [← rule, whole]
    exact (rule?_eq_of_sameLabels rfl fun key routing => sameLabel_filter keys keeps routing).symm

/-- A container with labels of another start, an empty one, and a port that is no number. -/
def noisyContainer : Container where
  names := some ["/web"]
  state := some "running"
  labels := some [("traefik.dest", "http://elsewhere/"), ("reproxy.route", "^/web/(.*)"),
    ("reproxy.server", ""), ("reproxy.port", "http")]
  ports := some [8080]
  networks := some [("bridge", some "10.0.0.2")]

/-- The same container with the one label that matters, and a port that is too large. -/
def quietContainer : Container :=
  { noisyContainer with
    labels := some [("reproxy.port", "65536"), ("reproxy.route", "^/web/(.*)")] }

lemma silent_of_label {key : String} (missing : c.label s key = none) : Silent s c key :=
  fun value has _ => label_eq_none_iff.mp missing value has

lemma silent_port {text : String} {fault : Text.NumberFault} (has : HasLabel s c "port" text)
    (unread : Text.readNat Text.max16 text.toList = .error fault) : Silent s c "port" := by
  intro value other telling
  obtain rfl := hasLabel_unique has other
  obtain ⟨port, reads⟩ := telling.reads rfl
  rw [unread] at reads
  cases reads

theorem routing_labels_decide_noisyContainer :
    (∀ key ∈ routingLabels, SameLabel {} noisyContainer quietContainer key) ∧
      noisyContainer.rule? {} = quietContainer.rule? {} ∧ noisyContainer.rule? {} ≠ none := by
  have same : ∀ key ∈ routingLabels, SameLabel {} noisyContainer quietContainer key := by
    intro key routing
    simp only [routingLabels, List.mem_cons, List.not_mem_nil, or_false] at routing
    rcases routing with rfl | rfl | rfl | rfl | rfl
    · have first : HasLabel {} noisyContainer "port" "http" := label_eq_some_iff.mp rfl
      have second : HasLabel {} quietContainer "port" "65536" := label_eq_some_iff.mp rfl
      exact .silent (silent_port first rfl) (silent_port second rfl)
    · have first : HasLabel {} noisyContainer "route" "^/web/(.*)" := label_eq_some_iff.mp rfl
      exact .same first (label_eq_some_iff.mp rfl)
    all_goals exact .silent (silent_of_label (by decide)) (silent_of_label (by decide))
  obtain ⟨rule, -⟩ := routing_labels_decide {} rfl same
  exact ⟨same, rule, by decide +kernel⟩

end Labels

section Networks

/-- The network whose name comes first has an address. -/
def HasFirstAddress (c : Container) (ip : String) : Prop :=
  ∃ networks name, c.networks = some networks ∧ IsFirst networks (name, some ip) ∧ ip ≠ ""

/-- An address that the container has in one of its networks. -/
def HasSomeAddress (c : Container) (ip : String) : Prop :=
  ∃ networks name, c.networks = some networks ∧ (name, some ip) ∈ networks ∧ ip ≠ ""

lemma hasAddress_iff_first (any : s.network = "") {ip : String} :
    HasAddress s c ip ↔ HasFirstAddress c ip := by
  constructor
  · intro h
    cases h with
    | configured _ configured => exact absurd any configured
    | first known _ found least full => exact ⟨_, _, known, ⟨found, least⟩, full⟩
  · rintro ⟨networks, name, known, ⟨found, least⟩, full⟩
    exact .first known any found least full

lemma hasSomeAddress_of_first {ip : String} (h : HasFirstAddress c ip) : HasSomeAddress c ip := by
  obtain ⟨networks, name, known, first, full⟩ := h
  exact ⟨networks, name, known, mem_of_lookup first.1, full⟩

/-- The address of a rule is used where the labels do not give another place. -/
structure PointsTo (s : Settings.Docker) (c : Container) (ip : String) (port : Nat) (r : Rule) :
    Prop where
  target : PlaceOr s c "dest" (Container.base ip port) "/$1" r.target
  ping : ∃ ping, r.ping = some ping ∧ PlaceOr s c "ping" (Container.base ip port) "/ping" ping

lemma rules_singleton_eq_iff {r : Rule} : rules s [c] = [r] ↔ RuleFor s c r := by
  rw [← rule?_eq_some_iff, rules]
  cases found : c.rule? s with
  | none => simp [found]
  | some t => simp [found]

lemma rules_singleton_ne_nil_iff : rules s [c] ≠ [] ↔ ∃ r, RuleFor s c r := by
  simp only [← rule?_eq_some_iff, rules]
  cases found : c.rule? s with
  | none => simp [found]
  | some t => simp [found]

/-- If no network is configured, a container that runs with a port and a route that is a pattern
gets a rule if and only if the network whose name comes first has an address. This is the address
of the rule, and the other networks make no difference. -/
theorem first_network_decides {s : Settings.Docker} (any : s.network = "") (files : Files.Tree)
    {d : Daemon} {before after : List Container} {c : Container}
    (returns : Returns s d (before ++ c :: after)) (included : c.name ∉ s.excluded)
    (running : c.state = some "running") {port : Nat} (hasPort : HasPort s c port)
    {route : String} {pattern : Pattern}
    (routed : LabelOr s c "route" ("^/api/" ++ c.name ++ "/(.*)") route)
    (compiled : Pattern.compile route = .ok pattern) :
    ∃ own, (Provider.docker s d).list files = .ok (rules s before ++ own ++ rules s after) ∧
      (own ≠ [] ↔ ∃ ip, HasFirstAddress c ip) ∧
      ∀ ip, HasFirstAddress c ip →
        HasSomeAddress c ip ∧ ∃ r, own = [r] ∧ RuleFor s c r ∧ PointsTo s c ip port r := by
  refine ⟨rules s [c], ?_, ?_, ?_⟩
  · rw [list_of_returns returns, rules, rules, rules, rules, ← List.filterMap_append,
      ← List.filterMap_append, List.append_assoc, List.singleton_append]
  · rw [rules_singleton_ne_nil_iff, exists_ruleFor_iff]
    constructor
    · intro routable
      obtain ⟨ip, address⟩ := routable.address
      exact ⟨ip, (hasAddress_iff_first any).mp address⟩
    · rintro ⟨ip, first⟩
      exact ⟨included, running, ⟨ip, (hasAddress_iff_first any).mpr first⟩, ⟨port, hasPort⟩,
        ⟨route, pattern, routed, compiled⟩⟩
  · intro ip first
    have address := (hasAddress_iff_first any).mpr first
    have own := RuleFor.intro included running address hasPort routed compiled
      (labelOr_iff.mpr rfl) (placeOr_iff.mpr rfl) (placeOr_iff.mpr rfl)
    exact ⟨hasSomeAddress_of_first first, _, rules_singleton_eq_iff.mpr own, own,
      ⟨placeOr_iff.mpr rfl, _, rfl, placeOr_iff.mpr rfl⟩⟩

lemma returns_of_list {d : Daemon} {containers : List Container}
    (answer : (d.list d.asked).result = .ok containers) : Returns s d containers := by
  refine ⟨0, ⟨.succeeded answer, ?_⟩, answer⟩
  intro k final
  cases final <;> exact Nat.le_add_left 1 _

/-- A container in three networks, one of which has no address. -/
def threeNetworks : Container where
  names := some ["/web"]
  state := some "running"
  ports := some [80]
  networks := some [("outer", some "10.0.0.3"), ("inner", some "10.0.0.2"), ("later", none)]

theorem first_network_decides_threeNetworks :
    let d : Daemon := { lists := [⟨0, .ok [threeNetworks]⟩] }
    Returns {} d [threeNetworks] ∧ HasFirstAddress threeNetworks "10.0.0.2" ∧
      ∃ r, (Provider.docker {} d).list {} = .ok [r] ∧ r.target = "http://10.0.0.2:80/$1" := by
  intro d
  have returns : Returns {} d ([] ++ threeNetworks :: []) := returns_of_list rfl
  have first : HasFirstAddress threeNetworks "10.0.0.2" :=
    ⟨_, "inner", rfl, ⟨by decide, by decide⟩, by decide⟩
  have hasPort : HasPort {} threeNetworks 80 := port_eq_some_iff.mp rfl
  have routed : LabelOr {} threeNetworks "route" "^/api/web/(.*)" "^/api/web/(.*)" :=
    labelOr_iff.mpr rfl
  obtain ⟨own, listed, -, pointed⟩ := first_network_decides rfl {} returns (by decide) rfl
    hasPort routed (compile_of_read rfl)
  obtain ⟨-, r, rfl, -, points⟩ := pointed _ first
  exact ⟨returns, first, r, listed, placeOr_iff.mp points.target⟩

/-- The network whose name comes first has no address, and another one has. -/
def firstWithoutAddress : Container where
  names := some ["/web"]
  state := some "running"
  ports := some [80]
  networks := some [("inner", none), ("outer", some "10.0.0.2")]

/-- An address in another network than the first is not enough for a rule. -/
theorem firstWithoutAddress_skipped :
    firstWithoutAddress.name ∉ ({} : Settings.Docker).excluded ∧
      firstWithoutAddress.state = some "running" ∧ HasPort {} firstWithoutAddress 80 ∧
      LabelOr {} firstWithoutAddress "route" "^/api/web/(.*)" "^/api/web/(.*)" ∧
      (∃ pattern, Pattern.compile "^/api/web/(.*)" = .ok pattern) ∧
      ¬((∃ r, RuleFor {} firstWithoutAddress r) ↔ ∃ ip, HasSomeAddress firstWithoutAddress ip) := by
  refine ⟨by decide, rfl, port_eq_some_iff.mp rfl, labelOr_iff.mpr rfl, ⟨_, compile_of_read rfl⟩,
    ?_⟩
  have some : ∃ ip, HasSomeAddress firstWithoutAddress ip :=
    ⟨"10.0.0.2", _, "outer", rfl, by decide, by decide⟩
  intro same
  obtain ⟨r, own⟩ := same.mpr some
  have none : firstWithoutAddress.rule? {} = none := by decide
  rw [rule?_eq_some_iff.mpr own] at none
  cases none

end Networks

end Signpost.Proofs

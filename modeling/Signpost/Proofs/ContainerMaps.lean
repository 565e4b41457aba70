import Signpost.Proofs.ContainerData

/-!
# The order of the entries of a container

The labels of a container and its networks are maps, and a map has no order of its own. The entries
may come in any order without a difference to the rules.
-/

namespace Signpost.Proofs
open Docker

/-- One container, with the entries of its maps in two orders. -/
structure SameMaps (c d : Container) : Prop where
  others : d = { c with labels := d.labels, networks := d.networks }
  labels : Option.Rel Reordered c.labels d.labels
  networks : Option.Rel Reordered c.networks d.networks

variable {s : Settings.Docker} {c d : Container}

section Entries

variable {α : Type} {entries other : List (String × α)}

lemma isFirst_of_reordered (h : Reordered entries other) {e : String × α}
    (first : IsFirst entries e) : IsFirst other e :=
  ⟨h.lookup_eq e.1 ▸ first.1, fun f mem => first.2 f (h.perm.mem_iff.mpr mem)⟩

/-- The least key is the same in every order. -/
lemma firstByKey_eq_of_reordered (h : Reordered entries other) :
    firstByKey entries = firstByKey other := by
  apply Option.ext
  intro e
  rw [firstByKey_eq_some_iff, firstByKey_eq_some_iff]
  exact ⟨isFirst_of_reordered h, isFirst_of_reordered h.symm⟩

end Entries

lemma label_eq_of_sameMaps (h : SameMaps c d) (key : String) : c.label s key = d.label s key := by
  have labels := h.labels
  unfold Container.label
  generalize c.labels = first, d.labels = second at labels ⊢
  cases labels with
  | some same => rw [Option.bind_some, Option.bind_some, same.lookup_eq]
  | none => rfl

lemma address_eq_of_sameMaps (h : SameMaps c d) : c.address s = d.address s := by
  have networks := h.networks
  unfold Container.address
  generalize c.networks = first, d.networks = second at networks ⊢
  cases networks with
  | some same =>
    simp only [Option.bind_eq_bind, Option.bind_some, firstByKey_eq_of_reordered same,
      same.lookup_eq]
  | none => rfl

lemma port_eq_of_sameMaps (h : SameMaps c d) : c.port s = d.port s := by
  have ports : c.ports = d.ports := (congrArg Container.ports h.others).symm
  rw [Container.port, Container.port, label_eq_of_sameMaps h, ports]

lemma rule?_eq_of_sameMaps (h : SameMaps c d) : c.rule? s = d.rule? s :=
  rule?_congr (congrArg Container.name h.others).symm (congrArg Container.state h.others).symm
    (address_eq_of_sameMaps h) (port_eq_of_sameMaps h) fun key _ => label_eq_of_sameMaps h key

/-- In whatever order the labels and the networks of each container come, the same containers get
a rule, the rules are the same, and they come in the same order. So two calls to a daemon that
returns these containers list the same. -/
theorem map_orders_irrelevant (s : Settings.Docker) {containers others : List Container}
    (same : List.Forall₂ SameMaps containers others) :
    List.Forall₂ (fun c d => c.rule? s = d.rule? s) containers others ∧
      rules s containers = rules s others ∧
      ∀ files a b, Returns s a containers → Returns s b others →
        (Provider.docker s a).list files = (Provider.docker s b).list files := by
  have each : List.Forall₂ (fun c d => c.rule? s = d.rule? s) containers others :=
    same.imp fun _ _ => rule?_eq_of_sameMaps
  have made : rules s containers = rules s others := by
    clear same
    induction each with
    | nil => rfl
    | cons first _ ih =>
      rw [rules, rules] at ih ⊢
      rw [List.filterMap_cons, List.filterMap_cons, first, ih]
  refine ⟨each, made, fun files a b first second => ?_⟩
  rw [list_of_returns first, list_of_returns second, made]

/-- A container with several labels, and in three networks of which the last one by order of entry
comes first by name. -/
def severalEntries : Container where
  names := some ["/web"]
  state := some "running"
  labels := some [("reproxy.dest", "/v1/$1"), ("reproxy.port", "8080"), ("maintainer", "nobody")]
  networks := some [("outer", some "10.0.0.3"), ("later", none), ("inner", some "10.0.0.2")]

/-- The same container with the last entry of each map first. -/
def turnedRound : Container :=
  { severalEntries with
    labels := some [("maintainer", "nobody"), ("reproxy.port", "8080"), ("reproxy.dest", "/v1/$1")]
    networks := some [("inner", some "10.0.0.2"), ("later", none), ("outer", some "10.0.0.3")] }

theorem map_orders_irrelevant_turnedRound :
    List.Forall₂ SameMaps [severalEntries] [turnedRound] ∧
      rules {} [severalEntries] = rules {} [turnedRound] ∧
      (rules {} [turnedRound]).map (fun r => (r.target, r.ping)) =
        [("http://10.0.0.2:8080/v1/$1", some "http://10.0.0.2:8080/ping")] := by
  have same : List.Forall₂ SameMaps [severalEntries] [turnedRound] := by
    refine .cons ⟨rfl, .some ⟨by decide, ?_⟩, .some ⟨by decide, ?_⟩⟩ .nil
    · exact (List.reverse_perm _).symm
    · exact (List.reverse_perm _).symm
  obtain ⟨-, made, -⟩ := map_orders_irrelevant {} same
  exact ⟨same, made, by decide +kernel⟩

end Signpost.Proofs

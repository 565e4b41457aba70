import Mathlib.Logic.Relation
import Signpost.Proofs.EventWatch

/-!
# Events of excluded containers

An event is dropped if the container that it is about is excluded. Such a container has no rule,
whatever is known of it, so that nothing changes by what is dropped. An event names its container in
other words than the list of the containers does: both may write slashes in front of the name, and
without a name the identifier stands for it.
-/

namespace Signpost.Proofs
open Docker

variable {s : Settings.Docker} {e : Event} {c : Container}

/-- Two texts that differ by slashes in front of them only. -/
def UpToSlashes (first second : String) : Prop :=
  ∃ m n rest, first.toList = List.replicate m '/' ++ rest ∧
    second.toList = List.replicate n '/' ++ rest

/-- The name that an event gives to its container. -/
def nameTold (actor : Actor) : Option String :=
  actor.attributes.bind (List.lookup "name")

/-- The name by which a container is listed. -/
def nameListed (c : Container) : Option String :=
  c.names.bind List.head?

/-- An event about a container: both have a name, and it is the same one but for slashes, or neither
has a name and both have the same identifier. -/
inductive About (e : Event) (c : Container) : Prop
  | named {actor : Actor} {told listed : String} (found : e.actor = some actor)
      (event : nameTold actor = some told) (container : nameListed c = some listed)
      (same : UpToSlashes told listed)
  | nameless {actor : Actor} {id : String} (found : e.actor = some actor)
      (event : nameTold actor = none) (container : nameListed c = none)
      (told : actor.id = some id) (listed : c.id = some id)

/-- An event that tells of a container that starts to run or ceases to. -/
structure IsWatched (e : Event) : Prop where
  kind : e.kind = some "container"
  action : ∃ action, e.action = some action ∧
    action ∈ ["start", "stop", "die", "destroy", "restart", "pause", "unpause"]

/-- A watch that reads the event goes on with the stream. -/
def Drops (s : Settings.Docker) (e : Event) : Prop :=
  ∀ (now : Nat) (w : Watch) (items : List Item) (ends : Bool),
    w.stage = .reading ⟨.event e :: items, ends⟩ →
      w.step? s now false = some { w with stage := .reading ⟨items, ends⟩ }

/-- A watch that reads the event sends a signal before it goes on with the stream. -/
def Heeds (s : Settings.Docker) (e : Event) : Prop :=
  ∀ (now : Nat) (w : Watch) (items : List Item) (ends : Bool),
    w.stage = .reading ⟨.event e :: items, ends⟩ →
      w.step? s now false = some { w with stage := .notifying ⟨items, ends⟩ }

/-- A container that an event is about is listed from now on, or is so no more. -/
inductive ChangeTold (e : Event) : List Container → List Container → Prop
  | appears (before after : List Container) {c : Container} (about : About e c) :
      ChangeTold e (before ++ after) (before ++ c :: after)
  | vanishes (before after : List Container) {c : Container} (about : About e c) :
      ChangeTold e (before ++ c :: after) (before ++ after)

lemma dropWhile_slashes (n : Nat) (rest : List Char) :
    (List.replicate n '/' ++ rest).dropWhile (· == '/') = rest.dropWhile (· == '/') := by
  induction n with
  | zero => rfl
  | succ n ih => rwa [List.replicate_succ, List.cons_append, List.dropWhile_cons_of_pos rfl]

lemma bareName_of_upToSlashes {first second : String} (same : UpToSlashes first second) :
    bareName first = bareName second := by
  obtain ⟨m, n, rest, hfirst, hsecond⟩ := same
  rw [bareName, bareName, hfirst, hsecond, dropWhile_slashes, dropWhile_slashes]

/-- What an event says of its container is what the list of the containers says. -/
theorem subject?_of_about (about : About e c) : e.subject? = some c.name := by
  rw [subject?_eq_some]
  cases about with
  | @named actor told listed found event container same =>
    obtain ⟨attributes, hattributes, hfull⟩ := Option.bind_eq_some_iff.mp event
    have name : c.name = bareName told := by
      rw [nameListed] at container
      rw [Container.name, container, bareName_of_upToSlashes same]
    exact ⟨actor, found, .inl ⟨attributes, told, hattributes, hfull, name⟩⟩
  | @nameless actor id found event container told listed =>
    have name : c.name = id := by
      rw [nameListed] at container
      rw [Container.name, container, listed, Option.getD_some]
    exact ⟨actor, found, .inr ⟨Option.bind_eq_none_iff.mp event, name ▸ told⟩⟩

/-- The exclusion test of the events decides as that of the containers does. -/
lemma isRelevant_of_about (watched : IsWatched e) (about : About e c) :
    e.isRelevant s = true ↔ c.name ∉ s.excluded := by
  have subject := subject?_of_about about
  rw [isRelevant_iff]
  constructor
  · rintro ⟨-, -, actor, name, found, identifies, included⟩
    rw [subject?_eq_some.mpr ⟨actor, found, identifies⟩] at subject
    cases subject
    exact included
  · intro included
    obtain ⟨actor, found, identifies⟩ := subject?_eq_some.mp subject
    exact ⟨watched.kind, watched.action, actor, c.name, found, identifies, included⟩

lemma step?_of_event {w : Watch} {items : List Item} {ends : Bool} (now : Nat)
    (reading : w.stage = .reading ⟨.event e :: items, ends⟩) :
    w.step? s now false = some { w with
      stage := if e.isRelevant s then .notifying ⟨items, ends⟩ else .reading ⟨items, ends⟩ } := by
  have read : w.step? s now false = w.read? s now ⟨.event e :: items, ends⟩ := by
    simp [Watch.step?, reading]
  rw [read, Watch.read?]
  cases e.isRelevant s <;> rfl

/-- A watch that is about to read nothing but the event. -/
def readerOf (e : Event) : Watch :=
  ⟨.reading ⟨[.event e], false⟩, {}, .holding 1 1⟩

lemma drops_iff : Drops s e ↔ e.isRelevant s = false := by
  constructor
  · intro drops
    have step := drops 0 (readerOf e) [] false rfl
    rw [step?_of_event 0 rfl] at step
    cases relevant : e.isRelevant s with
    | false => rfl
    | true => simp [relevant] at step
  · intro idle now w items ends reading
    rw [step?_of_event now reading, idle]
    rfl

lemma heeds_iff : Heeds s e ↔ e.isRelevant s = true := by
  constructor
  · intro heeds
    have step := heeds 0 (readerOf e) [] false rfl
    rw [step?_of_event 0 rfl] at step
    cases relevant : e.isRelevant s with
    | true => rfl
    | false => simp [relevant] at step
  · intro relevant now w items ends reading
    rw [step?_of_event now reading, relevant]
    rfl

lemma rule?_of_excluded (excluded : c.name ∈ s.excluded) : c.rule? s = none := by
  simp [Container.rule?, Container.isExcluded, excluded]

lemma rules_of_no_rule (nothing : c.rule? s = none) (before after : List Container) :
    rules s (before ++ c :: after) = rules s (before ++ after) := by
  simp only [rules, List.filterMap_append, List.filterMap_cons, nothing]

/-- What an event without a signal tells of changes no rule. -/
theorem rules_of_changes (watched : IsWatched e) (dropped : Drops s e)
    {before after : List Container} (changes : Relation.ReflTransGen (ChangeTold e) before after) :
    rules s after = rules s before := by
  have nothing {c : Container} (about : About e c) : c.rule? s = none := by
    apply rule?_of_excluded
    by_contra included
    rw [drops_iff, (isRelevant_of_about watched about).mpr included] at dropped
    cases dropped
  induction changes with
  | refl => rfl
  | tail _ change ih =>
    rw [← ih]
    cases change with
    | appears first last about => exact rules_of_no_rule (nothing about) first last
    | vanishes first last about => exact (rules_of_no_rule (nothing about) first last).symm

/-- An event about a container is dropped if and only if the container is excluded. Then no rule is
made of the container, whatever else is known of it, and the rules are the same before and after all
that the event may tell of. An event about a container that has a rule is never dropped. -/
theorem dropped_events_hide_nothing (s : Settings.Docker) (watched : IsWatched e)
    (about : About e c) :
    (Drops s e ↔ c.name ∈ s.excluded) ∧ (Heeds s e ↔ c.name ∉ s.excluded) ∧
    (Drops s e → ∀ d : Container, d.names = c.names → d.id = c.id → d.rule? s = none) ∧
    (Drops s e → ∀ before after, Relation.ReflTransGen (ChangeTold e) before after →
      rules s after = rules s before) ∧
    (c.rule? s ≠ none → Heeds s e) := by
  have relevant := isRelevant_of_about (s := s) watched about
  have drops : Drops s e ↔ c.name ∈ s.excluded := by
    rw [drops_iff, ← Bool.not_eq_true, relevant, not_not]
  have heeds : Heeds s e ↔ c.name ∉ s.excluded := by
    rw [heeds_iff, relevant]
  refine ⟨drops, heeds, ?_, ?_, ?_⟩
  · intro dropped d names id
    have name : d.name = c.name := by rw [Container.name, Container.name, names, id]
    exact rule?_of_excluded (name ▸ drops.mp dropped)
  · intro dropped before after changes
    exact rules_of_changes watched dropped changes
  · intro routed
    exact heeds.mpr fun excluded => routed (rule?_of_excluded excluded)

/-- A container that can be reached, and an event that writes its name with another slash. -/
def shop : Container where
  names := some ["/shop"]
  state := some "running"
  ports := some [80]
  networks := some [("bridge", some "172.17.0.2")]

def shopDies : Event where
  kind := some "container"
  action := some "die"
  actor := some { id := some "1f", attributes := some [("image", "shop:2"), ("name", "//shop")] }

theorem dropped_events_hide_nothing_shopDies :
    IsWatched shopDies ∧ About shopDies shop ∧
      Drops { excluded := ["db", "shop"] } shopDies ∧
      rules { excluded := ["db", "shop"] } [shop] = [] ∧
      shop.rule? {} ≠ none ∧ Heeds {} shopDies := by
  have watched : IsWatched shopDies := ⟨rfl, "die", rfl, by decide⟩
  have same : UpToSlashes "//shop" "/shop" := ⟨2, 1, "shop".toList, rfl, rfl⟩
  have about : About shopDies shop := .named rfl rfl rfl same
  obtain ⟨drops, -, -, unchanged, -⟩ :=
    dropped_events_hide_nothing { excluded := ["db", "shop"] } watched about
  obtain ⟨-, -, -, -, heeds⟩ := dropped_events_hide_nothing {} watched about
  have dropped : Drops { excluded := ["db", "shop"] } shopDies := drops.mpr (by decide)
  have appears : ChangeTold shopDies [] [shop] := .appears [] [] about
  have routed : shop.rule? {} ≠ none := by decide +kernel
  have nothing := unchanged dropped [] [shop] (.single appears)
  exact ⟨watched, about, dropped, nothing, routed, heeds routed⟩

end Signpost.Proofs

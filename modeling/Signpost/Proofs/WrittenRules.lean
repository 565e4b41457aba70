import Signpost.Proofs.KeyedEntries
import Signpost.Proofs.SourceRules
import Signpost.Proofs.WrittenTables

/-!
# The rules that are written in a text

A rule is written as the pairs under a `[[header]]`, or as an item of an array. What a text has
under a key are all of its rules, in the order in which they are written.
-/

namespace Signpost.Proofs
open Source Toml

/-- A value that says what a rule is: a table, or a list of the fields in their order. -/
inductive IsRule : Value → FileRule → Prop
  | table {kind : TableKind} {entries : Entries} {line : FileRule}
      (route : entries.lookup "route" = some (.string line.route))
      (dest : entries.lookup "dest" = some (.string line.dest))
      (ping : entries.lookup "ping" = line.ping.map .string) : IsRule (.table kind entries) line
  | items {v : Value} {items : List Value} {line : FileRule}
      (array : v = .array items ∨ v = .tables items)
      (route : items[0]? = some (.string line.route))
      (dest : items[1]? = some (.string line.dest))
      (ping : items[2]? = line.ping.map .string) : IsRule v line

/-- The pairs give a key a text and nothing else, or nothing at all. -/
def Gives (pairs : Pairs) (key : String) (text : Option String) : Prop :=
  ∀ v, ([key], v) ∈ pairs ↔ text.map .string = some v

/-- Pairs that make a rule. -/
structure Defines (pairs : Pairs) (line : FileRule) : Prop where
  route : Gives pairs "route" (some line.route)
  dest : Gives pairs "dest" (some line.dest)
  ping : Gives pairs "ping" line.ping

/-- The rules of a key: one for each `[[header]]` with the key, or one for each item of an array. -/
inductive Under (blocks : List Block) (key : String) : List FileRule → Prop
  | tables {lines : List FileRule}
      (each : List.Forall₂ Defines (headed true [key] blocks) lines) : Under blocks key lines
  | array {items : List Value} {lines : List FileRule}
      (given : ([key], .array items) ∈ (headed false [] blocks).flatten)
      (each : List.Forall₂ IsRule items lines) : Under blocks key lines

section Decoding

variable {v : Value} {line : FileRule}

lemma string_eq_ok_iff {text : String} : Decode.string v = .ok text ↔ v = .string text := by
  cases v <;> simp [Decode.string]

lemma required_eq_ok_iff {key text : String} {given : Option Value} :
    Decode.required key Decode.string given = .ok text ↔ given = some (.string text) := by
  cases given with
  | none => simp [Decode.required]
  | some v => rw [Decode.required, string_eq_ok_iff, Option.some.injEq]

lemma optional_eq_ok_iff {text : Option String} {given : Option Value} :
    Decode.optional Decode.string given = .ok text ↔ given = text.map .string := by
  cases given with
  | none => cases text <;> simp [Decode.optional]
  | some v =>
    cases v <;> cases text <;> simp [Decode.optional, Decode.string]

lemma decode_of_fields {route dest ping : Option Value}
    (fields : Decode.fields ["route", "dest", "ping"] v = .ok [route, dest, ping]) :
    FileRule.decode v = .ok line ↔ route = some (.string line.route) ∧
      dest = some (.string line.dest) ∧ ping = line.ping.map .string := by
  unfold FileRule.decode
  rw [fields]
  constructor
  · intro h
    obtain ⟨_, ⟨⟩, h⟩ := bind_eq_ok_iff.mp h
    obtain ⟨routeText, hroute, h⟩ := bind_eq_ok_iff.mp h
    obtain ⟨destText, hdest, h⟩ := bind_eq_ok_iff.mp h
    obtain ⟨pingText, hping, h⟩ := bind_eq_ok_iff.mp h
    cases h
    exact ⟨required_eq_ok_iff.mp hroute, required_eq_ok_iff.mp hdest, optional_eq_ok_iff.mp hping⟩
  · rintro ⟨hroute, hdest, hping⟩
    refine bind_eq_ok_iff.mpr ⟨_, rfl, ?_⟩
    refine bind_eq_ok_iff.mpr ⟨_, required_eq_ok_iff.mpr hroute, ?_⟩
    refine bind_eq_ok_iff.mpr ⟨_, required_eq_ok_iff.mpr hdest, ?_⟩
    exact bind_eq_ok_iff.mpr ⟨_, optional_eq_ok_iff.mpr hping, rfl⟩

/-- What is decoded as a rule is a rule. -/
lemma decode_eq_ok_iff : FileRule.decode v = .ok line ↔ IsRule v line := by
  constructor
  · intro h
    cases v with
    | table kind entries =>
      obtain ⟨route, dest, ping⟩ := (decode_of_fields rfl).mp h
      exact .table route dest ping
    | array items =>
      obtain ⟨route, dest, ping⟩ := (decode_of_fields rfl).mp h
      exact .items (.inl rfl) route dest ping
    | tables items =>
      obtain ⟨route, dest, ping⟩ := (decode_of_fields rfl).mp h
      exact .items (.inr rfl) route dest ping
    | datetime => cases ((decode_of_fields rfl).mp h).1
    | _ => cases h
  · intro h
    cases h with
    | table route dest ping => exact (decode_of_fields rfl).mpr ⟨route, dest, ping⟩
    | items array route dest ping =>
      rcases array with rfl | rfl
      · exact (decode_of_fields rfl).mpr ⟨route, dest, ping⟩
      · exact (decode_of_fields rfl).mpr ⟨route, dest, ping⟩

/-- A list of rules is an array or the tables of a `[[header]]`. -/
lemma list_eq_ok_iff {lines : List FileRule} : Decode.list FileRule.decode v = .ok lines ↔
    ∃ items, (v = .array items ∨ v = .tables items) ∧ List.Forall₂ IsRule items lines := by
  have each (items : List Value) :
      items.mapM FileRule.decode = .ok lines ↔ List.Forall₂ IsRule items lines := by
    simp only [mapM_eq_ok_iff, decode_eq_ok_iff]
  cases v <;> simp [Decode.list, each]

lemma decode_entries_iff {entries : Entries} {servers : List (String × List FileRule)} :
    RulesFile.decode entries = .ok servers ↔
      List.Forall₂ (fun e s => e.1 = s.1 ∧ Decode.list FileRule.decode e.2 = .ok s.2)
        entries servers := by
  have each (e : String × Value) (s : String × List FileRule) :
      (do return (e.1, ← Decode.list FileRule.decode e.2)) = Except.ok s ↔
        e.1 = s.1 ∧ Decode.list FileRule.decode e.2 = .ok s.2 := by
    rw [bind_eq_ok_iff]
    constructor
    · rintro ⟨lines, decoded, ⟨⟩⟩
      exact ⟨rfl, decoded⟩
    · rintro ⟨key, decoded⟩
      exact ⟨s.2, decoded, by rw [key]; rfl⟩
  rw [RulesFile.decode, mapM_eq_ok_iff]
  simp only [each]

end Decoding

section Servers

variable {blocks : List Block} {root : Entries} {servers : List (String × List FileRule)}
  {key : String} {lines : List FileRule} {pairs : Pairs}

lemma gives_of_gathers {entries : Entries} {text : Option String} (gathers : Gathers pairs entries)
    (held : entries.lookup key = text.map .string) : Gives pairs key text := by
  intro v
  rw [gathers key v, held]
  constructor
  · exact And.right
  · intro given
    obtain ⟨_, -, rfl⟩ := Option.map_eq_some_iff.mp given
    exact ⟨trivial, given⟩

lemma gives_unique {text other : Option String} (h : Gives pairs key text)
    (k : Gives pairs key other) : text = other := by
  have same (v : Value) : text.map .string = some v ↔ other.map .string = some v :=
    (h v).symm.trans (k v)
  cases text with
  | none =>
    cases other with
    | none => rfl
    | some text => cases (same _).mpr rfl
  | some text =>
    have held := (same _).mp rfl
    cases other with
    | none => cases held
    | some other =>
      cases held
      rfl

lemma defines_of_stands {v : Value} {line : FileRule} (stands : Stands pairs v)
    (isRule : IsRule v line) : Defines pairs line := by
  obtain ⟨kind, entries, rfl, gathers⟩ := stands
  cases isRule with
  | table route dest ping =>
    exact ⟨gives_of_gathers gathers route, gives_of_gathers gathers dest,
      gives_of_gathers gathers ping⟩
  | items array => rcases array with array | array <;> cases array

lemma defines_unique {line other : FileRule} (h : Defines pairs line) (k : Defines pairs other) :
    line = other := by
  obtain ⟨route, dest, ping⟩ := line
  obtain rfl := Option.some.inj (gives_unique h.route k.route)
  obtain rfl := Option.some.inj (gives_unique h.dest k.dest)
  obtain rfl := gives_unique h.ping k.ping
  rfl

lemma keys_of_decode (decoded : RulesFile.decode root = .ok servers) :
    servers.map Prod.fst = root.map Prod.fst :=
  map_eq_of_forall₂ (decode_entries_iff.mp decoded) fun _ _ same => same.1.symm

lemma mem_servers_iff (keys : (root.map Prod.fst).Nodup)
    (decoded : RulesFile.decode root = .ok servers) :
    (key, lines) ∈ servers ↔
      ∃ v, root.lookup key = some v ∧ Decode.list FileRule.decode v = .ok lines := by
  have each := decode_entries_iff.mp decoded
  constructor
  · intro mem
    obtain ⟨⟨_, v⟩, inRoot, rfl, list⟩ := exists_of_forall₂ each.flip mem
    exact ⟨v, lookup_of_mem keys inRoot, list⟩
  · rintro ⟨v, found, list⟩
    obtain ⟨⟨_, held⟩, mem, rfl, listToo⟩ := exists_of_forall₂ each (mem_of_lookup found)
    obtain rfl := Except.ok.inj (list.symm.trans listToo)
    exact mem

lemma defines_of_tables {items : List Value} (holding : Holding blocks root)
    (found : root.lookup key = some (.tables items)) (each : List.Forall₂ IsRule items lines) :
    List.Forall₂ Defines (headed true [key] blocks) lines := by
  have tables := holding.tables key
  rw [found] at tables
  refine forall₂_comp ?_ tables each
  exact fun _ _ _ => defines_of_stands

lemma exists_tables {v : Option Value} (some : tablesOf v ≠ []) :
    ∃ items, v = Option.some (.tables items) := by
  unfold tablesOf at some
  split at some
  · exact ⟨_, rfl⟩
  · exact absurd rfl some

/-- What stands under a key are the rules that are written there. -/
lemma under_of_mem (holding : Holding blocks root) (decoded : RulesFile.decode root = .ok servers)
    (mem : (key, lines) ∈ servers) : Under blocks key lines := by
  obtain ⟨v, found, list⟩ := (mem_servers_iff holding.keys decoded).mp mem
  obtain ⟨items, array, each⟩ := list_eq_ok_iff.mp list
  rcases array with rfl | rfl
  · exact .array ((holding.own key _).mpr ⟨trivial, found⟩) each
  · exact .tables (defines_of_tables holding found each)

/-- Rules that are written under a key stand there. -/
lemma mem_of_under (holding : Holding blocks root) (decoded : RulesFile.decode root = .ok servers)
    (some : lines ≠ []) (under : Under blocks key lines) : (key, lines) ∈ servers := by
  rw [mem_servers_iff holding.keys decoded]
  cases under with
  | array given each =>
    obtain ⟨-, found⟩ := (holding.own key _).mp given
    exact ⟨_, found, list_eq_ok_iff.mpr ⟨_, .inl rfl, each⟩⟩
  | tables each =>
    have filled : tablesOf (root.lookup key) ≠ [] := by
      intro empty
      have tables := holding.tables key
      rw [empty, List.forall₂_nil_right_iff] at tables
      rw [tables, List.forall₂_nil_left_iff] at each
      exact some each
    obtain ⟨items, found⟩ := exists_tables filled
    obtain ⟨⟨_, held⟩, -, rfl, list⟩ :=
      exists_of_forall₂ (decode_entries_iff.mp decoded) (mem_of_lookup found)
    obtain ⟨_, array, eachToo⟩ := list_eq_ok_iff.mp list
    obtain rfl : items = _ := by simpa using array
    obtain rfl : lines = held := by
      refine List.right_unique_forall₂' ?_ each (defines_of_tables holding found eachToo)
      exact fun _ _ _ => defines_unique
    exact ⟨_, found, list⟩

end Servers
end Signpost.Proofs

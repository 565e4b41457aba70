import Signpost.Proofs.WrittenRules

/-!
# From the text of a rules file to its rules

A rules file lists a rule for each rule that is written in it, or nothing at all.
-/

namespace Signpost.Proofs
open Source

/-- A rules file that cannot be read, and one whose text cannot be decoded, lists a fault. Of any
other one the first route that is no pattern is the fault, and if there is none, each rule in the
file is listed with what the file says of it: the keys in the order of their bytes, `default` as
every server after them, and the rules of a key in the order in which they are written, whatever is
written between them. -/
theorem rules_file_listing (files : Files.Tree) (path : Files.Path) :
    (∀ out, Lists files path out ↔ out = RulesFile.list files path) ∧
    ∀ servers, Holds files path servers →
      (servers.map Prod.fst).Nodup ∧
      ∃ text blocks, Contains files path text ∧ WrittenAs text blocks ∧
        (∀ other, WrittenAs text other → other = blocks) ∧
        ∀ key lines, lines ≠ [] → ((key, lines) ∈ servers ↔ Under blocks key lines) := by
  refine ⟨fun out => lists_iff, ?_⟩
  rintro servers ⟨text, read, decoded⟩
  obtain ⟨root, held, decoded⟩ := bind_eq_ok_iff.mp decoded
  obtain ⟨blocks, written, holding⟩ := holding_of_read held
  refine ⟨keys_of_decode decoded ▸ holding.keys, text, blocks, readText_eq_ok_iff.mp read, written,
    fun other writtenToo => writtenAs_unique writtenToo written, fun key lines some => ?_⟩
  exact ⟨under_of_mem holding decoded, mem_of_under holding decoded some⟩

/-- The tables of two keys take turns. -/
def interleaved : String :=
  "[[default]]\nroute = \"/a/\"\ndest = \"http://one/\"\n" ++
  "[[h]]\nroute = \"/a/\"\ndest = \"http://two/\"\nping = \"http://two/ping\"\n" ++
  "[[default]]\nroute = \"/b/\"\ndest = \"http://three/\"\n" ++
  "[[h]]\nroute = \"/b/\"\ndest = \"http://four/\"\n"

theorem rules_file_listing_interleaved :
    let files := rootWith interleaved
    let servers : List (String × List FileRule) :=
      [("default", [⟨"/a/", "http://one/", none⟩, ⟨"/b/", "http://three/", none⟩]),
        ("h", [⟨"/a/", "http://two/", some "http://two/ping"⟩, ⟨"/b/", "http://four/", none⟩])]
    Holds files rulesPath servers ∧
      (∃ text blocks, Contains files rulesPath text ∧ WrittenAs text blocks ∧
        ∀ entry ∈ servers, Under blocks entry.1 entry.2) ∧
      ∃ rules, Lists files rulesPath (.ok rules) ∧
        rules.map (fun r => (r.server, r.target, r.ping)) =
          [("h", "http://two/", some "http://two/ping"), ("h", "http://four/", none),
            ("*", "http://one/", none), ("*", "http://three/", none)] := by
  intro files servers
  obtain ⟨lists, written⟩ := rules_file_listing files rulesPath
  have file : Contains files rulesPath interleaved.toList :=
    ⟨1, by rw [String.ofList_toList]; rfl⟩
  have holds : Holds files rulesPath servers :=
    ⟨_, readText_eq_ok_iff.mpr file, ok_of_toOption (by decide +kernel)⟩
  obtain ⟨-, text, blocks, contains, writtenAs, -, under⟩ := written servers holds
  have listed : (RulesFile.list files rulesPath).toOption.map
      (List.map fun r => (r.server, r.target, r.ping)) =
        some [("h", "http://two/", some "http://two/ping"), ("h", "http://four/", none),
          ("*", "http://one/", none), ("*", "http://three/", none)] := by
    rw [list_of_holds holds (inOrder_keysInOrder servers)]
    decide +kernel
  obtain ⟨rules, made, targets⟩ := Option.map_eq_some_iff.mp listed
  refine ⟨holds, ⟨text, blocks, contains, writtenAs, fun entry mem => ?_⟩, rules,
    (lists _).mpr (ok_of_toOption made).symm, targets⟩
  have filled : ∀ entry ∈ servers, entry.2 ≠ [] := by decide
  exact (under entry.1 entry.2 (filled entry mem)).mp mem

end Signpost.Proofs

import Signpost.Source.Fault
import Signpost.Toml.Decode
import Signpost.Toml.Document

/-!
# Rules files

A rules file is a TOML text with a list of rules for each server. The rules of the key `default` are
for every server. They come after those of the other keys, which are in the order of their bytes.
-/

namespace Signpost.Source

/-- A rule of a rules file. -/
structure FileRule where
  route : String
  dest : String
  ping : Option String
  deriving DecidableEq, Repr

def FileRule.decode : Toml.Decoder FileRule := fun v => do
  match ← Toml.Decode.fields ["route", "dest", "ping"] v with
  | [route, dest, ping] =>
    let route ← Toml.Decode.required "route" Toml.Decode.string route
    let dest ← Toml.Decode.required "dest" Toml.Decode.string dest
    let ping ← Toml.Decode.optional Toml.Decode.string ping
    return { route, dest, ping }
  | _ => throw .wrongType

namespace RulesFile

/-- The key of the rules for every server. -/
def defaultKey : String := "default"

/-- The rules under each key, in the order in which the keys stand. -/
def decode (entries : Toml.Entries) : Except Toml.Fault (List (String × List FileRule)) :=
  entries.mapM fun e => do
    return (e.1, ← Toml.Decode.list FileRule.decode e.2)

/-- Characters in the order of their encodings, which is that of their code points. -/
def keyLe (a b : String) : Bool :=
  !(b.toList.map Char.toNat).lex (a.toList.map Char.toNat)

def insertKey {α : Type} (e : String × α) : List (String × α) → List (String × α)
  | [] => [e]
  | f :: rest => if keyLe e.1 f.1 then e :: f :: rest else f :: insertKey e rest

/-- The keys in order, and `default` after them as every server. -/
def ordered {α : Type} (servers : List (String × α)) : List (String × α) :=
  let sorted := servers.foldr insertKey []
  sorted.filter (·.1 != defaultKey)
    ++ (sorted.filter (·.1 == defaultKey)).map fun e => ("*", e.2)

/-- The rule for a server. -/
def rule (server : String) (r : FileRule) : Except PatternError Rule :=
  (fun made : Rule => { made with ping := r.ping }) <$> Rule.make .file server r.route r.dest

/-- Reads the text of a rules file. -/
def read (path : String) (text : List Char) : Except Fault (List Rule) :=
  match Toml.read text >>= decode with
  | .error cause => .error (.unparsable path cause)
  | .ok servers =>
    let rules := (ordered servers).flatMap fun e => e.2.map fun r => (e.1, r)
    match rules.mapM fun e => rule e.1 e.2 with
    | .ok made => .ok made
    | .error cause => .error (.badRoute path cause)

/-- The rules of the file at a path. -/
def list (files : Files.Tree) (path : Text.Bytes) : Except Fault (List Rule) :=
  let shown := String.ofList (Text.Utf8.decodeLossy path)
  match files.readText path with
  | .error cause => .error (.unreadable shown cause)
  | .ok text => read shown text

end RulesFile

end Signpost.Source

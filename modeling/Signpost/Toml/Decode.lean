import Signpost.Toml.Value

/-!
# Reading values as data

A decoder asks a value for the data that it stands for. A record is a table, or an array of its
fields in order; keys and elements that are not asked for are ignored. A date counts as a table
without any of the keys.
-/

namespace Signpost.Toml

abbrev Decoder (α : Type) := Value → Except Fault α

namespace Decode

def string : Decoder String
  | .string s => .ok s
  | _ => .error .wrongType

def boolean : Decoder Bool
  | .boolean b => .ok b
  | _ => .error .wrongType

/-- An integer between zero and a limit. -/
def natural (limit : Nat) : Decoder Nat
  | .integer n => if 0 ≤ n ∧ n ≤ limit then .ok n.toNat else .error .outOfRange
  | _ => .error .wrongType

def list {α : Type} (item : Decoder α) : Decoder (List α)
  | .array items => items.mapM item
  | .tables items => items.mapM item
  | _ => .error .wrongType

/-- One of some words, or a table that has the word as its one key and holds nothing under it. -/
def word {α : Type} (ofWord? : String → Option α) : Decoder α
  | .string s =>
    match ofWord? s with
    | some a => .ok a
    | none => .error (.unknownWord s)
  | .table _ [(key, inner)] =>
    match ofWord? key with
    | none => .error (.unknownWord key)
    | some a =>
      match inner with
      | .table _ [] => .ok a
      | .array [] => .ok a
      | .tables [] => .ok a
      | _ => .error .wrongType
  | _ => .error .wrongType

/-- The values that a record has for its fields. -/
def fields (keys : List String) : Decoder (List (Option Value))
  | .table _ entries => .ok (keys.map fun key => entries.lookup key)
  | .array items => .ok (positional items)
  | .tables items => .ok (positional items)
  | .datetime => .ok (keys.map fun _ => none)
  | _ => .error .wrongType
where
  positional (items : List Value) : List (Option Value) :=
    (List.range keys.length).map fun i => items[i]?

/-- A field that has to be there. -/
def required {α : Type} (key : String) (decode : Decoder α) : Option Value → Except Fault α
  | some v => decode v
  | none => .error (.missingKey key)

/-- A field that has a default. -/
def withDefault {α : Type} (default : α) (decode : Decoder α) : Option Value → Except Fault α
  | some v => decode v
  | none => .ok default

/-- A field that may be left out. -/
def optional {α : Type} (decode : Decoder α) : Option Value → Except Fault (Option α)
  | some v => some <$> decode v
  | none => .ok none

end Decode

end Signpost.Toml

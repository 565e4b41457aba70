/-!
# TOML values

What a TOML text holds. Tables keep their keys in the order in which they were written. A table also
says how it came about, because that decides whether it may still be added to.
-/

namespace Signpost.Toml

/-- How a table came about. -/
inductive TableKind
  /-- Written between braces. -/
  | inline
  /-- Opened by a header of its own. -/
  | header
  /-- Only part of the path of a header. -/
  | implicit
  /-- Part of a dotted key. -/
  | dotted
  deriving DecidableEq, Repr

/-- Whether a dotted key may add to the table. -/
def TableKind.isOpen : TableKind → Bool
  | inline => false
  | header => false
  | implicit => true
  | dotted => true

/-- A value. Of floats and of dates nothing is used but that they are there. -/
inductive Value
  | string (s : String)
  | integer (n : Int)
  | boolean (b : Bool)
  | float
  | datetime
  | array (items : List Value)
  | table (kind : TableKind) (entries : List (String × Value))
  /-- The tables of `[[headers]]`. -/
  | tables (items : List Value)

abbrev Entries := List (String × Value)

namespace Entries

/-- Puts a value in the place of the one that a key has. -/
def replace (entries : Entries) (key : String) (v : Value) : Entries :=
  entries.map fun e => if e.1 = key then (key, v) else e

def erase (entries : Entries) (key : String) : Entries :=
  entries.filter fun e => e.1 != key

end Entries

/-- Why a text is no TOML, or does not hold what is asked of it. -/
inductive Fault
  | malformed
  | duplicateKey (key : String)
  | notATable (key : String)
  | tooDeep
  | wrongType
  | outOfRange
  | missingKey (key : String)
  | unknownWord (word : String)
  /-- The value has the right type and is refused all the same. -/
  | refused (reason : String)
  deriving DecidableEq, Repr

def Fault.message : Fault → String
  | malformed => "invalid TOML"
  | duplicateKey key => "duplicate key " ++ key
  | notATable key => "key " ++ key ++ " is no table"
  | tooDeep => "nested too deeply"
  | wrongType => "wrong type"
  | outOfRange => "number out of range"
  | missingKey key => "missing key " ++ key
  | unknownWord word => "unknown word " ++ word
  | refused reason => reason

end Signpost.Toml

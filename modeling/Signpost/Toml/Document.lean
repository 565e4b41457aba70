import Signpost.Toml.Scalar

/-!
# TOML texts

`Toml.read` gives the table that a text holds. A table is opened at most once; a dotted key adds
only to tables that dotted keys or the paths of headers have made.
-/

namespace Signpost.Toml

/-- Follows a path of keys and changes the table at its end. Tables on the way that are missing are
made. The path goes into the last of the tables of a `[[header]]`. -/
def updateAt {α : Type} (dotted : Bool)
    (change : TableKind → Entries → Except Fault (Entries × α)) :
    List String → TableKind → Entries → Except Fault (Entries × α)
  | [], kind, entries => change kind entries
  | key :: path, _, entries =>
    match entries.lookup key with
    | none => do
      let kind := if dotted then TableKind.dotted else .implicit
      let (child, a) ← updateAt dotted change path kind []
      return (entries ++ [(key, .table kind child)], a)
    | some (.table kind inner) =>
      if kind = .inline then .error (.notATable key)
      else if dotted && !kind.isOpen then .error (.duplicateKey key)
      else do
        let (child, a) ← updateAt dotted change path kind inner
        return (Entries.replace entries key (.table kind child), a)
    | some (.tables items) =>
      match items.getLast? with
      | some (.table kind inner) => do
        let (child, a) ← updateAt dotted change path kind inner
        return (Entries.replace entries key (.tables (items.dropLast ++ [.table kind child])), a)
      | _ => .error (.notATable key)
    | some _ => .error (.notATable key)

/-- Adds a value under a dotted key. -/
def addValue (entries : Entries) (path : List String) (v : Value) : Except Fault Entries :=
  match path.getLast? with
  | none => .error .malformed
  | some key => do
    let parents := path.dropLast
    let (entries, _) ← updateAt true (fun kind inner =>
      if (kind == .dotted) == parents.isEmpty then .error (.duplicateKey key)
      else if (inner.lookup key).isSome then .error (.duplicateKey key)
      else .ok (inner ++ [(key, v)], ())) parents .header entries
    return entries

/-- The table between braces that pairs of dotted keys and values give. -/
def addValueInline (entries : Entries) (path : List String) (v : Value) :
    Except Fault Entries := do
  let rec go : List String → Entries → Except Fault Entries
    | [], _ => .error .malformed
    | [key], entries =>
      if (entries.lookup key).isSome then .error (.duplicateKey key)
      else .ok (entries ++ [(key, v)])
    | key :: more, entries =>
      match entries.lookup key with
      | none => do
        let child ← go more []
        return entries ++ [(key, .table .dotted child)]
      | some (.table .dotted inner) => do
        let child ← go more inner
        return Entries.replace entries key (.table .dotted child)
      | some _ => .error (.duplicateKey key)
  go path entries

mutual

/-- A value. `room` is how many levels may still be opened. -/
def readValue (room : Nat) : Nat → List Char → Read Value
  | 0, _ => .error .malformed
  | fuel + 1, cs =>
    match cs with
    | [] => .error .malformed
    | c :: rest =>
      if c = '"' ∨ c = '\'' then
        match readString cs with
        | .ok (s, rest) => .ok (.string (String.ofList s), rest)
        | .error f => .error f
      else if c = '[' then
        if room = 0 then .error .tooDeep
        else readItems (room - 1) [] fuel (dropLines false rest)
      else if c = '{' then
        if room = 0 then .error .tooDeep
        else
          match dropSpaces rest with
          | '}' :: rest => .ok (.table .inline [], rest)
          | rest => readPairs (room - 1) [] fuel rest
      else
        match cs with
        | 't' :: 'r' :: 'u' :: 'e' :: rest => .ok (.boolean true, rest)
        | 'f' :: 'a' :: 'l' :: 's' :: 'e' :: rest => .ok (.boolean false, rest)
        | cs => readNumber cs

/-- The items of an array up to its closing bracket; `items` are those before, the last first. -/
def readItems (room : Nat) (items : List Value) : Nat → List Char → Read Value
  | 0, _ => .error .malformed
  | fuel + 1, cs =>
    match cs with
    | ']' :: rest => .ok (.array items.reverse, rest)
    | cs =>
      match readValue room fuel cs with
      | .error f => .error f
      | .ok (v, rest) =>
        match dropLines false rest with
        | ',' :: rest => readItems room (v :: items) fuel (dropLines false rest)
        | ']' :: rest => .ok (.array (v :: items).reverse, rest)
        | _ => .error .malformed

/-- The pairs of a table between braces up to the closing brace. -/
def readPairs (room : Nat) (entries : Entries) : Nat → List Char → Read Value
  | 0, _ => .error .malformed
  | fuel + 1, cs =>
    match readKey cs with
    | .error f => .error f
    | .ok (path, rest) =>
      match rest with
      | '=' :: rest =>
        match readValue room fuel (dropSpaces rest) with
        | .error f => .error f
        | .ok (v, rest) =>
          match addValueInline entries path v with
          | .error f => .error f
          | .ok entries =>
            match dropSpaces rest with
            | ',' :: rest => readPairs room entries fuel rest
            | '}' :: rest => .ok (.table .inline entries, rest)
            | _ => .error .malformed
      | _ => .error .malformed

end

/-- The tables that are finished, and the one under the last header. -/
structure Draft where
  root : Entries := []
  current : Entries := []
  path : List String := []
  /-- Whether the last header was a `[[header]]`. -/
  listed : Bool := false

namespace Draft

/-- Puts the table under the last header in its place. -/
def finish (d : Draft) : Except Fault Entries :=
  match d.path.getLast? with
  | none => .ok d.current
  | some key => do
    let (root, _) ← updateAt false (fun _ inner =>
      match inner.lookup key with
      | none =>
        let table := Value.table .header d.current
        .ok (inner ++ [(key, if d.listed then .tables [table] else table)], ())
      | some (.tables items) =>
        if d.listed then
          .ok (Entries.replace inner key (.tables (items ++ [.table .header d.current])), ())
        else .error (.duplicateKey key)
      | some _ => .error (.duplicateKey key)) d.path.dropLast .header d.root
    return root

/-- Opens the table of a `[header]`. A table that was only part of a path moves to the end. -/
def openTable (d : Draft) (path : List String) : Except Fault Draft := do
  let root ← d.finish
  match path.getLast? with
  | none => throw .malformed
  | some key =>
    let (root, current) ← updateAt false (fun _ inner =>
      match inner.lookup key with
      | none => .ok (inner, [])
      | some (.table .implicit entries) => .ok (Entries.erase inner key, entries)
      | some _ => .error (.duplicateKey key)) path.dropLast .header root
    return { root, current, path, listed := false }

/-- Opens one more table of a `[[header]]`. -/
def openListed (d : Draft) (path : List String) : Except Fault Draft := do
  let root ← d.finish
  match path.getLast? with
  | none => throw .malformed
  | some key =>
    let (root, _) ← updateAt false (fun _ inner =>
      match inner.lookup key with
      | none => .ok (inner ++ [(key, .tables [])], ())
      | some (.tables _) => .ok (inner, ())
      | some _ => .error (.duplicateKey key)) path.dropLast .header root
    return { root, current := [], path, listed := true }

end Draft

/-- Reads the lines of a text. Each takes a character, so `fuel` need only exceed their number. -/
def readLines : Nat → Draft → List Char → Except Fault Draft
  | 0, _, _ => .error .malformed
  | fuel + 1, d, cs =>
    match dropLines false cs with
    | [] => .ok d
    | '[' :: '[' :: rest => do
      let (path, rest) ← readKey rest
      match rest with
      | ']' :: ']' :: rest => readLines fuel (← d.openListed path) (← endLine rest)
      | _ => .error .malformed
    | '[' :: rest => do
      let (path, rest) ← readKey rest
      match rest with
      | ']' :: rest => readLines fuel (← d.openTable path) (← endLine rest)
      | _ => .error .malformed
    | cs => do
      let (path, rest) ← readKey cs
      match rest with
      | '=' :: rest =>
        let (v, rest) ← readValue (depthLimit - 1) (rest.length + 1) (dropSpaces rest)
        let rest ← endLine rest
        readLines fuel { d with current := ← addValue d.current path v } rest
      | _ => .error .malformed

/-- Reads a text, which may start with a byte order mark. -/
def read (text : List Char) : Except Fault Entries := do
  let cs :=
    match text with
    | '\uFEFF' :: rest => rest
    | cs => cs
  let d ← readLines (cs.length + 1) {} cs
  d.finish

end Signpost.Toml

/-!
# UTF-8

Bytes are cut from left to right into characters and broken pieces. A broken piece is the longest
start of a character's encoding that is there, or a single byte that starts none.
-/

namespace Signpost.Text

abbrev Bytes := List UInt8

inductive Chunk
  | char (c : Char)
  | broken (bytes : Bytes)
  deriving DecidableEq, Repr

namespace Utf8

/-- The bytes that may follow a lead byte, and how many more follow after that one. -/
def second? (lead : UInt8) : Option (UInt8 × UInt8 × Nat) :=
  if 0xC2 ≤ lead ∧ lead ≤ 0xDF then some (0x80, 0xBF, 0)
  else if lead = 0xE0 then some (0xA0, 0xBF, 1)
  else if lead = 0xED then some (0x80, 0x9F, 1)
  else if 0xE1 ≤ lead ∧ lead ≤ 0xEF then some (0x80, 0xBF, 1)
  else if lead = 0xF0 then some (0x90, 0xBF, 2)
  else if 0xF1 ≤ lead ∧ lead ≤ 0xF3 then some (0x80, 0xBF, 2)
  else if lead = 0xF4 then some (0x80, 0x8F, 2)
  else none

/-- The part of a code point that a lead byte carries. -/
def leadBits (lead : UInt8) : Nat :=
  if lead < 0xE0 then lead.toNat - 0xC0
  else if lead < 0xF0 then lead.toNat - 0xE0
  else lead.toNat - 0xF0

/-- What is expected next: a new character, or another byte between two bounds, with `more` bytes
after that one. `taken` holds the bytes so far, the last first. -/
inductive State
  | ready
  | within (taken : Bytes) (value : Nat) (low high : UInt8) (more : Nat)

/-- Starts a character. -/
def start (b : UInt8) : Option Chunk × State :=
  if b < 0x80 then (some (.char (Char.ofNat b.toNat)), .ready)
  else
    match second? b with
    | some (low, high, more) => (none, .within [b] (leadBits b) low high more)
    | none => (some (.broken [b]), .ready)

def chunksFrom : State → Bytes → List Chunk
  | .ready, [] => []
  | .within taken _ _ _ _, [] => [.broken taken.reverse]
  | .ready, b :: rest =>
    let (chunk, state) := start b
    chunk.toList ++ chunksFrom state rest
  | .within taken value low high more, b :: rest =>
    if low ≤ b ∧ b ≤ high then
      let value := value * 64 + (b.toNat - 0x80)
      match more with
      | 0 => .char (Char.ofNat value) :: chunksFrom .ready rest
      | more + 1 => chunksFrom (.within (b :: taken) value 0x80 0xBF more) rest
    else
      let (chunk, state) := start b
      .broken taken.reverse :: (chunk.toList ++ chunksFrom state rest)

def chunks (bytes : Bytes) : List Chunk :=
  chunksFrom .ready bytes

/-- The text of the bytes, unless a piece is broken. -/
def decode? (bytes : Bytes) : Option (List Char) :=
  (chunks bytes).mapM fun chunk =>
    match chunk with
    | .char c => some c
    | .broken _ => none

/-- The text of the bytes with a replacement character for each broken piece. -/
def decodeLossy (bytes : Bytes) : List Char :=
  (chunks bytes).map fun chunk =>
    match chunk with
    | .char c => c
    | .broken _ => '\uFFFD'

/-- The bytes of a text. -/
def encode (s : String) : Bytes :=
  s.toList.flatMap String.utf8EncodeChar

end Utf8

end Signpost.Text

import Signpost.Text.Printable
import Signpost.Text.Utf8

/-!
# Quoted text

How a value is shown in a message: between double quotes, with escapes for what would not be seen as
it is.
-/

namespace Signpost.Text

/-- The digits of a number to the base 16, small letters. -/
def hexDigits (n : Nat) : List Char :=
  Nat.toDigits 16 n

def escapeChar (c : Char) : List Char :=
  match c with
  | '"' => ['\\', '"']
  | '\\' => ['\\', '\\']
  | '\n' => ['\\', 'n']
  | '\r' => ['\\', 'r']
  | '\t' => ['\\', 't']
  | '\x00' => ['\\', '0']
  | c => if isPrintable c then [c] else ['\\', 'u', '{'] ++ hexDigits c.toNat ++ ['}']

/-- A text between quotes. -/
def quoted (s : String) : String :=
  String.ofList ('"' :: s.toList.flatMap escapeChar ++ ['"'])

/-- Two capital digits of a byte. -/
def hexByte (b : UInt8) : List Char :=
  let digits := (hexDigits b.toNat).map Char.toUpper
  if digits.length = 1 then '0' :: digits else digits

def escapeChunk : Chunk → List Char
  | .char '\'' => ['\\', '\'']
  | .char c => escapeChar c
  | .broken bytes => bytes.flatMap fun b => ['\\', 'x'] ++ hexByte b

/-- Bytes between quotes: the bytes that are no text are shown as numbers, and the single quote is
escaped too. -/
def quotedBytes (bytes : Bytes) : String :=
  String.ofList ('"' :: (Utf8.chunks bytes).flatMap escapeChunk ++ ['"'])

end Signpost.Text

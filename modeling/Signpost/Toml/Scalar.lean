import Signpost.Text.Number
import Signpost.Toml.Value

/-!
# TOML tokens

Blanks, comments, strings, keys, numbers and dates. Each reader takes the characters that are left
and gives back what it has read and the characters after it.
-/

namespace Signpost.Toml

open Signpost.Text (isHexDigit hexValue charOf?)

abbrev Read (α : Type) := Except Fault (α × List Char)

/-! ## Blanks and comments -/

def isSpace (c : Char) : Bool :=
  c == ' ' || c == '\t'

def dropSpaces (cs : List Char) : List Char :=
  cs.dropWhile isSpace

/-- A character of a comment or of a string: no control character but the tab. -/
def isTextChar (c : Char) : Bool :=
  c == '\t' || (decide (0x20 ≤ c.toNat) && c.toNat != 0x7F)

/-- Drops a line end, if there is one. -/
def dropNewline? : List Char → Option (List Char)
  | '\n' :: rest => some rest
  | '\r' :: '\n' :: rest => some rest
  | _ => none

/-- Drops what may follow on the line: blanks and a comment. At the end of the text no line end is
needed. -/
def endLine (cs : List Char) : Except Fault (List Char) :=
  let rest :=
    match dropSpaces cs with
    | '#' :: rest => rest.dropWhile isTextChar
    | rest => rest
  if rest.isEmpty then .ok []
  else
    match dropNewline? rest with
    | some rest => .ok rest
    | none => .error .malformed

/-- Drops blanks, line ends and comments, starting inside a comment or not. -/
def dropLines : (inComment : Bool) → List Char → List Char
  | _, [] => []
  | _, '\n' :: rest => dropLines false rest
  | _, '\r' :: '\n' :: rest => dropLines false rest
  | true, c :: rest => if isTextChar c then dropLines true rest else c :: rest
  | false, c :: rest =>
    if isSpace c then dropLines false rest
    else if c = '#' then dropLines true rest
    else c :: rest

/-! ## Strings -/

/-- The character of an escape with a number. -/
def escapedChar (digits : List Char) : Except Fault Char :=
  if digits.all isHexDigit then
    match charOf? (hexValue digits) with
    | some c => .ok c
    | none => .error .malformed
  else .error .malformed

/-- Puts a text before what a reader gives. -/
def Read.prepend (text : List Char) : Read (List Char) → Read (List Char)
  | .ok (more, rest) => .ok (text ++ more, rest)
  | .error f => .error f

/-- A string between double quotes, after the first of them. -/
def basicString : List Char → Read (List Char)
  | [] => .error .malformed
  | '"' :: rest => .ok ([], rest)
  | '\\' :: 'b' :: rest => .prepend ['\x08'] (basicString rest)
  | '\\' :: 't' :: rest => .prepend ['\t'] (basicString rest)
  | '\\' :: 'n' :: rest => .prepend ['\n'] (basicString rest)
  | '\\' :: 'f' :: rest => .prepend ['\x0C'] (basicString rest)
  | '\\' :: 'r' :: rest => .prepend ['\r'] (basicString rest)
  | '\\' :: '"' :: rest => .prepend ['"'] (basicString rest)
  | '\\' :: '\\' :: rest => .prepend ['\\'] (basicString rest)
  | '\\' :: 'u' :: a :: b :: c :: d :: rest =>
    match escapedChar [a, b, c, d] with
    | .ok x => .prepend [x] (basicString rest)
    | .error f => .error f
  | '\\' :: 'U' :: a :: b :: c :: d :: e :: f :: g :: h :: rest =>
    match escapedChar [a, b, c, d, e, f, g, h] with
    | .ok x => .prepend [x] (basicString rest)
    | .error f => .error f
  | c :: rest =>
    if c != '\\' && isTextChar c then .prepend [c] (basicString rest) else .error .malformed

/-- A string between single quotes, after the first of them. -/
def literalString (cs : List Char) : Read (List Char) :=
  let text := cs.takeWhile fun c => c != '\'' && isTextChar c
  match cs.drop text.length with
  | '\'' :: rest => .ok (text, rest)
  | _ => .error .malformed

/-- A string of several lines between double quotes, after the first three of them. After a
backslash at the end of a line all blanks and line ends are left out. -/
def longBasicString : (skipping : Bool) → List Char → Read (List Char)
  | _, [] => .error .malformed
  | _, '"' :: '"' :: '"' :: '"' :: '"' :: rest => .ok (['"', '"'], rest)
  | _, '"' :: '"' :: '"' :: '"' :: rest => .ok (['"'], rest)
  | _, '"' :: '"' :: '"' :: rest => .ok ([], rest)
  | skipping, '\n' :: rest =>
    if skipping then longBasicString true rest
    else .prepend ['\n'] (longBasicString false rest)
  | skipping, '\r' :: '\n' :: rest =>
    if skipping then longBasicString true rest
    else .prepend ['\n'] (longBasicString false rest)
  | _, '\\' :: 'b' :: rest => .prepend ['\x08'] (longBasicString false rest)
  | _, '\\' :: 't' :: rest => .prepend ['\t'] (longBasicString false rest)
  | _, '\\' :: 'n' :: rest => .prepend ['\n'] (longBasicString false rest)
  | _, '\\' :: 'f' :: rest => .prepend ['\x0C'] (longBasicString false rest)
  | _, '\\' :: 'r' :: rest => .prepend ['\r'] (longBasicString false rest)
  | _, '\\' :: '"' :: rest => .prepend ['"'] (longBasicString false rest)
  | _, '\\' :: '\\' :: rest => .prepend ['\\'] (longBasicString false rest)
  | _, '\\' :: 'u' :: a :: b :: c :: d :: rest =>
    match escapedChar [a, b, c, d] with
    | .ok x => .prepend [x] (longBasicString false rest)
    | .error f => .error f
  | _, '\\' :: 'U' :: a :: b :: c :: d :: e :: f :: g :: h :: rest =>
    match escapedChar [a, b, c, d, e, f, g, h] with
    | .ok x => .prepend [x] (longBasicString false rest)
    | .error f => .error f
  | skipping, c :: rest =>
    if c = '\\' then
      if (dropNewline? (dropSpaces rest)).isSome then longBasicString true rest
      else .error .malformed
    else if skipping && isSpace c then longBasicString true rest
    else if isTextChar c then .prepend [c] (longBasicString false rest)
    else .error .malformed

/-- A string of several lines between single quotes, after the first three of them. -/
def longLiteralString : List Char → Read (List Char)
  | [] => .error .malformed
  | '\'' :: '\'' :: '\'' :: '\'' :: '\'' :: rest => .ok (['\'', '\''], rest)
  | '\'' :: '\'' :: '\'' :: '\'' :: rest => .ok (['\''], rest)
  | '\'' :: '\'' :: '\'' :: rest => .ok ([], rest)
  | '\n' :: rest => .prepend ['\n'] (longLiteralString rest)
  | '\r' :: '\n' :: rest => .prepend ['\n'] (longLiteralString rest)
  | c :: rest => if isTextChar c then .prepend [c] (longLiteralString rest) else .error .malformed

/-- The line end right after the opening quotes of a long string is not part of it. -/
def dropFirstNewline (cs : List Char) : List Char :=
  (dropNewline? cs).getD cs

/-- A string of any kind. -/
def readString : List Char → Read (List Char)
  | '"' :: '"' :: '"' :: rest => longBasicString false (dropFirstNewline rest)
  | '"' :: rest => basicString rest
  | '\'' :: '\'' :: '\'' :: rest => longLiteralString (dropFirstNewline rest)
  | '\'' :: rest => literalString rest
  | _ => .error .malformed

/-! ## Keys -/

def isBareKeyChar (c : Char) : Bool :=
  c.isAlphanum || c == '-' || c == '_'

/-- One part of a dotted key. -/
def simpleKey : List Char → Read (List Char)
  | '"' :: rest => basicString rest
  | '\'' :: rest => literalString rest
  | cs =>
    let name := cs.takeWhile isBareKeyChar
    if name.isEmpty then .error .malformed else .ok (name, cs.drop name.length)

/-- How deep values may nest, and how many parts a key may have, is below this. -/
def depthLimit : Nat := 80

/-- The parts of a dotted key, with the blanks around them. -/
def keyParts : Nat → List Char → Read (List String)
  | 0, _ => .error .malformed
  | fuel + 1, cs =>
    match simpleKey (dropSpaces cs) with
    | .error f => .error f
    | .ok (name, rest) =>
      match dropSpaces rest with
      | '.' :: rest =>
        match keyParts fuel rest with
        | .error f => .error f
        | .ok (parts, rest) => .ok (String.ofList name :: parts, rest)
      | rest => .ok ([String.ofList name], rest)

def readKey (cs : List Char) : Read (List String) :=
  match keyParts (cs.length + 1) cs with
  | .error f => .error f
  | .ok (parts, rest) =>
    if depthLimit ≤ parts.length then .error .tooDeep else .ok (parts, rest)

/-! ## Numbers -/

/-- Digits, with single underscores between them. -/
def digitsOf (p : Char → Bool) : List Char → List Char × List Char
  | '_' :: c :: rest =>
    if p c then
      let (digits, left) := digitsOf p rest
      (c :: digits, left)
    else ([], '_' :: c :: rest)
  | c :: rest =>
    if p c then
      let (digits, left) := digitsOf p rest
      (c :: digits, left)
    else ([], c :: rest)
  | [] => ([], [])

/-- Digits that do not start with an underscore. -/
def readDigits (p : Char → Bool) (cs : List Char) : List Char × List Char :=
  if cs.head? = some '_' then ([], cs) else digitsOf p cs

/-- A number without a sign in decimal digits: a zero starts no longer number. -/
def decimalDigits : List Char → List Char × List Char
  | '0' :: rest => (['0'], rest)
  | cs => readDigits Char.isDigit cs

/-- The value of decimal digits. -/
def decimalValue (digits : List Char) : Nat :=
  digits.foldl (fun n c => 10 * n + (c.toNat - '0'.toNat)) 0

/-- Whether `mantissa · 10 ^ exponent` is so great that the nearest float is infinite: at least
halfway from the greatest float to `2 ^ 1024`. -/
def exceedsFloat (mantissa : List Char) (exponent : Int) : Bool :=
  let m := decimalValue mantissa
  let size : Int := (mantissa.dropWhile (· == '0')).length + exponent
  if m = 0 then false
  else if size < 300 then false
  else if 320 < size then true
  else
    let limit := Nat.pow 2 1024 - Nat.pow 2 970
    if 0 ≤ exponent then decide (limit ≤ m * Nat.pow 10 exponent.toNat)
    else decide (limit * Nat.pow 10 (-exponent).toNat ≤ m)

/-- The exponent of a float, if there is one. -/
def readExponent (cs : List Char) : Option (Int × List Char) :=
  match cs with
  | e :: rest =>
    if e == 'e' || e == 'E' then
      let (negative, rest) :=
        match rest with
        | '-' :: rest => (true, rest)
        | '+' :: rest => (false, rest)
        | rest => (false, rest)
      let (digits, left) := readDigits Char.isDigit rest
      if digits.isEmpty then none
      else
        let n : Int := decimalValue digits
        some (if negative then -n else n, left)
    else none
  | [] => none

/-- The least and the greatest integer. -/
def minInteger : Int := -Int.pow 2 63

def maxInteger : Int := Int.pow 2 63 - 1

def integerValue (n : Int) : Except Fault Value :=
  if minInteger ≤ n ∧ n ≤ maxInteger then .ok (.integer n) else .error .outOfRange

/-- An integer to a base that is a power of two, after its mark. -/
def readBased (base : Nat) (p : Char → Bool) (cs : List Char) : Read Value :=
  let (digits, rest) := readDigits p cs
  if digits.isEmpty then .error .malformed
  else
    let n := digits.foldl (fun n c => base * n + hexValue [c]) 0
    match integerValue n with
    | .ok v => .ok (v, rest)
    | .error f => .error f

/-- A decimal integer or a float. -/
def readDecimal (cs : List Char) : Read Value :=
  let (negative, unsigned) :=
    match cs with
    | '-' :: rest => (true, rest)
    | '+' :: rest => (false, rest)
    | cs => (false, cs)
  match unsigned with
  | 'i' :: 'n' :: 'f' :: rest => .ok (.float, rest)
  | 'n' :: 'a' :: 'n' :: rest => .ok (.float, rest)
  | _ =>
    let (whole, rest) := decimalDigits unsigned
    if whole.isEmpty then .error .malformed
    else
      let (fraction, afterFraction) :=
        match rest with
        | '.' :: more => readDigits Char.isDigit more
        | _ => ([], rest)
      let rest := if fraction.isEmpty then rest else afterFraction
      match readExponent rest, fraction with
      | none, [] =>
        let n : Int := decimalValue whole
        match integerValue (if negative then -n else n) with
        | .ok v => .ok (v, rest)
        | .error f => .error f
      | exponent, fraction =>
        let (e, rest) := exponent.getD (0, rest)
        if !negative && exceedsFloat (whole ++ fraction) (e - fraction.length) then
          .error .outOfRange
        else .ok (.float, rest)

/-! ## Dates and times -/

/-- A number of exactly `n` digits between two bounds. -/
def fixedNumber (n low high : Nat) (cs : List Char) : Option (Nat × List Char) :=
  let digits := cs.take n
  let value := decimalValue digits
  if digits.length = n ∧ digits.all Char.isDigit ∧ low ≤ value ∧ value ≤ high then
    some (value, cs.drop n)
  else none

def isLeapYear (year : Nat) : Bool :=
  year % 4 == 0 && (year % 100 != 0 || year % 400 == 0)

def daysInMonth (year month : Nat) : Nat :=
  if month = 2 then (if isLeapYear year then 29 else 28)
  else if month = 4 ∨ month = 6 ∨ month = 9 ∨ month = 11 then 30
  else 31

/-- Drops one character. -/
def dropChar? (c : Char) : List Char → Option (List Char)
  | d :: rest => if c = d then some rest else none
  | [] => none

def dropDate? (cs : List Char) : Option (List Char) := do
  let (year, cs) ← fixedNumber 4 0 9999 cs
  let cs ← dropChar? '-' cs
  let (month, cs) ← fixedNumber 2 1 12 cs
  let cs ← dropChar? '-' cs
  let (_, cs) ← fixedNumber 2 1 (daysInMonth year month) cs
  return cs

def dropTime? (cs : List Char) : Option (List Char) := do
  let (_, cs) ← fixedNumber 2 0 23 cs
  let cs ← dropChar? ':' cs
  let (_, cs) ← fixedNumber 2 0 59 cs
  let cs ← dropChar? ':' cs
  let (_, cs) ← fixedNumber 2 0 60 cs
  match cs with
  | '.' :: rest =>
    let fraction := rest.takeWhile Char.isDigit
    return if fraction.isEmpty then cs else rest.drop fraction.length
  | cs => return cs

/-- An offset from universal time; a text that starts none is left alone. -/
def dropOffset? (cs : List Char) : Option (List Char) :=
  match cs with
  | c :: rest =>
    if c == 'Z' || c == 'z' then some rest
    else if c == '+' || c == '-' then do
      let (_, cs) ← fixedNumber 2 0 23 rest
      let cs ← dropChar? ':' cs
      let (_, cs) ← fixedNumber 2 0 59 cs
      return cs
    else some cs
  | [] => some []

/-- A date, a time or both. -/
def dropDatetime? (cs : List Char) : Option (List Char) :=
  match dropDate? cs with
  | none => dropTime? cs
  | some rest =>
    match rest with
    | c :: more =>
      if c == 'T' || c == 't' || c == ' ' then
        match dropTime? more with
        | some rest => dropOffset? rest
        | none => some rest
      else some rest
    | [] => some []

/-- A number or a date. -/
def readNumber (cs : List Char) : Read Value :=
  match dropDatetime? cs with
  | some rest => .ok (.datetime, rest)
  | none =>
    match cs with
    | '0' :: 'x' :: rest => readBased 16 isHexDigit rest
    | '0' :: 'o' :: rest => readBased 8 (fun c => decide ('0' ≤ c) && decide (c ≤ '7')) rest
    | '0' :: 'b' :: rest => readBased 2 (fun c => c == '0' || c == '1') rest
    | cs => readDecimal cs

end Signpost.Toml

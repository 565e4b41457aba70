import Signpost.Pattern.Fault
import Signpost.Pattern.Weight
import Signpost.Text.Blank
import Signpost.Text.Letter
import Signpost.Text.Number

/-!
# Reading patterns

`Expr.read` turns the text of a pattern into an expression, or reports the first fault from the
left. Below a group at most fifty levels may be open, and the finished expression is at most fifty
levels deep and no heavier than `Expr.weightLimit`.
-/

namespace Signpost.Pattern

/-- What the flags of a pattern switch on. -/
structure Flags where
  /-- `i`: ASCII letters match in both cases. -/
  ignoreCase : Bool := false
  /-- `m`: `^` and `$` hold at lines. -/
  multiLine : Bool := false
  /-- `s`: the dot matches line ends. -/
  dotAll : Bool := false
  /-- `U`: greedy and lazy change places. -/
  swapGreed : Bool := false
  /-- `R`: a carriage return ends a line too. -/
  anyLineEnd : Bool := false
  /-- `x`: blanks and comments are skipped. -/
  extended : Bool := false
  deriving DecidableEq, Repr

/-- Drops blanks and comments, from inside a comment or not. -/
def dropSpace : (inComment : Bool) → List Char → List Char
  | _, [] => []
  | true, c :: rest => dropSpace (c != '\n') rest
  | false, c :: rest =>
    if Text.isBlank c then dropSpace false rest
    else if c = '#' then dropSpace true rest
    else c :: rest

namespace Flags

/-- Drops blanks and comments if the flags ask for it. -/
def skip (flags : Flags) (cs : List Char) : List Char :=
  if flags.extended then dropSpace false cs else cs

/-- Takes the characters that satisfy `p`, skipping between them what the flags skip. -/
def collect (flags : Flags) (p : Char → Bool) :
    (inComment : Bool) → List Char → List Char × List Char
  | _, [] => ([], [])
  | true, c :: rest => flags.collect p (c != '\n') rest
  | false, c :: rest =>
    if flags.extended && Text.isBlank c then flags.collect p false rest
    else if flags.extended && c == '#' then flags.collect p true rest
    else if p c then
      let (taken, left) := flags.collect p false rest
      (c :: taken, left)
    else ([], c :: rest)

/-- The character that decides whether a dash is a range. In a comment it is the first character
after the `#` that is no blank. -/
def peek (flags : Flags) (cs : List Char) : Option Char :=
  if flags.extended then
    match cs.filter (fun c => !Text.isBlank c) with
    | '#' :: c :: _ => some c
    | ['#'] => cs.head?
    | c :: _ => some c
    | [] => cs.head?
  else cs.head?

/-- The expression of a single character. -/
def charExpr (flags : Flags) (c : Char) : Expr :=
  if flags.ignoreCase then
    match (CharRange.single c).otherCase with
    | some other => .set (CharSet.ofRanges [.single c, other])
    | none => .char c
  else .char c

def dot (flags : Flags) : Expr :=
  if flags.dotAll then .set CharSet.all
  else if flags.anyLineEnd then .set CharSet.notLineEnd
  else .set CharSet.notLineFeed

def startAnchor (flags : Flags) : Expr :=
  .look (if !flags.multiLine then .textStart
    else if flags.anyLineEnd then .anyLineStart else .lineStart)

def endAnchor (flags : Flags) : Expr :=
  .look (if !flags.multiLine then .textEnd
    else if flags.anyLineEnd then .anyLineEnd else .lineEnd)

end Flags

/-- ASCII characters that may be escaped to stand for themselves. -/
def isEscapable (c : Char) : Bool :=
  decide (c.toNat < 0x80) && !c.isAlphanum && c != '<' && c != '>'

namespace Flags

/-- Exactly `n` hexadecimal digits. -/
def hexFixed (flags : Flags) : Nat → List Char → Except Fault (List Char × List Char)
  | 0, cs => .ok ([], cs)
  | _ + 1, [] => .error .hexFixedAtEnd
  | n + 1, c :: rest =>
    if Text.isHexDigit c then
      match flags.hexFixed n (flags.skip rest) with
      | .ok (digits, left) => .ok (c :: digits, left)
      | .error f => .error f
    else .error .hexFixedDigit

/-- A hexadecimal escape after its letter. -/
def hexEscape (flags : Flags) (digits : Nat) (cs : List Char) : Except Fault (Expr × List Char) :=
  match flags.skip cs with
  | [] => .error .hexAtEnd
  | '{' :: rest =>
    let (found, left) := flags.collect Text.isHexDigit false rest
    match left with
    | [] => .error .hexBraceAtEnd
    | '}' :: left =>
      if found.isEmpty then .error .hexBraceEmpty
      else
        match Text.charOf? (Text.hexValue found) with
        | some c => .ok (flags.charExpr c, flags.skip left)
        | none => .error .hexBraceInvalid
    | _ => .error .hexBraceDigit
  | cs =>
    match flags.hexFixed digits cs with
    | .error f => .error f
    | .ok (found, left) =>
      match Text.charOf? (Text.hexValue found) with
      | some c => .ok (flags.charExpr c, left)
      | none => .error .hexFixedInvalid

/-- What follows `\b`: a special word boundary in braces, unless the braces are a repetition. -/
def wordBoundary (flags : Flags) (cs : List Char) : Except Fault (Expr × List Char) :=
  let isNameChar (c : Char) : Bool := c.isAlpha || c == '-'
  match cs with
  | '{' :: rest =>
    match flags.skip rest with
    | [] => .error .wordBoundaryAtEnd
    | c :: more =>
      if isNameChar c then
        let (name, left) := flags.collect isNameChar false (c :: more)
        match left with
        | '}' :: left =>
          match String.ofList name with
          | "start" => .ok (.look .wordStart, left)
          | "end" => .ok (.look .wordEnd, left)
          | "start-half" => .ok (.look .wordStartHalf, left)
          | "end-half" => .ok (.look .wordEndHalf, left)
          | _ => .error .wordBoundaryUnrecognized
        | _ => .error .wordBoundaryUnclosed
      else .ok (.look .wordBoundary, cs)
  | _ => .ok (.look .wordBoundary, cs)

/-- An escape after its backslash. -/
def escape (flags : Flags) : List Char → Except Fault (Expr × List Char)
  | [] => .error .escapeAtEnd
  | c :: rest =>
    if c.isDigit then .error .backreference
    else if isEscapable c then .ok (flags.charExpr c, rest)
    else
      match c with
      | 'p' => .error .unicodeSet
      | 'P' => .error .unicodeSet
      | 'x' => flags.hexEscape 2 rest
      | 'u' => flags.hexEscape 4 rest
      | 'U' => flags.hexEscape 8 rest
      | 'd' => .ok (.set CharSet.digit, rest)
      | 's' => .ok (.set CharSet.space, rest)
      | 'w' => .ok (.set CharSet.word, rest)
      | 'D' => .ok (.set CharSet.digit.complement, rest)
      | 'S' => .ok (.set CharSet.space.complement, rest)
      | 'W' => .ok (.set CharSet.word.complement, rest)
      | 'a' => .ok (flags.charExpr '\x07', rest)
      | 'f' => .ok (flags.charExpr '\x0C', rest)
      | 't' => .ok (flags.charExpr '\t', rest)
      | 'n' => .ok (flags.charExpr '\n', rest)
      | 'r' => .ok (flags.charExpr '\r', rest)
      | 'v' => .ok (flags.charExpr '\x0B', rest)
      | 'A' => .ok (.look .textStart, rest)
      | 'z' => .ok (.look .textEnd, rest)
      | 'b' => flags.wordBoundary rest
      | 'B' => .ok (.look .notWordBoundary, rest)
      | '<' => .ok (.look .wordStart, rest)
      | '>' => .ok (.look .wordEnd, rest)
      | _ => .error .escapeUnrecognized

/-- One item of a set: a character or an escape. -/
def setItem (flags : Flags) : List Char → Except Fault (Expr × List Char)
  | [] => .error .setUnclosed
  | '\\' :: rest => flags.escape rest
  | c :: rest => .ok (.char c, rest)

/-- An item of a set or a range of characters. -/
def setRange (flags : Flags) (cs : List Char) : Except Fault (CharSet × List Char) :=
  match flags.setItem cs with
  | .error f => .error f
  | .ok (first, left) =>
    match flags.skip left with
    | [] => .error .setUnclosedAfterItem
    | c :: rest =>
      let next := flags.peek rest
      if c != '-' || next == some ']' || next == some '-' then
        match first with
        | .char a => .ok ([.single a], c :: rest)
        | .set s => .ok (s, c :: rest)
        | _ => .error .setEscape
      else
        match flags.skip rest with
        | [] => .error .setUnclosedAfterDash
        | rest =>
          match flags.setItem rest with
          | .error f => .error f
          | .ok (last, left) =>
            match first, last with
            | .char a, .char b =>
              if b < a then .error .setRangeReversed else .ok ([.between a b], left)
            | _, _ => .error .setRangeItem

/-- The name of a set up to `:]`, and the set it stands for. -/
def setName? (cs : List Char) : Option (CharSet × List Char) :=
  match cs.dropWhile (· != ':') with
  | ':' :: ']' :: left => (CharSet.named? (cs.takeWhile (· != ':'))).map fun s => (s, left)
  | _ => none

/-- A named set after its opening bracket. -/
def namedSet? : List Char → Option (CharSet × List Char)
  | ':' :: '^' :: rest => (setName? rest).map fun (s, left) => (s.complement, left)
  | ':' :: rest => setName? rest
  | _ => none

/-- The items of a set up to its closing bracket. Each item takes a character. -/
def setItems (flags : Flags) (soFar : CharSet) : Nat → List Char →
    Except Fault (CharSet × List Char)
  | 0, _ => .error .setUnclosed
  | fuel + 1, cs =>
    match flags.skip cs with
    | [] => .error .setUnclosed
    | '[' :: rest =>
      match namedSet? rest with
      | some (s, left) => flags.setItems (soFar ++ s) fuel left
      | none => .error .setNested
    | ']' :: rest => .ok (soFar, rest)
    | '&' :: '&' :: _ => .error .setIntersection
    | '-' :: '-' :: _ => .error .setDifference
    | '~' :: '~' :: _ => .error .setSymmetricDifference
    | cs =>
      match flags.setRange cs with
      | .error f => .error f
      | .ok (s, left) => flags.setItems (soFar ++ s) fuel left

/-- The dashes at the start of a set, each of which stands for itself. -/
def leadingDashes (flags : Flags) : Nat → List Char → Except Fault (CharSet × List Char)
  | 0, cs => .ok ([], cs)
  | fuel + 1, cs =>
    match cs with
    | '-' :: rest =>
      match flags.skip rest with
      | [] => .error .setUnclosedAfterDash
      | rest =>
        match flags.leadingDashes fuel rest with
        | .error f => .error f
        | .ok (s, left) => .ok (.single '-' :: s, left)
    | cs => .ok ([], cs)

/-- The items of a set up to its closing bracket. A closing bracket that comes first stands for
itself. -/
def readItems (flags : Flags) (cs : List Char) : Except Fault (CharSet × List Char) :=
  match flags.leadingDashes cs.length cs with
  | .error f => .error f
  | .ok ([], ']' :: rest) =>
    match flags.skip rest with
    | [] => .error .setUnclosedAfterClosing
    | cs => flags.setItems [.single ']'] (cs.length + 1) cs
  | .ok (_, []) => .error .setUnclosedAfterClosing
  | .ok (dashes, cs) => flags.setItems dashes (cs.length + 1) cs

/-- The set that ranges stand for. -/
def setOf (flags : Flags) (ranges : CharSet) : CharSet :=
  if flags.ignoreCase then (CharSet.ofRanges ranges).foldCase else CharSet.ofRanges ranges

/-- A set after its opening bracket. -/
def readSet (flags : Flags) (cs : List Char) : Except Fault (Expr × List Char) :=
  match flags.skip cs with
  | [] => .error .setUnclosed
  | '^' :: rest =>
    match flags.skip rest with
    | [] => .error .setUnclosedAfterNegation
    | rest =>
      match flags.readItems rest with
      | .error f => .error f
      | .ok (ranges, left) => .ok (.set (flags.setOf ranges).complement, left)
  | cs =>
    match flags.readItems cs with
    | .error f => .error f
    | .ok (ranges, left) => .ok (.set (flags.setOf ranges), left)

/-- A number in a counted repetition, with the blanks around it. -/
def readCount (flags : Flags) (cs : List Char) : Except Fault (Nat × List Char) :=
  let (digits, left) := flags.collect Char.isDigit false (cs.dropWhile Text.isBlank)
  match Text.readNat Text.max32 digits with
  | .ok n => .ok (n, left.dropWhile Text.isBlank)
  | .error .empty => .error .decimalNoDigits
  | .error _ => .error .decimalInvalid

/-- Takes the question mark that makes a repetition lazy, and says whether it is greedy. -/
def readGreed (flags : Flags) (cs : List Char) : Bool × List Char :=
  match cs with
  | '?' :: rest => (flags.swapGreed, rest)
  | cs => (!flags.swapGreed, cs)

/-- The greatest number of copies in a counted repetition, with what is left from the closing brace
on. -/
def readMost (flags : Flags) (least : Nat) : List Char → Except Fault (Option Nat × List Char)
  | [] => .error .countedMinUnclosed
  | ',' :: rest =>
    match flags.skip rest with
    | [] => .error .countedCommaUnclosed
    | '}' :: rest => .ok (none, '}' :: rest)
    | rest =>
      match flags.readCount rest with
      | .error f => .error f
      | .ok (_, []) => .error .countedMinMaxUnclosed
      | .ok (most, left) => .ok (some most, left)
  | cs => .ok (some least, cs)

/-- A counted repetition of `body` after its opening brace. -/
def readCounted (flags : Flags) (body : Expr) (cs : List Char) :
    Except Fault (Expr × List Char) :=
  match flags.skip cs with
  | [] => .error .countedUnclosed
  | cs =>
    match flags.readCount cs with
    | .error f => .error f
    | .ok (least, cs) =>
      match flags.readMost least cs with
      | .error f => .error f
      | .ok (most, '}' :: rest) =>
        let (greedy, left) := flags.readGreed (flags.skip rest)
        if most.any (· < least) then .error .countedReversed
        else .ok (.ofRepetition least most greedy body, left)
      | .ok _ => .error .countedInvalid

/-- An expression that starts with none of the characters of groups, sets and repetitions. -/
def readPrimitive (flags : Flags) (c : Char) (rest : List Char) :
    Except Fault (Expr × List Char) :=
  match c with
  | '\\' => flags.escape rest
  | '.' => .ok (flags.dot, rest)
  | '^' => .ok (flags.startAnchor, rest)
  | '$' => .ok (flags.endAnchor, rest)
  | c => .ok (flags.charExpr c, rest)

/-- Switches the flag of a letter. -/
def set? (flags : Flags) (letter : Char) (on : Bool) : Option Flags :=
  match letter with
  | 'i' => some { flags with ignoreCase := on }
  | 'm' => some { flags with multiLine := on }
  | 's' => some { flags with dotAll := on }
  | 'U' => some { flags with swapGreed := on }
  | 'R' => some { flags with anyLineEnd := on }
  | 'x' => some { flags with extended := on }
  | 'u' => some flags
  | _ => none

/-- The letters of a flag directive up to `:` or `)`. Nothing is skipped between them, whatever the
flags say. -/
def readLetters (now : Flags) (seen : List Char) (negate dangling : Bool) :
    Nat → List Char → Except Fault (Flags × List Char)
  | 0, _ => .error .flagsUnclosed
  | fuel + 1, cs =>
    match cs with
    | [] => .error .flagsUnclosed
    | c :: rest =>
      if c = ':' ∨ c = ')' then
        if dangling then .error .flagNegationDangling else .ok (now, c :: rest)
      else if c = '-' then
        if negate then .error .flagNegationRepeated
        else now.readLetters seen true true fuel rest
      else
        match now.set? c (!negate) with
        | none => .error .flagUnrecognized
        | some next =>
          if c ∈ seen then .error .flagDuplicate
          else next.readLetters (c :: seen) negate false fuel rest

end Flags

/-- What is left of a pattern, and what has been met so far. -/
structure Reading where
  rest : List Char
  flags : Flags := {}
  /-- The groups that have been opened. -/
  groups : Nat := 0
  names : List String := []

/-- What an opening parenthesis starts. -/
inductive Opening
  /-- Flags for the rest of the enclosing group. -/
  | directive
  /-- A group without a number. -/
  | plain
  | group (index : Nat) (name : Option String)

namespace Reading

/-- A character of a group's name. -/
def isNameChar (first : Bool) (c : Char) : Bool :=
  if first then c == '_' || Text.isLetter c
  else c == '_' || c == '.' || c == '[' || c == ']' || Text.isLetter c || Text.isNumeral c

/-- The characters of a group's name up to `>`. -/
def readName (first : Bool) : List Char → Except Fault (List Char × List Char)
  | [] => .error .groupNameUnclosed
  | c :: rest =>
    if c = '>' then .ok ([], rest)
    else if isNameChar first c then
      match readName false rest with
      | .ok (name, left) => .ok (c :: name, left)
      | .error f => .error f
    else .error .groupNameInvalid

/-- A group with a name, after the opening angle bracket. -/
def openNamed (s : Reading) (cs : List Char) : Except Fault (Opening × Reading) := do
  if cs.isEmpty then throw .groupNameMissing
  let (chars, left) ← readName true cs
  let name := String.ofList chars
  if chars.isEmpty then throw .groupNameEmpty
  if name ∈ s.names then throw .groupNameDuplicate
  let index := s.groups + 1
  return (.group index (some name),
    { s with rest := left, groups := index, names := name :: s.names })

/-- What follows an opening parenthesis, up to the expression inside. -/
def openGroup (s : Reading) (cs : List Char) : Except Fault (Opening × Reading) :=
  match s.flags.skip cs with
  | '?' :: '=' :: _ => .error .lookAround
  | '?' :: '!' :: _ => .error .lookAround
  | '?' :: '<' :: '=' :: _ => .error .lookAround
  | '?' :: '<' :: '!' :: _ => .error .lookAround
  | '?' :: 'P' :: '<' :: rest => s.openNamed rest
  | '?' :: '<' :: rest => s.openNamed rest
  | ['?'] => .error .groupQuestionAtEnd
  | '?' :: ')' :: _ => .error .emptyFlags
  | '?' :: rest =>
    match s.flags.readLetters [] false false (rest.length + 1) rest with
    | .error f => .error f
    | .ok (flags, ':' :: left) => .ok (.plain, { s with rest := left, flags := flags })
    | .ok (flags, left) => .ok (.directive, { s with rest := left, flags := flags })
  | cs => .ok (.group (s.groups + 1) none, { s with rest := cs, groups := s.groups + 1 })

/-- The expression up to the end of the pattern or of the group. `branches` and `items` hold what
has been read of it, the last first. Each round takes a character, so `fuel` need only exceed the
number of characters left. -/
def read (level : Nat) (branches items : List Expr) :
    Nat → Reading → Except Fault (Expr × Reading)
  | 0, _ => .error .nesting
  | fuel + 1, s =>
    match s.flags.skip s.rest with
    | [] => .ok (.ofBranches (.ofItems items.reverse :: branches).reverse, { s with rest := [] })
    | '(' :: rest =>
      match s.openGroup rest with
      | .error f => .error f
      | .ok (.directive, s) => read level branches items fuel { s with rest := s.rest.tail }
      | .ok (opening, inner) =>
        if 50 ≤ level then .error .nesting
        else
          match read (level + 1) [] [] fuel inner with
          | .error f => .error f
          | .ok (body, after) =>
            match after.rest with
            | ')' :: rest =>
              let item :=
                match opening with
                | .group index name => .group index name body
                | _ => body
              read level branches (item :: items) fuel
                { after with rest := rest, flags := s.flags }
            | _ => .error .unclosedGroup
    | ')' :: rest =>
      if level = 0 then .error .unopenedGroup
      else
        .ok (.ofBranches (.ofItems items.reverse :: branches).reverse,
          { s with rest := ')' :: rest })
    | '|' :: rest =>
      read level (.ofItems items.reverse :: branches) [] fuel { s with rest := rest }
    | '[' :: rest =>
      match s.flags.readSet rest with
      | .error f => .error f
      | .ok (e, left) => read level branches (e :: items) fuel { s with rest := left }
    | '{' :: rest =>
      match items with
      | [] => .error .countedMissing
      | body :: items =>
        match s.flags.readCounted body rest with
        | .error f => .error f
        | .ok (e, left) => read level branches (e :: items) fuel { s with rest := left }
    | c :: rest =>
      if c = '?' ∨ c = '*' ∨ c = '+' then
        match items with
        | [] => .error .repetitionMissing
        | body :: items =>
          let (greedy, left) := s.flags.readGreed rest
          let least := if c = '+' then 1 else 0
          let most := if c = '?' then some 1 else none
          read level branches (.ofRepetition least most greedy body :: items) fuel
            { s with rest := left }
      else
        match s.flags.readPrimitive c rest with
        | .error f => .error f
        | .ok (e, left) => read level branches (e :: items) fuel { s with rest := left }

end Reading

namespace Expr

/-- How deep an expression may be. -/
def depthLimit : Nat := 50

/-- Reads the text of a pattern. -/
def read (text : List Char) : Except Fault Expr :=
  match Reading.read 0 [] [] (text.length + 1) { rest := text } with
  | .error f => .error f
  | .ok (e, _) =>
    if depthLimit < e.depth then .error .nesting
    else if weightLimit < e.weight then .error .tooHeavy
    else .ok e

end Expr

end Signpost.Pattern

/-!
# Faults of patterns

Why the text of a pattern is refused.
-/

namespace Signpost.Pattern

inductive Fault
  | nesting
  | tooHeavy
  | unclosedGroup
  | unopenedGroup
  | groupQuestionAtEnd
  | lookAround
  | emptyFlags
  | groupNameMissing
  | groupNameInvalid
  | groupNameUnclosed
  | groupNameEmpty
  | groupNameDuplicate
  | flagUnrecognized
  | flagDuplicate
  | flagNegationRepeated
  | flagNegationDangling
  | flagsUnclosed
  | repetitionMissing
  | countedMissing
  | countedUnclosed
  | countedMinUnclosed
  | countedCommaUnclosed
  | countedMinMaxUnclosed
  | countedInvalid
  | countedReversed
  | decimalNoDigits
  | decimalInvalid
  | setUnclosed
  | setUnclosedAfterNegation
  | setUnclosedAfterClosing
  | setUnclosedAfterItem
  | setUnclosedAfterDash
  | setRangeReversed
  | setRangeItem
  | setEscape
  | setNested
  | setIntersection
  | setDifference
  | setSymmetricDifference
  | escapeAtEnd
  | backreference
  | unicodeSet
  | escapeUnrecognized
  | hexAtEnd
  | hexFixedAtEnd
  | hexFixedDigit
  | hexFixedInvalid
  | hexBraceAtEnd
  | hexBraceDigit
  | hexBraceEmpty
  | hexBraceInvalid
  | wordBoundaryAtEnd
  | wordBoundaryUnclosed
  | wordBoundaryUnrecognized
  deriving DecidableEq, Repr

def Fault.message : Fault → String
  | nesting => "pattern has too much nesting"
  | tooHeavy => "compiled regex exceeded size limit"
  | unclosedGroup => "found open group without closing ')'"
  | unopenedGroup => "found closing ')' without matching '('"
  | groupQuestionAtEnd => "expected closing ')', but got end of pattern"
  | lookAround => "look-around is not supported"
  | emptyFlags => "empty flag directive '(?)' is not allowed"
  | groupNameMissing => "expected capture group name, but got end of pattern"
  | groupNameInvalid => "invalid group name"
  | groupNameUnclosed => "expected end of capture group name, but got end of pattern"
  | groupNameEmpty => "empty capture group names are not allowed"
  | groupNameDuplicate => "duplicate capture group name"
  | flagUnrecognized => "unrecognized inline flag"
  | flagDuplicate => "duplicate inline flag is not allowed"
  | flagNegationRepeated => "inline flag negation cannot be repeated"
  | flagNegationDangling => "inline flags cannot end with negation directive"
  | flagsUnclosed => "expected ':' or ')' to end inline flags, but got end of pattern"
  | repetitionMissing =>
    "uncounted repetition operator must be applied to a sub-expression"
  | countedMissing => "counted repetition operator must be applied to a sub-expression"
  | countedUnclosed => "found unclosed counted repetition operator"
  | countedMinUnclosed => "found incomplete and unclosed counted repetition operator"
  | countedCommaUnclosed =>
    "found counted repetition operator with a comma that is unclosed"
  | countedMinMaxUnclosed => "found counted repetition with min and max that is unclosed"
  | countedInvalid =>
    "expected closing brace for counted repetition, but got something else"
  | countedReversed => "found counted repetition with a min bigger than its max"
  | decimalNoDigits => "expected decimal number, but found no digits"
  | decimalInvalid => "got invalid decimal number"
  | setUnclosed => "found unclosed character class"
  | setUnclosedAfterNegation => "negated character class has no closing bracket"
  | setUnclosedAfterClosing =>
    "character class begins with literal ']' but has no closing bracket"
  | setUnclosedAfterItem => "non-empty character class has no closing bracket"
  | setUnclosedAfterDash => "non-empty character class has no closing bracket after dash"
  | setRangeReversed => "invalid range in character class"
  | setRangeItem => "character class ranges must start and end with a single character"
  | setEscape => "invalid escape sequence in character class"
  | setNested => "nested character classes are not supported"
  | setIntersection => "character class intersection is not supported"
  | setDifference => "character class difference is not supported"
  | setSymmetricDifference => "character class symmetric difference is not supported"
  | escapeAtEnd => "saw start of escape sequence, but saw end of pattern before it finished"
  | backreference => "backreferences are not supported"
  | unicodeSet => "Unicode character classes are not supported"
  | escapeUnrecognized => "unrecognized escape sequence"
  | hexAtEnd => "expected hexadecimal number, but saw end of pattern first"
  | hexFixedAtEnd => "expected fixed length hexadecimal number, but saw end of pattern first"
  | hexFixedDigit => "expected fixed length hexadecimal number, but got non-hex digit"
  | hexFixedInvalid => "got invalid fixed length hexadecimal number"
  | hexBraceAtEnd =>
    "expected hexadecimal number, but saw end of pattern before closing brace"
  | hexBraceDigit => "expected hexadecimal number in braces, but got non-hex digit"
  | hexBraceEmpty => "expected hexadecimal number in braces, but got no digits"
  | hexBraceInvalid => "got invalid hexadecimal number in braces"
  | wordBoundaryAtEnd =>
    "found start of special word boundary or repetition without an end"
  | wordBoundaryUnclosed =>
    "special word boundary assertion is unclosed or has an invalid character"
  | wordBoundaryUnrecognized => "special word boundary assertion is unrecognized"

end Signpost.Pattern

/-! # The syntax of patterns

Patterns are regular expressions in the usual Perl-like syntax without backreferences or
look-around. This module holds what parsing produces:

* `Span`: a stretch of the pattern, as character positions;
* `ErrorKind` and `SyntaxError`: why a pattern is refused, with the stretch to point at (and a
  second one for errors about duplicates);
* `Ast`: the parsed pattern. Flags such as `(?i)` stay in the tree as items, because they act on
  what follows them in the enclosing group.
-/

namespace InputMethod.Pattern

/-- A stretch of a pattern, from character position `start` up to `stop`. -/
structure Span where
  start : Nat
  stop : Nat
  deriving BEq, Inhabited, Repr

/-- The empty stretch at position `p`. -/
def Span.at (p : Nat) : Span := ⟨p, p⟩

/-- Why a pattern is refused. The first group are faults of the text; the second are found when
    the parsed pattern is turned into a matcher. -/
inductive ErrorKind where
  | captureLimitExceeded
  | classEscapeInvalid
  | classRangeInvalid
  | classRangeLiteral
  | classUnclosed
  | decimalEmpty
  | decimalInvalid
  | escapeHexEmpty
  | escapeHexInvalid
  | escapeHexInvalidDigit
  | escapeUnexpectedEof
  | escapeUnrecognized
  | flagDanglingNegation
  | flagDuplicate
  | flagRepeatedNegation
  | flagUnexpectedEof
  | flagUnrecognized
  | groupNameDuplicate
  | groupNameEmpty
  | groupNameInvalid
  | groupNameUnexpectedEof
  | groupUnclosed
  | groupUnopened
  | nestLimitExceeded (limit : Nat)
  | repetitionCountInvalid
  | repetitionCountDecimalEmpty
  | repetitionCountUnclosed
  | repetitionMissing
  | specialWordBoundaryUnclosed
  | specialWordBoundaryUnrecognized
  | specialWordOrRepetitionUnexpectedEof
  | unicodeClassInvalid
  | unsupportedBackreference
  | unsupportedLookAround
  | unicodeNotAllowed
  | invalidUtf8
  | unicodePropertyNotFound
  | unicodePropertyValueNotFound
  deriving BEq, Inhabited

/-- What an error says. -/
def ErrorKind.message : ErrorKind → String
  | .captureLimitExceeded => "exceeded the maximum number of capturing groups (4294967295)"
  | .classEscapeInvalid => "invalid escape sequence found in character class"
  | .classRangeInvalid => "invalid character class range, the start must be <= the end"
  | .classRangeLiteral => "invalid range boundary, must be a literal"
  | .classUnclosed => "unclosed character class"
  | .decimalEmpty => "decimal literal empty"
  | .decimalInvalid => "decimal literal invalid"
  | .escapeHexEmpty => "hexadecimal literal empty"
  | .escapeHexInvalid => "hexadecimal literal is not a Unicode scalar value"
  | .escapeHexInvalidDigit => "invalid hexadecimal digit"
  | .escapeUnexpectedEof => "incomplete escape sequence, reached end of pattern prematurely"
  | .escapeUnrecognized => "unrecognized escape sequence"
  | .flagDanglingNegation => "dangling flag negation operator"
  | .flagDuplicate => "duplicate flag"
  | .flagRepeatedNegation => "flag negation operator repeated"
  | .flagUnexpectedEof => "expected flag but got end of regex"
  | .flagUnrecognized => "unrecognized flag"
  | .groupNameDuplicate => "duplicate capture group name"
  | .groupNameEmpty => "empty capture group name"
  | .groupNameInvalid => "invalid capture group character"
  | .groupNameUnexpectedEof => "unclosed capture group name"
  | .groupUnclosed => "unclosed group"
  | .groupUnopened => "unopened group"
  | .nestLimitExceeded limit =>
    "exceed the maximum number of nested parentheses/brackets (" ++ toString limit ++ ")"
  | .repetitionCountInvalid => "invalid repetition count range, the start must be <= the end"
  | .repetitionCountDecimalEmpty => "repetition quantifier expects a valid decimal"
  | .repetitionCountUnclosed => "unclosed counted repetition"
  | .repetitionMissing => "repetition operator missing expression"
  | .specialWordBoundaryUnclosed =>
    "special word boundary assertion is either unclosed or contains an invalid character"
  | .specialWordBoundaryUnrecognized =>
    "unrecognized special word boundary assertion, valid choices are: start, end, start-half or end-half"
  | .specialWordOrRepetitionUnexpectedEof =>
    "found either the beginning of a special word boundary or a bounded repetition on a \\b with an opening brace, but no closing brace"
  | .unicodeClassInvalid => "invalid Unicode character class"
  | .unsupportedBackreference => "backreferences are not supported"
  | .unsupportedLookAround => "look-around, including look-ahead and look-behind, is not supported"
  | .unicodeNotAllowed => "Unicode not allowed here"
  | .invalidUtf8 => "pattern can match invalid UTF-8"
  | .unicodePropertyNotFound => "Unicode property not found"
  | .unicodePropertyValueNotFound => "Unicode property value not found"

/-- A refused pattern: the error, where it is, and for duplicates where the first one was. -/
structure SyntaxError where
  kind : ErrorKind
  span : Span
  aux : Option Span := none
  deriving Inhabited

/-- A character written in the pattern. `byte` is set for a two-digit `\x` escape, which
    without Unicode mode stands for a byte. -/
structure Literal where
  span : Span
  c : Char
  byte : Bool := false
  deriving Inhabited

/-- The zero-width assertions. -/
inductive AssertionKind where
  | startLine | endLine | startText | endText
  | wordBoundary | notWordBoundary
  | wordStart | wordEnd | wordStartHalf | wordEndHalf
  deriving BEq, Inhabited

/-- The classes `\d`, `\s` and `\w`. -/
inductive PerlKind where
  | digit | space | word
  deriving BEq, Inhabited

/-- The named classes `[:name:]` of bracketed classes. -/
inductive AsciiKind where
  | alnum | alpha | ascii | blank | cntrl | digit | graph | lower | print | punct | space | upper
  | word | xdigit
  deriving BEq, Inhabited

/-- The ASCII class of a name. -/
def AsciiKind.ofName? : String → Option AsciiKind
  | "alnum" => some .alnum
  | "alpha" => some .alpha
  | "ascii" => some .ascii
  | "blank" => some .blank
  | "cntrl" => some .cntrl
  | "digit" => some .digit
  | "graph" => some .graph
  | "lower" => some .lower
  | "print" => some .print
  | "punct" => some .punct
  | "space" => some .space
  | "upper" => some .upper
  | "word" => some .word
  | "xdigit" => some .xdigit
  | _ => none

/-- What a Unicode class `\p…` names. -/
inductive UnicodeQuery where
  | oneLetter (c : Char)
  | named (name : String)
  | namedValue (name value : String)
  deriving Inhabited

/-- The flags that `(?flags)` sets or clears. -/
inductive Flag where
  | caseInsensitive | multiLine | dotMatchesNewLine | swapGreed | unicode | crlf
  | ignoreWhitespace
  deriving BEq, Inhabited

/-- An item of a flag group: a flag, or the `-` after which flags are cleared. -/
inductive FlagItem where
  | negation
  | flag (f : Flag)
  deriving BEq, Inhabited

/-- The set operations of bracketed classes. -/
inductive ClassOp where
  | intersection | difference | symmetricDifference
  deriving BEq, Inhabited

/-- The contents of a bracketed class. -/
inductive ClassSet where
  | literal (l : Literal)
  | range (lo hi : Literal)
  | ascii (span : Span) (kind : AsciiKind) (negated : Bool)
  | unicode (span : Span) (negated : Bool) (query : UnicodeQuery)
  | perl (span : Span) (kind : PerlKind) (negated : Bool)
  | bracketed (span : Span) (negated : Bool) (set : ClassSet)
  /-- Items side by side; none at all is the empty item. -/
  | union (span : Span) (items : List ClassSet)
  | op (span : Span) (kind : ClassOp) (lhs rhs : ClassSet)
  deriving Inhabited

/-- The stretch of the pattern an item of a class was read from. -/
def ClassSet.span : ClassSet → Span
  | .literal l => l.span
  | .range lo hi => ⟨lo.span.start, hi.span.stop⟩
  | .ascii s _ _ => s
  | .unicode s _ _ => s
  | .perl s _ _ => s
  | .bracketed s _ _ => s
  | .union s _ => s
  | .op s _ _ _ => s

/-- How a group captures. -/
inductive GroupKind where
  | capture (index : Nat) (name : Option String)
  | nonCapturing (flags : List FlagItem)
  deriving Inhabited

/-- A parsed pattern. -/
inductive Ast where
  | empty (span : Span)
  /-- `(?flags)`: sets flags for the rest of the enclosing group. -/
  | flags (span : Span) (items : List FlagItem)
  | literal (l : Literal)
  | dot (span : Span)
  | assertion (span : Span) (kind : AssertionKind)
  | unicode (span : Span) (negated : Bool) (query : UnicodeQuery)
  | perl (span : Span) (kind : PerlKind) (negated : Bool)
  | bracketed (span : Span) (negated : Bool) (set : ClassSet)
  | repetition (span : Span) (min : Nat) (max : Option Nat) (greedy : Bool) (sub : Ast)
  | group (span : Span) (kind : GroupKind) (sub : Ast)
  | alternation (span : Span) (branches : List Ast)
  | concat (span : Span) (items : List Ast)
  deriving Inhabited

/-- The stretch of the pattern a node was read from. -/
def Ast.span : Ast → Span
  | .empty s => s
  | .flags s _ => s
  | .literal l => l.span
  | .dot s => s
  | .assertion s _ => s
  | .unicode s _ _ => s
  | .perl s _ _ => s
  | .bracketed s _ _ => s
  | .repetition s _ _ _ _ => s
  | .group s _ _ => s
  | .alternation s _ => s
  | .concat s _ => s

end InputMethod.Pattern

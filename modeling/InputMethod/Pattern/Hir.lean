import InputMethod.Pattern.Ast
import InputMethod.Unicode.Property

/-! # From syntax to expressions

A parsed pattern is turned into an `Hir`: characters become sets of characters, flags are
applied and disappear, and repetitions are normalised. Flags act from where they are set to
the end of the enclosing group, across the branches of an alternation that follow.

* With `i`, each character stands for every character equal to it under simple case folding,
  and so do the members of classes; folding comes before negation.
* Without `u`, classes are ASCII classes, and a pattern that could match inside a multi-byte
  character is refused.
* A repetition of something that only matches the empty text is capped at one round;
  `x{0}` is the empty pattern and `x{1}` is `x`.
-/

namespace InputMethod.Pattern

open InputMethod.Unicode

/-- The zero-width assertions the matcher checks. -/
inductive Look where
  | start | stop
  | startLF | endLF
  | startCRLF | endCRLF
  | word (unicode : Bool)
  | notWord (unicode : Bool)
  | wordStart (unicode : Bool)
  | wordEnd (unicode : Bool)
  | wordStartHalf (unicode : Bool)
  | wordEndHalf (unicode : Bool)
  deriving BEq, Inhabited

/-- A pattern ready to be compiled. -/
inductive Hir where
  | empty
  | cls (set : CharSet)
  | look (l : Look)
  | repetition (min : Nat) (max : Option Nat) (greedy : Bool) (sub : Hir)
  | capture (index : Nat) (sub : Hir)
  | concat (items : List Hir)
  | alternation (branches : List Hir)
  deriving Inhabited

namespace Hir

mutual

/-- The shortest and longest text an expression can match, in characters; `none` means no
    bound, or no match at all. -/
def lengths : Hir → Option Nat × Option Nat
  | .empty => (some 0, some 0)
  | .cls set => if set.isEmpty then (none, none) else (some 1, some 1)
  | .look _ => (some 0, some 0)
  | .repetition min max _ sub =>
    let (lo, hi) := lengths sub
    (lo.map (· * min), match max, hi with
      | some m, some h => some (h * m)
      | _, _ => none)
  | .capture _ sub => lengths sub
  | .concat items => concatLengths items
  | .alternation branches => alternationLengths branches

def concatLengths : List Hir → Option Nat × Option Nat
  | [] => (some 0, some 0)
  | h :: rest =>
    let (lo1, hi1) := lengths h
    let (lo2, hi2) := concatLengths rest
    ((do let a ← lo1; let b ← lo2; pure (a + b)), (do let a ← hi1; let b ← hi2; pure (a + b)))

def alternationLengths : List Hir → Option Nat × Option Nat
  | [] => (none, none)
  | [h] => lengths h
  | h :: rest =>
    let (lo1, hi1) := lengths h
    let (lo2, hi2) := alternationLengths rest
    ((do let a ← lo1; let b ← lo2; pure (Nat.min a b)), (do let a ← hi1; let b ← hi2; pure (Nat.max a b)))

end

def rep (min : Nat) (max : Option Nat) (greedy : Bool) (sub : Hir) : Hir :=
  let (min, max) :=
    if (lengths sub).2 == some 0 then (Nat.min min 1, some ((max.getD 1).min 1)) else (min, max)
  if min == 0 && max == some 0 then .empty
  else if min == 1 && max == some 1 then sub
  else .repetition min max greedy sub

end Hir

/-- The flags in force while translating. -/
structure Flags where
  caseInsensitive : Bool := false
  multiLine : Bool := false
  dotMatchesNewLine : Bool := false
  swapGreed : Bool := false
  unicode : Bool := true
  crlf : Bool := false
  deriving Inhabited

/-- The flags after a flag group: flags before a `-` are set, those after it cleared. -/
def Flags.apply (items : List FlagItem) (f : Flags) : Flags :=
  (items.foldl (fun (acc : Flags × Bool) item =>
      let (f, on) := acc
      match item with
      | .negation => (f, false)
      | .flag .caseInsensitive => ({ f with caseInsensitive := on }, on)
      | .flag .multiLine => ({ f with multiLine := on }, on)
      | .flag .dotMatchesNewLine => ({ f with dotMatchesNewLine := on }, on)
      | .flag .swapGreed => ({ f with swapGreed := on }, on)
      | .flag .unicode => ({ f with unicode := on }, on)
      | .flag .crlf => ({ f with crlf := on }, on)
      | .flag .ignoreWhitespace => (f, on))
    (f, true)).1

/-- A lowering step: an expression, or the error that refuses the pattern. -/
abbrev TranslateM := Except SyntaxError

def refuse (kind : ErrorKind) (span : Span) : TranslateM α := throw { kind, span }

def asciiSet : AsciiKind → CharSet
  | .alnum => CharSet.ofRanges [(0x30, 0x39), (0x41, 0x5A), (0x61, 0x7A)]
  | .alpha => CharSet.ofRanges [(0x41, 0x5A), (0x61, 0x7A)]
  | .ascii => CharSet.range 0 0x7F
  | .blank => CharSet.ofRanges [(0x09, 0x09), (0x20, 0x20)]
  | .cntrl => CharSet.ofRanges [(0, 0x1F), (0x7F, 0x7F)]
  | .digit => CharSet.range 0x30 0x39
  | .graph => CharSet.range 0x21 0x7E
  | .lower => CharSet.range 0x61 0x7A
  | .print => CharSet.range 0x20 0x7E
  | .punct => CharSet.ofRanges [(0x21, 0x2F), (0x3A, 0x40), (0x5B, 0x60), (0x7B, 0x7E)]
  | .space => CharSet.ofRanges [(0x09, 0x0D), (0x20, 0x20)]
  | .upper => CharSet.range 0x41 0x5A
  | .word => CharSet.ofRanges [(0x30, 0x39), (0x41, 0x5A), (0x5F, 0x5F), (0x61, 0x7A)]
  | .xdigit => CharSet.ofRanges [(0x30, 0x39), (0x41, 0x46), (0x61, 0x66)]

def perlSet (unicode : Bool) : PerlKind → CharSet
  | .digit => if unicode then digitSet else asciiSet .digit
  | .space => if unicode then spaceSet else asciiSet .space
  | .word => if unicode then wordSet else asciiSet .word

def foldUnder (f : Flags) (s : CharSet) : CharSet :=
  if !f.caseInsensitive then s
  else if f.unicode then s.foldSimple else s.foldAscii

def negateUnder (f : Flags) (s : CharSet) : CharSet :=
  if f.unicode then s.negate else s.negate.inter (CharSet.range 0 0xFF)

def checkAscii (f : Flags) (span : Span) (s : CharSet) : TranslateM CharSet :=
  if !f.unicode && !s.allBelow 0x80 then refuse .invalidUtf8 span else pure s

def unicodeSet (f : Flags) (span : Span) (negated : Bool) (q : UnicodeQuery) : TranslateM CharSet := do
  if !f.unicode then refuse .unicodeNotAllowed span
  let found := match q with
    | .oneLetter c => bareSet (String.singleton c)
    | .named name => bareSet name
    | .namedValue name value => valueSet name value
  match found with
  | .ok s =>
    let s := foldUnder f s
    return if negated then s.negate else s
  | .error .propertyNotFound => refuse .unicodePropertyNotFound span
  | .error .valueNotFound => refuse .unicodePropertyValueNotFound span

def classChar (f : Flags) (l : Literal) : TranslateM Nat :=
  if f.unicode then pure l.c.toNat
  else if l.c.toNat ≤ 0x7F then pure l.c.toNat
  else if l.byte then refuse .invalidUtf8 l.span
  else refuse .unicodeNotAllowed l.span

def classSet (f : Flags) : ClassSet → TranslateM CharSet
  | .literal l => do
    let c ← classChar f l
    return CharSet.range c c
  | .range lo hi => do
    let a ← classChar f lo
    let b ← classChar f hi
    return CharSet.range a b
  | .ascii span kind negated => do
    let s := foldUnder f (asciiSet kind)
    checkAscii f span (if negated then negateUnder f s else s)
  | .unicode span negated q => unicodeSet f span negated q
  | .perl span kind negated => do
    let s := perlSet f.unicode kind
    checkAscii f span (if negated then negateUnder f s else s)
  | .bracketed span negated set => do
    let s := foldUnder f (← classSet f set)
    checkAscii f span (if negated then negateUnder f s else s)
  | .union _ items => items.attach.foldlM (fun acc ⟨item, _⟩ => do
      return acc.union (← classSet f item)) CharSet.empty
  | .op _ kind lhs rhs => do
    let l := foldUnder f (← classSet f lhs)
    let r := foldUnder f (← classSet f rhs)
    return match kind with
      | .intersection => l.inter r
      | .difference => l.diff r
      | .symmetricDifference => l.symDiff r

def literalHir (f : Flags) (l : Literal) : TranslateM Hir := do
  if !f.unicode && l.byte && 0x7F < l.c.toNat then refuse .invalidUtf8 l.span
  let s := CharSet.single l.c
  if !f.caseInsensitive then return .cls s
  else if f.unicode then return .cls s.foldSimple
  else return .cls s.foldAscii

def dotHir (f : Flags) (span : Span) : TranslateM Hir := do
  if !f.unicode then refuse .invalidUtf8 span
  if f.dotMatchesNewLine then return .cls CharSet.full
  else if f.crlf then return .cls (CharSet.ofRanges [(0x0A, 0x0A), (0x0D, 0x0D)]).negate
  else return .cls (CharSet.single '\n').negate

def assertionHir (f : Flags) (span : Span) : AssertionKind → TranslateM Hir
  | .startLine => return .look (if !f.multiLine then .start else if f.crlf then .startCRLF else .startLF)
  | .endLine => return .look (if !f.multiLine then .stop else if f.crlf then .endCRLF else .endLF)
  | .startText => return .look .start
  | .endText => return .look .stop
  | .wordBoundary => return .look (.word f.unicode)
  | .notWordBoundary =>
    if f.unicode then return .look (.notWord true) else refuse .invalidUtf8 span
  | .wordStart => return .look (.wordStart f.unicode)
  | .wordEnd => return .look (.wordEnd f.unicode)
  | .wordStartHalf => return .look (.wordStartHalf f.unicode)
  | .wordEndHalf => return .look (.wordEndHalf f.unicode)

mutual

def translate (f : Flags) : Ast → TranslateM (Hir × Flags)
  | .empty _ => return (.empty, f)
  | .flags _ items => return (.empty, f.apply items)
  | .literal l => return (← literalHir f l, f)
  | .dot span => return (← dotHir f span, f)
  | .assertion span kind => return (← assertionHir f span kind, f)
  | .unicode span negated q => return (.cls (← unicodeSet f span negated q), f)
  | .perl span kind negated => do
    let s := perlSet f.unicode kind
    return (.cls (← checkAscii f span (if negated then negateUnder f s else s)), f)
  | .bracketed span negated set => do
    let s := foldUnder f (← classSet f set)
    return (.cls (← checkAscii f span (if negated then negateUnder f s else s)), f)
  | .repetition _ min max greedy sub => do
    let (h, f') ← translate f sub
    return (Hir.rep min max (greedy != f'.swapGreed) h, f')
  | .group _ (.capture index _) sub => do
    let (h, _) ← translate f sub
    return (.capture index h, f)
  | .group _ (.nonCapturing items) sub => do
    let (h, _) ← translate (f.apply items) sub
    return (h, f)
  | .alternation _ branches => do
    let (hs, f') ← translateSeq f branches
    return (.alternation hs, f')
  | .concat _ items => do
    let (hs, f') ← translateSeq f items
    return (.concat hs, f')

def translateSeq (f : Flags) : List Ast → TranslateM (List Hir × Flags)
  | [] => return ([], f)
  | a :: rest => do
    let (h, f') ← translate f a
    let (hs, f'') ← translateSeq f' rest
    return (h :: hs, f'')

end

end InputMethod.Pattern

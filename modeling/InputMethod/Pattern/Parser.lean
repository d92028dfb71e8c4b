import InputMethod.Pattern.Ast
import InputMethod.Pattern.Nesting
import InputMethod.Unicode.Property
import InputMethod.Text.Lines

/-! # Parsing patterns

The parser reads a pattern one character at a time and keeps two stacks: the groups and
alternations that are open, and inside a bracketed class the brackets and set operations
that are open. Errors point at the stretch of the pattern they are about.

Every loop reads at least one character per round or stops, so a bound of one more round
than the pattern has characters is never reached.

Points of the syntax worth knowing:

* `(?flags)` and `(?flags:…)` set `i`, `m`, `s`, `U`, `u`, `R` and `x`; `x` makes the parser skip
  white space and `#` comments from there to the end of the enclosing group;
* `{` always starts a counted repetition, and white space is allowed around its numbers;
* `\1` and other escaped digits are backreferences, which are refused;
* in a bracketed class a leading `]` or `-` is a literal, `[:name:]` is an ASCII class, and
  `&&`, `--` and `~~` are intersection, difference and symmetric difference, grouping to the
  left.
-/

namespace InputMethod.Pattern

open InputMethod.Unicode

/-- What the parser keeps as it reads. -/
structure ParserState where
  chars : Array Char
  pos : Nat := 0
  ignoreWhitespace : Bool := false
  captureIndex : Nat := 0
  captureNames : List (String × Span × Nat) := []

/-- A parsing step. -/
abbrev ParseM := StateT ParserState (Except SyntaxError)

/-- The items of a sequence read so far (newest first), and where the sequence started. -/
structure Sequence where
  start : Nat
  items : List Ast := []

/-- A group or alternation left open, with what came before it. -/
inductive GroupState where
  /-- An open group: the sequence before it, how it captures, where it opened, and whether
      white space was skipped outside it. -/
  | group (before : Sequence) (kind : GroupKind) (openSpan : Span) (ignoreWhitespace : Bool)
  | alternation (start : Nat) (branches : List Ast)

/-- The items of a class read so far (newest first), and the stretch they cover: from the
    first item to the last, or an empty stretch where the items would start. -/
structure ClassUnion where
  span : Span
  items : List ClassSet := []

/-- The union with one more item. -/
def ClassUnion.push (u : ClassUnion) (item : ClassSet) : ClassUnion :=
  { span := ⟨if u.items.isEmpty then item.span.start else u.span.start, item.span.stop⟩,
    items := item :: u.items }

def ClassUnion.toItem (u : ClassUnion) : ClassSet :=
  match u.items with
  | [x] => x
  | items => .union u.span items.reverse

/-- A bracket or set operation left open inside a bracketed class. -/
inductive ClassState where
  | opened (outer : ClassUnion) (negated : Bool) (openSpan : Span)
  | op (kind : ClassOp) (lhs : ClassSet)

/-- What an escape or a plain character stands for. -/
inductive Primitive where
  | literal (l : Literal)
  | assertion (span : Span) (kind : AssertionKind)
  | dot (span : Span)
  | perl (span : Span) (kind : PerlKind) (negated : Bool)
  | unicode (span : Span) (negated : Bool) (query : UnicodeQuery)

namespace Primitive

/-- The stretch a primitive was read from. -/
def span : Primitive → Span
  | .literal l => l.span
  | .assertion s _ => s
  | .dot s => s
  | .perl s _ _ => s
  | .unicode s _ _ => s

def toAst : Primitive → Ast
  | .literal l => .literal l
  | .assertion s k => .assertion s k
  | .dot s => .dot s
  | .perl s k n => .perl s k n
  | .unicode s n q => .unicode s n q

end Primitive

/-- Refuse the pattern. -/
def failAt (kind : ErrorKind) (span : Span) : ParseM α := throw { kind, span }

def failWith (kind : ErrorKind) (span aux : Span) : ParseM α := throw { kind, span, aux := some aux }

/-- The current position. -/
def position : ParseM Nat := return (← get).pos

/-- A bound on the rounds of any loop. -/
def fuel : ParseM Nat := return (← get).chars.size + 1

def isEof : ParseM Bool := do
  let s ← get
  return s.chars.size ≤ s.pos

/-- The current character (a NUL past the end). -/
def current : ParseM Char := do
  let s ← get
  return s.chars.getD s.pos '\x00'

def peekNext : ParseM (Option Char) := do
  let s ← get
  return s.chars[s.pos + 1]?

def spanChar : ParseM Span := do
  let p ← position
  return ⟨p, p + 1⟩

def spanHere : ParseM Span := return Span.at (← position)

/-- Step past the current character; answers whether a character follows. -/
def bump : ParseM Bool := do
  let s ← get
  if s.pos < s.chars.size then
    set { s with pos := s.pos + 1 }
    return s.pos + 1 < s.chars.size
  else return false

def bumpIf (pre : String) : ParseM Bool := do
  let s ← get
  let cs := pre.toList
  if (s.chars.toList.drop s.pos).take cs.length == cs then
    set { s with pos := s.pos + cs.length }
    return true
  else return false

def bumpSpace : ParseM Unit := do
  if !(← get).ignoreWhitespace then return
  let n ← fuel
  for _ in List.range n do
    if ← isEof then break
    let c ← current
    if Text.isWhite c then
      discard bump
    else if c == '#' then
      discard bump
      for _ in List.range n do
        if ← isEof then break
        let d ← current
        discard bump
        if d == '\n' then break
    else break

def bumpAndBumpSpace : ParseM Bool := do
  if !(← bump) then return false
  bumpSpace
  return !(← isEof)

def peekSpace : ParseM (Option Char) := do
  let s ← get
  if !s.ignoreWhitespace then return s.chars[s.pos + 1]?
  if s.chars.size ≤ s.pos then return none
  let rest := s.chars.toList.drop (s.pos + 1)
  let found := rest.foldl (fun (acc : Option Char × Bool) c =>
      match acc with
      | (some r, b) => (some r, b)
      | (none, inComment) =>
        if Text.isWhite c then (none, inComment)
        else if !inComment && c == '#' then (none, true)
        else (some c, inComment))
    (none, false)
  return match found.1 with
    | some c => some c
    | none => rest.head?

/-! ## Escapes -/

def isMetaCharacter (c : Char) : Bool :=
  "\\.+*?()|[]{}^$#&-~".toList.contains c

def isEscapeable (c : Char) : Bool :=
  isMetaCharacter c ||
    (c.toNat ≤ 0x7F && !c.isAlphanum && c != '<' && c != '>')

def isHex (c : Char) : Bool := c.isDigit || ('a' ≤ c && c ≤ 'f') || ('A' ≤ c && c ≤ 'F')

def scalar? (n : Nat) : Option Char :=
  if n < 0xD800 ∨ (0xDFFF < n ∧ n < 0x110000) then some (Char.ofNat n) else none

def parseHexDigits (digits : Nat) (isByte : Bool) : ParseM Literal := do
  let start ← position
  let mut hex : List Char := []
  for i in List.range digits do
    if 0 < i then
      if !(← bumpAndBumpSpace) then failAt .escapeUnexpectedEof (← spanHere)
    let c ← current
    if !isHex c then failAt .escapeHexInvalidDigit (← spanChar)
    hex := hex ++ [c]
  discard bumpAndBumpSpace
  let stop ← position
  match scalar? (hexValue (String.ofList hex)) with
  | none => failAt .escapeHexInvalid ⟨start, stop⟩
  | some c => return { span := ⟨start, stop⟩, c, byte := isByte }

def parseHexBrace : ParseM Literal := do
  let bracePos ← position
  let start := bracePos + 1
  let mut hex : List Char := []
  for _ in List.range (← fuel) do
    if !(← bumpAndBumpSpace) then break
    let c ← current
    if c == '}' then break
    if !isHex c then failAt .escapeHexInvalidDigit (← spanChar)
    hex := hex ++ [c]
  if ← isEof then failAt .escapeUnexpectedEof ⟨bracePos, ← position⟩
  let stop ← position
  discard bumpAndBumpSpace
  if hex.isEmpty then failAt .escapeHexEmpty ⟨bracePos, ← position⟩
  match scalar? (hexValue (String.ofList hex)) with
  | none => failAt .escapeHexInvalid ⟨start, stop⟩
  | some c => return { span := ⟨start, ← position⟩, c }

def parseHex : ParseM Literal := do
  let kind ← current
  let digits := if kind == 'x' then 2 else if kind == 'u' then 4 else 8
  if !(← bumpAndBumpSpace) then failAt .escapeUnexpectedEof (← spanHere)
  if (← current) == '{' then parseHexBrace
  else parseHexDigits digits (kind == 'x')

def findSub (s sub : List Char) : Option Nat :=
  (List.range (s.length + 1)).find? fun i => (s.drop i).take sub.length == sub

def parseUnicodeClass : ParseM (Nat × Bool × UnicodeQuery) := do
  let negated := (← current) == 'P'
  if !(← bumpAndBumpSpace) then failAt .escapeUnexpectedEof (← spanHere)
  if (← current) == '{' then
    let mut name : List Char := []
    for _ in List.range (← fuel) do
      if !(← bumpAndBumpSpace) then break
      let c ← current
      if c == '}' then break
      name := name ++ [c]
    if ← isEof then failAt .escapeUnexpectedEof (← spanHere)
    discard bump
    let stop ← position
    match findSub name ['!', '='] with
    | some i =>
      return (stop, !negated,
        .namedValue (String.ofList (name.take i)) (String.ofList (name.drop (i + 2))))
    | none =>
      -- a colon anywhere separates before an equals sign does
      match name.findIdx? (· == ':') <|> name.findIdx? (· == '=') with
      | some i =>
        return (stop, negated,
          .namedValue (String.ofList (name.take i)) (String.ofList (name.drop (i + 1))))
      | none => return (stop, negated, .named (String.ofList name))
  else
    let c ← current
    if c == '\\' then failAt .unicodeClassInvalid (← spanChar)
    discard bumpAndBumpSpace
    return (← position, negated, .oneLetter c)

def maybeParseSpecialWordBoundary (wbStart : Nat) : ParseM (Option AssertionKind) := do
  let isValid (c : Char) : Bool := ('A' ≤ c && c ≤ 'Z') || ('a' ≤ c && c ≤ 'z') || c == '-'
  let start ← position
  if !(← bumpAndBumpSpace) then
    failAt .specialWordOrRepetitionUnexpectedEof ⟨wbStart, ← position⟩
  let startContents ← position
  if !isValid (← current) then
    modify fun s => { s with pos := start }
    return none
  let mut name : List Char := []
  for _ in List.range (← fuel) do
    if ← isEof then break
    let c ← current
    if !isValid c then break
    name := name ++ [c]
    discard bumpAndBumpSpace
  if (← isEof) || (← current) != '}' then
    failAt .specialWordBoundaryUnclosed ⟨start, ← position⟩
  let stop ← position
  discard bump
  match String.ofList name with
  | "start" => return some .wordStart
  | "end" => return some .wordEnd
  | "start-half" => return some .wordStartHalf
  | "end-half" => return some .wordEndHalf
  | _ => failAt .specialWordBoundaryUnrecognized ⟨startContents, stop⟩

def parseEscape : ParseM Primitive := do
  let start ← position
  if !(← bump) then failAt .escapeUnexpectedEof ⟨start, ← position⟩
  let c ← current
  if c.isDigit then failAt .unsupportedBackreference ⟨start, (← position) + 1⟩
  if c == 'x' || c == 'u' || c == 'U' then
    let lit ← parseHex
    return .literal { lit with span := ⟨start, lit.span.stop⟩ }
  if c == 'p' || c == 'P' then
    let (stop, negated, query) ← parseUnicodeClass
    return .unicode ⟨start, stop⟩ negated query
  if "dswDSW".toList.contains c then
    discard bump
    let kind := if c == 'd' || c == 'D' then PerlKind.digit
      else if c == 's' || c == 'S' then PerlKind.space else PerlKind.word
    return .perl ⟨start, ← position⟩ kind c.isUpper
  discard bump
  let span : Span := ⟨start, ← position⟩
  if isEscapeable c then return .literal { span, c }
  match c with
  | 'a' => return .literal { span, c := '\x07' }
  | 'f' => return .literal { span, c := '\x0C' }
  | 't' => return .literal { span, c := '\t' }
  | 'n' => return .literal { span, c := '\n' }
  | 'r' => return .literal { span, c := '\r' }
  | 'v' => return .literal { span, c := '\x0B' }
  | 'A' => return .assertion span .startText
  | 'z' => return .assertion span .endText
  | 'b' =>
    if !(← isEof) && (← current) == '{' then
      match ← maybeParseSpecialWordBoundary start with
      | some kind => return .assertion ⟨start, ← position⟩ kind
      | none => return .assertion span .wordBoundary
    else return .assertion span .wordBoundary
  | 'B' => return .assertion span .notWordBoundary
  | '<' => return .assertion span .wordStart
  | '>' => return .assertion span .wordEnd
  | _ => failAt .escapeUnrecognized span

def parsePrimitive : ParseM Primitive := do
  let c ← current
  if c == '\\' then parseEscape
  else
    let span ← spanChar
    discard bump
    match c with
    | '.' => return .dot span
    | '^' => return .assertion span .startLine
    | '$' => return .assertion span .endLine
    | _ => return .literal { span, c }

/-! ## Repetitions -/

def parseDecimal : ParseM Nat := do
  let n ← fuel
  for _ in List.range n do
    if (← isEof) then break
    if !Text.isWhite (← current) then break
    discard bump
  let start ← position
  let mut digits : List Char := []
  for _ in List.range n do
    if ← isEof then break
    let c ← current
    if !c.isDigit then break
    digits := digits ++ [c]
    discard bumpAndBumpSpace
  let span : Span := ⟨start, ← position⟩
  for _ in List.range n do
    if ← isEof then break
    if !Text.isWhite (← current) then break
    discard bumpAndBumpSpace
  if digits.isEmpty then failAt .decimalEmpty span
  let value := digits.foldl (fun v d => 10 * v + (d.toNat - '0'.toNat)) 0
  if 4294967295 < value then failAt .decimalInvalid span
  return value

def parseCount : ParseM Nat :=
  tryCatch parseDecimal fun e =>
    if e.kind == .decimalEmpty then throw { e with kind := .repetitionCountDecimalEmpty }
    else throw e

def isRepeatable : Ast → Bool
  | .empty _ | .flags .. => false
  | _ => true

def parseUncountedRepetition (items : List Ast) (min : Nat) (max : Option Nat) :
    ParseM (List Ast) := do
  match items with
  | ast :: rest =>
    if !isRepeatable ast then failAt .repetitionMissing (← spanHere)
    let mut greedy := true
    if ← bump then
      if (← current) == '?' then
        greedy := false
        discard bump
    return .repetition ⟨ast.span.start, ← position⟩ min max greedy ast :: rest
  | [] => failAt .repetitionMissing (← spanHere)

def parseCountedRepetition (items : List Ast) : ParseM (List Ast) := do
  let start ← position
  match items with
  | [] => failAt .repetitionMissing (← spanHere)
  | ast :: rest =>
    if !isRepeatable ast then failAt .repetitionMissing (← spanHere)
    if !(← bumpAndBumpSpace) then failAt .repetitionCountUnclosed ⟨start, ← position⟩
    let lo ← parseCount
    let mut hi : Option Nat := some lo
    if ← isEof then failAt .repetitionCountUnclosed ⟨start, ← position⟩
    if (← current) == ',' then
      if !(← bumpAndBumpSpace) then failAt .repetitionCountUnclosed ⟨start, ← position⟩
      if (← current) != '}' then
        hi := some (← parseCount)
      else hi := none
    if (← isEof) || (← current) != '}' then
      failAt .repetitionCountUnclosed ⟨start, ← position⟩
    let mut greedy := true
    if ← bumpAndBumpSpace then
      if (← current) == '?' then
        greedy := false
        discard bump
    let opSpan : Span := ⟨start, ← position⟩
    if let some h := hi then
      if h < lo then failAt .repetitionCountInvalid opSpan
    return .repetition ⟨ast.span.start, opSpan.stop⟩ lo hi greedy ast :: rest

/-! ## Groups -/

def isCaptureChar (c : Char) (first : Bool) : Bool :=
  let alphabetic := Ranges.contains alphabeticArray c.toNat
  if first then c == '_' || alphabetic
  else c == '_' || c == '.' || c == '[' || c == ']' || alphabetic ||
    Ranges.contains numericArray c.toNat
where
  alphabeticArray : Array (Nat × Nat) := ((tableSet booleanTable "Alphabetic").getD CharSet.empty).toArray
  numericArray : Array (Nat × Nat) := (categoriesSet ["Nd", "Nl", "No"]).toArray

def nextCaptureIndex (span : Span) : ParseM Nat := do
  let s ← get
  if 4294967295 ≤ s.captureIndex then failAt .captureLimitExceeded span
  set { s with captureIndex := s.captureIndex + 1 }
  return s.captureIndex + 1

def parseCaptureName (index : Nat) : ParseM String := do
  if ← isEof then failAt .groupNameUnexpectedEof (← spanHere)
  let start ← position
  for _ in List.range (← fuel) do
    let c ← current
    if c == '>' then break
    if !isCaptureChar c ((← position) == start) then failAt .groupNameInvalid (← spanChar)
    if !(← bump) then break
  let stop ← position
  if ← isEof then failAt .groupNameUnexpectedEof (← spanHere)
  discard bump
  let s ← get
  let name := String.ofList ((s.chars.toList.drop start).take (stop - start))
  if name.isEmpty then failAt .groupNameEmpty ⟨start, start⟩
  let span : Span := ⟨start, stop⟩
  match s.captureNames.find? (·.1 == name) with
  | some (_, earlier, _) => failWith .groupNameDuplicate span earlier
  | none =>
    set { s with captureNames := s.captureNames ++ [(name, span, index)] }
    return name

def parseFlag : ParseM Flag := do
  match ← current with
  | 'i' => return .caseInsensitive
  | 'm' => return .multiLine
  | 's' => return .dotMatchesNewLine
  | 'U' => return .swapGreed
  | 'u' => return .unicode
  | 'R' => return .crlf
  | 'x' => return .ignoreWhitespace
  | _ => failAt .flagUnrecognized (← spanChar)

def parseFlags : ParseM (List FlagItem) := do
  let mut items : List (FlagItem × Span) := []
  let mut lastNegation : Option Span := none
  for _ in List.range (← fuel) do
    let c ← current
    if c == ':' || c == ')' then break
    let here ← spanChar
    if c == '-' then
      lastNegation := some here
      match items.find? (·.1 == .negation) with
      | some (_, earlier) => failWith .flagRepeatedNegation here earlier
      | none => items := items ++ [(.negation, here)]
    else
      lastNegation := none
      let f ← parseFlag
      match items.find? (·.1 == .flag f) with
      | some (_, earlier) => failWith .flagDuplicate here earlier
      | none => items := items ++ [(.flag f, here)]
    if !(← bump) then failAt .flagUnexpectedEof (← spanHere)
  if let some span := lastNegation then failAt .flagDanglingNegation span
  return items.map (·.1)

def parseGroup : ParseM (Sum (List FlagItem × Span) (GroupKind × Span)) := do
  let openSpan ← spanChar
  discard bump
  bumpSpace
  if (← bumpIf "?=") || (← bumpIf "?!") || (← bumpIf "?<=") || (← bumpIf "?<!") then
    failAt .unsupportedLookAround ⟨openSpan.start, ← position⟩
  let innerSpan ← spanHere
  if (← bumpIf "?P<") || (← bumpIf "?<") then
    let index ← nextCaptureIndex openSpan
    let name ← parseCaptureName index
    return .inr (.capture index (some name), openSpan)
  else if ← bumpIf "?" then
    if ← isEof then failAt .groupUnclosed openSpan
    let flags ← parseFlags
    let close ← current
    discard bump
    if close == ')' then
      if flags.isEmpty then failAt .repetitionMissing innerSpan
      return .inl (flags, ⟨openSpan.start, ← position⟩)
    else return .inr (.nonCapturing flags, openSpan)
  else
    let index ← nextCaptureIndex openSpan
    return .inr (.capture index none, openSpan)

def Sequence.toAst (q : Sequence) (stop : Nat) : Ast :=
  match q.items with
  | [] => .empty ⟨q.start, stop⟩
  | [a] => a
  | items => .concat ⟨q.start, stop⟩ items.reverse

def alternationAst (span : Span) (branches : List Ast) : Ast :=
  match branches with
  | [a] => a
  | _ => .alternation span branches.reverse

def ignoreWhitespaceSetting (flags : List FlagItem) : Option Bool :=
  (flags.foldl (fun (acc : Bool × Option Bool) item =>
      match item with
      | .negation => (false, acc.2)
      | .flag .ignoreWhitespace => (acc.1, some acc.1)
      | .flag _ => acc)
    (true, none)).2

def pushGroup (seq : Sequence) (stack : List GroupState) : ParseM (Sequence × List GroupState) := do
  match ← parseGroup with
  | .inl (flags, span) =>
    if let some v := ignoreWhitespaceSetting flags then
      modify fun s => { s with ignoreWhitespace := v }
    return ({ seq with items := .flags span flags :: seq.items }, stack)
  | .inr (kind, openSpan) =>
    let old := (← get).ignoreWhitespace
    let new := match kind with
      | .nonCapturing flags => (ignoreWhitespaceSetting flags).getD old
      | .capture .. => old
    modify fun s => { s with ignoreWhitespace := new }
    return ({ start := ← position }, .group seq kind openSpan old :: stack)

def popGroup (seq : Sequence) (stack : List GroupState) : ParseM (Sequence × List GroupState) := do
  let (before, kind, openSpan, ignore, branches, rest) ← match stack with
    | .group before kind openSpan ignore :: rest => pure (before, kind, openSpan, ignore, none, rest)
    | .alternation start branches :: .group before kind openSpan ignore :: rest =>
      pure (before, kind, openSpan, ignore, some (start, branches), rest)
    | _ => failAt .groupUnopened (← spanChar)
  modify fun s => { s with ignoreWhitespace := ignore }
  let stop ← position
  discard bump
  let body := match branches with
    | some (start, bs) => alternationAst ⟨start, stop⟩ (seq.toAst stop :: bs)
    | none => seq.toAst stop
  let group := Ast.group ⟨openSpan.start, ← position⟩ kind body
  return ({ before with items := group :: before.items }, rest)

def pushAlternate (seq : Sequence) (stack : List GroupState) : ParseM (Sequence × List GroupState) := do
  let branch := seq.toAst (← position)
  discard bump
  let stack := match stack with
    | .alternation start branches :: rest => .alternation start (branch :: branches) :: rest
    | _ => .alternation seq.start [branch] :: stack
  return ({ start := ← position }, stack)

def popGroupEnd (seq : Sequence) (stack : List GroupState) : ParseM Ast := do
  let stop ← position
  match stack with
  | [] => return seq.toAst stop
  | [.alternation start branches] => return alternationAst ⟨start, stop⟩ (seq.toAst stop :: branches)
  | .alternation _ _ :: .group _ _ openSpan _ :: _ => failAt .groupUnclosed openSpan
  | .group _ _ openSpan _ :: _ => failAt .groupUnclosed openSpan
  | .alternation _ _ :: _ => return seq.toAst stop

/-! ## Bracketed classes -/

def unclosedClass (stack : List ClassState) : SyntaxError :=
  match stack.findSome? (fun st => match st with | .opened _ _ sp => some sp | .op .. => none) with
  | some sp => { kind := .classUnclosed, span := sp }
  | none => { kind := .classUnclosed, span := Span.at 0 }

def popClassOp (stack : List ClassState) (rhs : ClassSet) : ClassSet × List ClassState :=
  match stack with
  | .op kind lhs :: rest => (.op ⟨lhs.span.start, rhs.span.stop⟩ kind lhs rhs, rest)
  | _ => (rhs, stack)

def maybeParseAsciiClass : ParseM (Option ClassSet) := do
  let start ← position
  let reset : ParseM (Option ClassSet) := do
    modify fun s => { s with pos := start }
    return none
  if !(← bump) then return ← reset
  if (← current) != ':' then return ← reset
  if !(← bump) then return ← reset
  let mut negated := false
  if (← current) == '^' then
    negated := true
    if !(← bump) then return ← reset
  let nameStart ← position
  for _ in List.range (← fuel) do
    if (← current) == ':' then break
    if !(← bump) then break
  if ← isEof then return ← reset
  let s ← get
  let name := String.ofList ((s.chars.toList.drop nameStart).take (s.pos - nameStart))
  if !(← bumpIf ":]") then return ← reset
  match AsciiKind.ofName? name with
  | some kind => return some (.ascii ⟨start, ← position⟩ kind negated)
  | none => reset

def parseSetClassOpen : ParseM (Bool × Span × ClassUnion) := do
  let start ← position
  if !(← bumpAndBumpSpace) then failAt .classUnclosed ⟨start, ← position⟩
  let mut negated := false
  if (← current) == '^' then
    if !(← bumpAndBumpSpace) then failAt .classUnclosed ⟨start, ← position⟩
    negated := true
  let mut union : ClassUnion := { span := Span.at (← position) }
  for _ in List.range (← fuel) do
    if (← current) != '-' then break
    union := union.push (.literal { span := ← spanChar, c := '-' })
    if !(← bumpAndBumpSpace) then failAt .classUnclosed ⟨start, start⟩
  if union.items.isEmpty && (← current) == ']' then
    union := union.push (.literal { span := ← spanChar, c := ']' })
    if !(← bumpAndBumpSpace) then failAt .classUnclosed ⟨start, ← position⟩
  return (negated, ⟨start, ← position⟩, union)

def parseSetClassItem : ParseM Primitive := do
  if (← current) == '\\' then parseEscape
  else
    let span ← spanChar
    let c ← current
    discard bump
    return .literal { span, c }

def classItem : Primitive → ParseM ClassSet
  | .literal l => return .literal l
  | .perl s k n => return .perl s k n
  | .unicode s n q => return .unicode s n q
  | p => failAt .classEscapeInvalid p.span

def classLiteral : Primitive → ParseM Literal
  | .literal l => return l
  | p => failAt .classRangeLiteral p.span

def parseSetClassRange (stack : List ClassState) : ParseM ClassSet := do
  let prim1 ← parseSetClassItem
  bumpSpace
  if ← isEof then throw (unclosedClass stack)
  let next ← peekSpace
  if (← current) != '-' || next == some ']' || next == some '-' then
    return ← classItem prim1
  if !(← bumpAndBumpSpace) then throw (unclosedClass stack)
  let prim2 ← parseSetClassItem
  let span : Span := ⟨prim1.span.start, prim2.span.stop⟩
  let lo ← classLiteral prim1
  let hi ← classLiteral prim2
  if hi.c < lo.c then failAt .classRangeInvalid span
  return .range lo hi

def parseSetClass : ParseM Ast := do
  let mut union : ClassUnion := { span := Span.at (← position) }
  let mut stack : List ClassState := []
  for _ in List.range (← fuel) do
    bumpSpace
    if ← isEof then throw (unclosedClass stack)
    let c ← current
    let next ← peekNext
    if c == '[' then
      if !stack.isEmpty then
        if let some cls ← maybeParseAsciiClass then
          union := union.push cls
          continue
      let (negated, openSpan, nested) ← parseSetClassOpen
      stack := .opened union negated openSpan :: stack
      union := nested
    else if c == ']' then
      let (set, rest) := popClassOp stack union.toItem
      match rest with
      | .opened outer negated openSpan :: rest' =>
        discard bump
        let span : Span := ⟨openSpan.start, ← position⟩
        if rest'.isEmpty then return .bracketed span negated set
        union := outer.push (.bracketed span negated set)
        stack := rest'
      | _ => throw (unclosedClass stack)
    else if (c == '&' || c == '-' || c == '~') && next == some c then
      discard (bumpIf (String.ofList [c, c]))
      let kind := if c == '&' then ClassOp.intersection
        else if c == '-' then ClassOp.difference else ClassOp.symmetricDifference
      let (lhs, rest) := popClassOp stack union.toItem
      stack := .op kind lhs :: rest
      union := { span := Span.at (← position) }
    else
      union := union.push (← parseSetClassRange stack)
  throw (unclosedClass stack)

/-! ## Patterns -/

def parseAll : ParseM Ast := do
  let mut seq : Sequence := { start := 0 }
  let mut stack : List GroupState := []
  for _ in List.range (← fuel) do
    bumpSpace
    if ← isEof then break
    match ← current with
    | '(' => (seq, stack) ← pushGroup seq stack
    | ')' => (seq, stack) ← popGroup seq stack
    | '|' => (seq, stack) ← pushAlternate seq stack
    | '[' => seq := { seq with items := (← parseSetClass) :: seq.items }
    | '?' => seq := { seq with items := ← parseUncountedRepetition seq.items 0 (some 1) }
    | '*' => seq := { seq with items := ← parseUncountedRepetition seq.items 0 none }
    | '+' => seq := { seq with items := ← parseUncountedRepetition seq.items 1 none }
    | '{' => seq := { seq with items := ← parseCountedRepetition seq.items }
    | _ => seq := { seq with items := (← parsePrimitive).toAst :: seq.items }
  popGroupEnd seq stack

/-- A parsed pattern and the names of its groups, each with its number. -/
structure Parsed where
  ast : Ast
  groupCount : Nat
  groupNames : List (String × Nat)

/-- Parse a pattern; one that nests too deeply is refused once it is read. -/
def parse (pattern : String) : Except SyntaxError Parsed := do
  let (ast, s) ← parseAll.run { chars := pattern.toList.toArray }
  checkNesting ast
  return { ast, groupCount := s.captureIndex, groupNames := s.captureNames.map fun n => (n.1, n.2.2) }

end InputMethod.Pattern

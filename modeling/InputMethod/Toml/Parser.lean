import InputMethod.Toml.Scan
import InputMethod.Toml.Document
import InputMethod.Decimal.Text

/-! # Reading TOML

The grammar of TOML 1.0 as reading steps (`Scan`), and `Toml.parse`, which reads a whole
document into a table or refuses it with an `Error`.

Where the text commits to a construct the reading is cut, so that the error names it: after the
`=` of a key-value pair, after an opening quote or bracket, after the first digit past a `_`.
A value is recognised by its first character; a character that starts no value is reported as a
string that lacks its quotes. Arrays and inline tables nest at most 79 deep.
-/

namespace InputMethod.Toml

open Scan

/-! ## Classes of bytes -/

def isBlank (b : UInt8) : Bool := b == 0x20 || b == 0x09

/-- An ASCII digit. -/
def isDigit (b : UInt8) : Bool := 0x30 ≤ b && b ≤ 0x39

def isHexDigit (b : UInt8) : Bool :=
  isDigit b || (0x41 ≤ b && b ≤ 0x46) || (0x61 ≤ b && b ≤ 0x66)

def isNonAscii (b : UInt8) : Bool := 0x80 ≤ b

def isCommentByte (b : UInt8) : Bool := b == 0x09 || (0x20 ≤ b && b ≤ 0x7E) || isNonAscii b

def isBareKeyByte (b : UInt8) : Bool :=
  (0x41 ≤ b && b ≤ 0x5A) || (0x61 ≤ b && b ≤ 0x7A) || isDigit b || b == 0x2D || b == 0x5F

def isBasicByte (b : UInt8) : Bool :=
  isBlank b || b == 0x21 || (0x23 ≤ b && b ≤ 0x5B) || (0x5D ≤ b && b ≤ 0x7E) || isNonAscii b

def isLiteralByte (b : UInt8) : Bool :=
  b == 0x09 || (0x20 ≤ b && b ≤ 0x26) || (0x28 ≤ b && b ≤ 0x7E) || isNonAscii b

def isChar (c : Char) (b : UInt8) : Bool := b.toNat == c.toNat

/-- The value of digits in a base. -/
def digitsValue (base : Nat) (ds : List UInt8) : Nat :=
  ds.foldl (fun n b =>
    let d := if isDigit b then b.toNat - 0x30
      else if 0x61 ≤ b then b.toNat - 0x61 + 10 else b.toNat - 0x41 + 10
    base * n + d) 0

/-! ## Blanks, comments and line ends -/

/-- Spaces and tabs. -/
def blanks : Scan Unit := skipWhile isBlank

/-- A comment to the end of its line. -/
def comment : Scan Unit := do
  char '#'
  skipWhile isCommentByte

def newline : Scan Unit := orElse (char '\n') (do char '\r'; char '\n')

def endOfText : Scan Unit := do if ← atEnd then pure () else fail

def lineEnding : Scan Unit := orElse newline endOfText

def lineTrailing : Scan Unit := do
  blanks
  let _ ← opt comment
  lineEnding

def blankLines : Scan Unit := do
  let _ ← many (orElse (do let _ ← takeWhile 1 (← remaining) isBlank) (orElse newline comment))

/-! ## Strings -/

def hexEscape (n : Nat) : Scan Char := do
  let start ← offset
  let (a, b) ← takeWhile 0 n isHexDigit
  if b - a != n then throw (.backtrack { offset := start })
  let v := digitsValue 16 ((← read).extract a b).toList
  if v < 0xD800 || (0xE000 ≤ v && v ≤ 0x10FFFF) then pure (Char.ofNat v)
  else failAt start (DocumentError.outOfRange.message)

def escapeTokens : List Context :=
  ['b', 'f', 'n', 'r', 't', 'u', 'U', '\\', '"'].map Context.char

/-- A backslash escape. -/
def escaped : Scan Char := do
  char '\\'
  let c := Char.ofNat (← any).toNat
  match c with
  | 'b' => pure '\x08'
  | 'f' => pure '\x0c'
  | 'n' => pure '\n'
  | 'r' => pure '\r'
  | 't' => pure '\t'
  | '\\' => pure '\\'
  | '"' => pure '"'
  | 'u' => within (.label "unicode 4-digit hex code") (cut (hexEscape 4))
  | 'U' => within (.label "unicode 8-digit hex code") (cut (hexEscape 8))
  | _ => withinAll (.label "escape sequence" :: escapeTokens) (cut fail)

def basicRun : Scan String := do
  let (a, b) ← takeWhile 1 (← remaining) isBasicByte
  text a b

def basicString : Scan String := do
  char '"'
  let chunks ← many (orElse basicRun (do return (← escaped).toString))
  within (.label "basic string") (cut (char '"'))
  return String.join chunks

def quoteRun (q : String) (term : Scan Unit) : Scan String :=
  orElse (do literal (q ++ q); if ← lookahead term then pure (q ++ q) else fail)
    (do literal q; if ← lookahead term then pure q else fail)

def notChar (c : Char) : Scan Unit := do let _ ← byte (fun b => !isChar c b)

def lineContinuation : Scan Unit := do
  let one : Scan Unit := do
    char '\\'
    blanks
    newline
    let _ ← many (orElse newline (do let _ ← takeWhile 1 (← remaining) isBlank))
  one
  let _ ← many one

def multilineBasicPiece : Scan String :=
  orElse basicRun
    (orElse (do lineContinuation; pure "")
      (orElse (do return (← escaped).toString) (do newline; pure "\n")))

def multilineBasicQuotes : Nat → String → Scan String
  | 0, acc => pure acc
  | n + 1, acc => do
    match ← opt (quoteRun "\"" (notChar '"')) with
    | none => pure acc
    | some q =>
      match ← opt multilineBasicPiece with
      | none => pure acc
      | some piece =>
        let more ← many multilineBasicPiece
        multilineBasicQuotes n (acc ++ q ++ piece ++ String.join more)

def multilineBasicString : Scan String :=
  within (.label "multiline basic string") do
    literal "\"\"\""
    let _ ← opt newline
    let body ← cut (do
      let first ← many multilineBasicPiece
      let body ← multilineBasicQuotes ((← remaining) + 1) (String.join first)
      let last ← opt (quoteRun "\"" (literal "\"\"\""))
      pure (body ++ last.getD ""))
    cut (literal "\"\"\"")
    return body

def literalString : Scan String :=
  within (.label "literal string") do
    char '\''
    let (a, b) ← cut (takeWhile 0 (← remaining) isLiteralByte)
    cut (char '\'')
    text a b

def multilineLiteralPiece : Scan Unit :=
  orElse (do let _ ← byte isLiteralByte) newline

def multilineLiteralString : Scan String :=
  within (.label "multiline literal string") do
    literal "'''"
    let _ ← opt newline
    let body ← cut (do
      let start ← offset
      let _ ← many multilineLiteralPiece
      let _ ← many (do
        let _ ← quoteRun "'" (notChar '\'')
        multilineLiteralPiece
        let _ ← many multilineLiteralPiece)
      let _ ← opt (quoteRun "'" (literal "'''"))
      return (← text start (← offset)).replace "\r\n" "\n")
    cut (literal "'''")
    return body

/-- A string of any of the four kinds. -/
def string : Scan String :=
  orElse multilineBasicString (orElse basicString (orElse multilineLiteralString literalString))

/-! ## Keys -/

def keyLimit : Nat := 80

def simpleKey : Scan Key := do
  let start ← offset
  let next ← peek?
  let t ← if next == some 0x22 then basicString
    else if next == some 0x27 then literalString
    else do
      let (a, b) ← takeWhile 1 (← remaining) isBareKeyByte
      text a b
  return { text := t, raw := ← text start (← offset) }

/-- A dotted key: simple keys joined by dots, blanks allowed around each. -/
def key : Scan (List Key) := do
  let start ← offset
  let path ← within (.label "key")
    (separated1 (do blanks; let k ← simpleKey; blanks; pure k) (char '.'))
  if keyLimit ≤ path.length then failAt start DocumentError.tooDeep.message
  return path

/-! ## Numbers -/

def digitOf (d : UInt8 → Bool) : Scan Unit := do let _ ← byte d

def moreDigits (d : UInt8 → Bool) : Scan Unit := do
  let _ ← many (orElse (digitOf d)
    (do char '_'; within (.expected "digit") (cut (digitOf d))))

/-- An optional sign. -/
def sign : Scan Unit := do let _ ← opt (byte fun b => isChar '+' b || isChar '-' b)

def decimalInteger : Scan (Nat × Nat) :=
  within (.label "integer") do
    let start ← offset
    sign
    orElse (do let _ ← byte (fun b => 0x31 ≤ b && b ≤ 0x39); moreDigits isDigit) (digitOf isDigit)
    return (start, ← offset)

def plainDigits : Scan Unit := do
  digitOf isDigit
  moreDigits isDigit

/-- A fractional part: a point and digits. -/
def fraction : Scan Unit := do
  char '.'
  within (.expected "digit") (cut plainDigits)

/-- An exponent: `e` or `E`, an optional sign and digits. -/
def exponent : Scan Unit := do
  let _ ← byte fun b => isChar 'e' b || isChar 'E' b
  sign
  cut plainDigits

def readFloat (s : String) : Float :=
  let cs := s.toList.filter (· != '_')
  let (negative, cs) := match cs with
    | '-' :: rest => (true, rest)
    | '+' :: rest => (false, rest)
    | _ => (false, cs)
  let whole := cs.takeWhile Char.isDigit
  let cs := cs.drop whole.length
  let frac := match cs with
    | '.' :: rest => rest.takeWhile Char.isDigit
    | _ => []
  let cs := match cs with
    | '.' :: rest => rest.drop frac.length
    | _ => cs
  let expo : Int := match cs with
    | _ :: rest =>
      let (neg, ds) := match rest with
        | '-' :: ds => (true, ds)
        | '+' :: ds => (false, ds)
        | ds => (false, ds)
      let n : Int := (ds.foldl (fun n c => 10 * n + (c.toNat - 48)) 0 : Nat)
      if neg then -n else n
    | [] => 0
  let mantissa := (whole ++ frac).foldl (fun n c => 10 * n + (c.toNat - 48)) 0
  Decimal.ofDecimal negative mantissa (expo - frac.length)

/-- Positive infinity. -/
def infinity : Float := 1.0 / 0.0

def specialFloat : Scan Float := do
  let s ← opt (byte fun b => isChar '+' b || isChar '-' b)
  let f ← orElse (do literal "inf"; pure infinity) (do literal "nan"; pure (0.0 / 0.0))
  return if s == some 0x2D then -f else f

/-- A float: decimal with a fraction or an exponent, not beyond the largest float, or `inf`
    or `nan`. -/
def float : Scan Float :=
  within (.label "floating-point number") (orElse
    (do
      let start ← offset
      let _ ← decimalInteger
      orElse exponent (do fraction; let _ ← opt exponent)
      let f := readFloat (← text start (← offset))
      if f == infinity then cut (throw (.backtrack { offset := start })) else pure f)
    specialFloat)

def tooLarge : String := "number too large to fit in target type"

def radixInteger (label : String) (d : UInt8 → Bool) (base : Nat) (mark : String) : Scan Int := do
  let start ← offset
  let (a, b) ← within (.label label) do
    literal mark
    cut (do
      let s ← offset
      digitOf d
      moreDigits d
      return (s, ← offset))
  let ds := ((← read).extract a b).toList.filter (· != 0x5F)
  let v := digitsValue base ds
  if v < Nat.pow 2 63 then pure v else failAt start tooLarge

/-- An integer: hexadecimal, octal or binary after `0x`, `0o`, `0b`, else decimal, within the
    range of 64-bit signed integers. -/
def integer : Scan Int := do
  let start ← offset
  let mark ← text start (start + 2)
  if mark == "0x" then cut (radixInteger "hexadecimal integer" isHexDigit 16 "0x")
  else if mark == "0o" then cut (radixInteger "octal integer" (fun b => 0x30 ≤ b && b ≤ 0x37) 8 "0o")
  else if mark == "0b" then cut (radixInteger "binary integer" (fun b => b == 0x30 || b == 0x31) 2 "0b")
  else
    let (a, b) ← decimalInteger
    let cs := (← text a b).toList.filter (· != '_')
    let (negative, ds) := match cs with
      | '-' :: rest => (true, rest)
      | '+' :: rest => (false, rest)
      | _ => (false, cs)
    let n := ds.foldl (fun n c => 10 * n + (c.toNat - 48)) (0 : Nat)
    if negative then
      if n ≤ Nat.pow 2 63 then pure (-(n : Int)) else cut (failAt start "number too small to fit in target type")
    else if n < Nat.pow 2 63 then pure (n : Int) else cut (failAt start tooLarge)

/-! ## Dates and times -/

def fixedDigits (n : Nat) : Scan Nat := do
  let (a, b) ← takeWhile n n isDigit
  return digitsValue 10 ((← read).extract a b).toList

def ranged (n lo hi : Nat) : Scan Nat := do
  let start ← offset
  let v ← fixedDigits n
  if lo ≤ v && v ≤ hi then pure v else failAt start DocumentError.outOfRange.message

def isLeapYear (year : Nat) : Bool :=
  year % 4 == 0 && (year % 100 != 0 || year % 400 == 0)

def daysInMonth (year month : Nat) : Nat :=
  if month == 2 then (if isLeapYear year then 29 else 28)
  else if month == 4 || month == 6 || month == 9 || month == 11 then 30
  else 31

def fullDate : Scan Date := do
  let year ← fixedDigits 4
  char '-'
  cut (do
    let month ← ranged 2 1 12
    char '-'
    let dayStart ← offset
    let day ← ranged 2 1 31
    if day ≤ daysInMonth year month then return { year, month, day }
    else failAt dayStart DocumentError.outOfRange.message)

def secondFraction : Scan Nat := do
  char '.'
  let (a, b) ← takeWhile 1 (← remaining) isDigit
  let ds := (((← read).extract a b).toList.take 9)
  return digitsValue 10 ds * Nat.pow 10 (9 - ds.length)

def partialTime : Scan Time := do
  let hour ← ranged 2 0 23
  char ':'
  cut (do
    let minute ← ranged 2 0 59
    char ':'
    let second ← ranged 2 0 60
    let nanosecond ← opt secondFraction
    return { hour, minute, second, nanosecond := nanosecond.getD 0 })

def timeOffset : Scan Offset :=
  within (.label "time offset") (orElse
    (do let _ ← byte (fun b => isChar 'Z' b || isChar 'z' b); pure .utc)
    (do
      let s ← byte fun b => isChar '+' b || isChar '-' b
      cut (do
        let h ← ranged 2 0 23
        char ':'
        let m ← ranged 2 0 59
        let total : Int := h * 60 + m
        return .minutes (if isChar '-' s then -total else total))))

def dateTime : Scan Datetime :=
  within (.label "date-time") (orElse
    (do
      let date ← fullDate
      let rest ← opt (do
        let _ ← byte fun b => isChar 'T' b || isChar 't' b || isChar ' ' b
        let t ← partialTime
        let o ← opt timeOffset
        pure (t, o))
      match rest with
      | some (t, o) => return { date := some date, time := some t, offset := o }
      | none => return { date := some date, time := none, offset := none })
    (do return { date := none, time := some (← partialTime), offset := none }))

/-! ## Values -/

/-- A value as read: a plain value with the name of its kind, or an inline table. -/
inductive Parsed where
  | plain (v : Value) (kind : String)
  | inline (t : Draft)

def Parsed.toValue : Parsed → Value
  | .plain v _ => v
  | .inline t => .table t.toTable

def Parsed.toNode : Parsed → Node
  | .plain v kind => .value v kind
  | .inline t => .value (.table t.toTable) "inline table"

def Parsed.toInlineNode : Parsed → Node
  | .plain v kind => .value v kind
  | .inline t => t.toNode

def inlineDescend {α : Type} (full : List Key) (f : Draft → Except DocumentError (Draft × α)) :
    Nat → List Key → Draft → Except DocumentError (Draft × α)
  | _, [], t => f t
  | i, k :: rest, t => do
    match t.find? k.text with
    | none =>
      let (sub, a) ← inlineDescend full f (i + 1) rest { implicit := true, dotted := true }
      return (t.put k.text sub.toNode, a)
    | some (.table entries implicit dotted) =>
      let (sub, a) ← inlineDescend full f (i + 1) rest { entries, implicit, dotted }
      return (t.put k.text sub.toNode, a)
    | some (.value _ kind) => throw (.extendsValue (texts (full.take (i + 1))) kind)
    | some (.tables _) => throw (.extendsValue (texts (full.take (i + 1))) "array")

def inlineTable (pairs : List (List Key × Key × Node)) : Except DocumentError Draft :=
  pairs.foldlM (fun root (path, k, node) => do
      let (root, _) ← inlineDescend path (fun t => do
          if t.dotted == path.isEmpty then throw (.duplicateKey k.text none)
          if (t.find? k.text).isSome then throw (.duplicateKey k.text none)
          return (t.put k.text node, ())) 0 path root
      return root)
    {}

def keyValueSeparator : Scan Unit := withinAll [Context.char '.', Context.char '='] (char '=')

def inlinePair (item : Scan Parsed) : Scan (List Key × Key × Node) := do
  let path ← key
  cut (do
    keyValueSeparator
    blanks
    let v ← item
    blanks
    match path.getLast? with
    | some k => return (path.dropLast, k, v.toInlineNode)
    | none => fail)

/-- Refuse to nest deeper, just inside an opening bracket. -/
def tooDeep {α : Type} : Scan α := do cut (failAt (← offset) DocumentError.tooDeep.message)

def inlineTableWith (item : Option (Scan Parsed)) : Scan Draft := do
  char '{'
  let start ← offset
  let some item := item | tooDeep
  let table ← cut (do
    let pairs ← opt (separated1 (inlinePair item) (char ','))
    blanks
    match inlineTable (pairs.getD []) with
    | .ok t => pure t
    | .error e => failAt start e.message)
  withinAll [.label "inline table", Context.char '}'] (cut (char '}'))
  return table

def arrayWith (item : Option (Scan Parsed)) : Scan (List Value) := do
  char '['
  let some item := item | tooDeep
  let items ← cut (do
    let vs ← opt (do
      let vs ← separated1 (do blankLines; let v ← item; blankLines; pure v) (char ',')
      let _ ← opt (char ',')
      pure vs)
    blankLines
    pure (vs.getD []))
  withinAll [.label "array", Context.char ']'] (cut (char ']'))
  return items.map Parsed.toValue

def stringContexts : List Context := [.label "string", Context.char '"', Context.char '\'']

def valueWith (inner : Option (Scan Parsed)) : Scan Parsed := do
  let some b ← peek? | fail
  let c := Char.ofNat b.toNat
  if c == '"' || c == '\'' then return .plain (.string (← string)) "string"
  else if c == '[' then return .plain (.array (← arrayWith inner)) "array"
  else if c == '{' then return .inline (← inlineTableWith inner)
  else if c == '+' || c == '-' || c.isDigit then
    orElse (do return .plain (.datetime (← dateTime)) "datetime")
      (orElse (do return .plain (.float (← float)) "float")
        (do return .plain (.integer (← integer)) "integer"))
  else if c == '_' then within (.expected "leading digit") (do return .plain (.integer (← integer)) "integer")
  else if c == '.' then within (.expected "leading digit") (do return .plain (.float (← float)) "float")
  else withinAll stringContexts (
    if c == 't' then do cut (literal "true"); pure (.plain (.boolean true) "boolean")
    else if c == 'f' then do cut (literal "false"); pure (.plain (.boolean false) "boolean")
    else if c == 'i' then do literal "inf"; pure (.plain (.float infinity) "float")
    else if c == 'n' then do literal "nan"; pure (.plain (.float (0.0 / 0.0)) "float")
    else fail)

/-- A value with room for `room` more levels of arrays and inline tables inside it. -/
def value : Nat → Scan Parsed
  | 0 => valueWith none
  | room + 1 => valueWith (some (value room))

def nestingRoom : Nat := 79

/-! ## Documents -/

def keyValue : Scan (List Key × Key × Parsed) := do
  let path ← key
  cut (do
    keyValueSeparator
    blanks
    let v ← value nestingRoom
    withinAll [Context.char '\n', Context.char '#'] lineTrailing
    match path.getLast? with
    | some k => return (path.dropLast, k, v)
    | none => fail)

/-- A table header `[a.b]` or array-of-tables header `[[a.b]]` with the rest of its line; the
    path, and whether it is an array of tables. -/
def header : Scan (List Key × Bool) := do
  let start ← offset
  if (← remaining) < 2 then fail
  let isArray := (← text start (start + 2)) == "[["
  let (opening, closing) := if isArray then ("[[", "]]") else ("[", "]")
  literal opening
  let path ← cut key
  withinAll [Context.char '.', Context.char ']'] (cut (literal closing))
  withinAll [Context.char '\n', Context.char '#'] (cut lineTrailing)
  return (path, isArray)

def statements : Nat → Builder → Scan Builder
  | 0, b => pure b
  | n + 1, b => do
    let start ← offset
    let some next ← peek? | pure b
    let c := Char.ofNat next.toNat
    let stepped ← if c == '#' then cut (do comment; lineEnding; pure (some b))
      else if c == '[' then cut (within (.label "table header") (do
        let (path, isArray) ← header
        match (if isArray then b.openArrayTable path else b.openTable path) with
        | .ok b => pure (some b)
        | .error e => failAt start e.message))
      else if c == '\n' || c == '\r' then do
        match ← opt newline with
        | some _ => pure (some b)
        | none => pure none
      else cut (do
        let (path, k, v) ← keyValue
        match b.define path k v.toNode with
        | .ok b => pure (some b)
        | .error e => failAt start e.message)
    match stepped with
    | none => pure b
    | some b =>
      blanks
      if (← offset) == start then pure b else statements n b

/-- A whole document: an optional byte order mark, statements, the end of the text. -/
def document : Scan Builder := do
  let _ ← opt (literal "\uFEFF")
  blanks
  let b ← statements ((← remaining) + 1) {}
  endOfText
  return b

/-- Read a TOML document into its table, or say why it cannot be read. -/
def parse (source : String) : Except Error Table :=
  let bytes := source.toUTF8
  match Scan.run document bytes with
  | .error (.backtrack f) | .error (.cut f) =>
    .error { message := f.message, span := some (spanAt bytes f.offset) }
  | .ok b =>
    match b.close with
    | .ok b => .ok b.root.toTable
    | .error e => .error { message := e.message }

end InputMethod.Toml

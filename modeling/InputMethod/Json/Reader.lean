import InputMethod.Json.Value

/-! # Reading JSON text

A reader over the bytes of a JSON text that reports the first fault with its position. A
position is a line (from 1) and a column: the number of bytes between the last line break and
the place the reader points at. Two places are used: the next unread byte (`Cursor.error`), or
the byte after it (`Cursor.peekError`), which is the column of the offending byte itself.

`Json.parse` reads one value followed only by blanks. Nesting deeper than 127 arrays or
objects is refused.
-/

namespace InputMethod.Json

/-- What is wrong with a JSON text, or with the data it holds. -/
inductive ErrorCode where
  | eofWhileParsingList
  | eofWhileParsingObject
  | eofWhileParsingString
  | eofWhileParsingValue
  | expectedColon
  | expectedListCommaOrEnd
  | expectedObjectCommaOrEnd
  | expectedSomeIdent
  | expectedSomeValue
  | invalidEscape
  | invalidNumber
  | numberOutOfRange
  | invalidUnicodeCodePoint
  | controlCharacterWhileParsingString
  | keyMustBeAString
  | loneLeadingSurrogateInHexEscape
  | trailingComma
  | trailingCharacters
  | unexpectedEndOfHexEscape
  | recursionLimitExceeded
  /-- Well-formed text whose data does not have the expected shape. -/
  | data (message : String)

/-- The wording of an error code. -/
def ErrorCode.message : ErrorCode → String
  | .eofWhileParsingList => "EOF while parsing a list"
  | .eofWhileParsingObject => "EOF while parsing an object"
  | .eofWhileParsingString => "EOF while parsing a string"
  | .eofWhileParsingValue => "EOF while parsing a value"
  | .expectedColon => "expected `:`"
  | .expectedListCommaOrEnd => "expected `,` or `]`"
  | .expectedObjectCommaOrEnd => "expected `,` or `\x7d`"
  | .expectedSomeIdent => "expected ident"
  | .expectedSomeValue => "expected value"
  | .invalidEscape => "invalid escape"
  | .invalidNumber => "invalid number"
  | .numberOutOfRange => "number out of range"
  | .invalidUnicodeCodePoint => "invalid unicode code point"
  | .controlCharacterWhileParsingString =>
    "control character (\\u0000-\\u001F) found while parsing a string"
  | .keyMustBeAString => "key must be a string"
  | .loneLeadingSurrogateInHexEscape => "lone leading surrogate in hex escape"
  | .trailingComma => "trailing comma"
  | .trailingCharacters => "trailing characters"
  | .unexpectedEndOfHexEscape => "unexpected end of hex escape"
  | .recursionLimitExceeded => "recursion limit exceeded"
  | .data message => message

/-- An error with the place it was found. -/
structure Error where
  code : ErrorCode
  line : Nat
  column : Nat

/-- The error as `<what> at line <l> column <c>`. -/
def Error.message (e : Error) : String :=
  e.code.message ++ " at line " ++ toString e.line ++ " column " ++ toString e.column

/-- A place in the bytes of a JSON text. -/
structure Cursor where
  bytes : ByteArray
  index : Nat

/-- The line and column of byte offset `i`. -/
def position (bytes : ByteArray) (i : Nat) : Nat × Nat :=
  (bytes.toList.take i).foldl
    (fun (acc : Nat × Nat) (b : UInt8) => if b == 10 then (acc.1 + 1, 0) else (acc.1, acc.2 + 1))
    (1, 0)

namespace Cursor

def ofString (s : String) : Cursor := ⟨s.toUTF8, 0⟩

/-- The next unread byte. -/
def peek? (c : Cursor) : Option UInt8 := c.bytes[c.index]?

/-- One byte further. -/
def bump (c : Cursor) : Cursor := { c with index := c.index + 1 }

/-- An error at the next unread byte. -/
def error (c : Cursor) (code : ErrorCode) : Error :=
  let (line, column) := position c.bytes c.index
  ⟨code, line, column⟩

/-- An error at the byte after the next unread one, i.e. at the column of the next byte. -/
def peekError (c : Cursor) (code : ErrorCode) : Error :=
  let (line, column) := position c.bytes (min (c.index + 1) c.bytes.size)
  ⟨code, line, column⟩

/-- Skip blanks (space, tab, line feed, carriage return). -/
def skipBlanks (c : Cursor) : Cursor :=
  if h : c.index < c.bytes.size then
    let b := c.bytes[c.index]
    if b == 32 || b == 9 || b == 10 || b == 13 then skipBlanks c.bump else c
  else c
termination_by c.bytes.size - c.index
decreasing_by simp only [bump]; omega

def slice (c : Cursor) (stop : Nat) : ByteArray := c.bytes.extract c.index stop

end Cursor

/-! ## Literals -/

def readIdent (c : Cursor) : List UInt8 → Except Error Cursor
  | [] => .ok c
  | b :: rest =>
    match c.peek? with
    | none => .error (c.error .eofWhileParsingValue)
    | some x => if x == b then readIdent c.bump rest else .error (c.bump.error .expectedSomeIdent)

/-- Whether a byte is an ASCII digit. -/
def isDigit (b : UInt8) : Bool := 48 ≤ b && b ≤ 57

def readDigits (c : Cursor) : List Nat × Cursor :=
  if h : c.index < c.bytes.size then
    let b := c.bytes[c.index]
    if isDigit b then
      let (ds, c') := readDigits c.bump
      ((b - 48).toNat :: ds, c')
    else ([], c)
  else ([], c)
termination_by c.bytes.size - c.index
decreasing_by simp only [Cursor.bump]; omega

/-- The value of decimal digits. -/
def digitsValue (ds : List Nat) : Nat := ds.foldl (fun n d => 10 * n + d) 0

/-! ## Numbers

Integers that fit in 64 bits are read exactly. Other numbers are read the fast way, which is not
always the nearest float: digits are gathered into a significand below `2^64` as long as the next
one fits (later digits of the integer part only raise the exponent, later digits of the fraction
are dropped), the exponent is a 32-bit integer that saturates, and the float of the significand
is multiplied or divided once by a power of ten (`scaleByTen`). -/

def maxSignificand : Nat := 18446744073709551615

def maxExponent : Nat := 2147483647

def gather (sig : Nat) : List Nat → Nat × Nat × List Nat
  | [] => (sig, 0, [])
  | d :: ds =>
    if maxSignificand < 10 * sig + d then (sig, 0, d :: ds)
    else
      let (s, n, rest) := gather (10 * sig + d) ds
      (s, n + 1, rest)

def gatherExponent (e : Nat) : List Nat → Nat → Except Nat Nat
  | [], _ => .ok e
  | d :: ds, read =>
    if maxExponent < 10 * e + d then .error (read + 1)
    else gatherExponent (10 * e + d) ds (read + 1)

/-- An integer clamped to the 32-bit range. -/
def saturate (i : Int) : Int := max (-(maxExponent : Int) - 1) (min (maxExponent : Int) i)

def tenTo (k : Nat) : Float := Float.ofScientific 1 false k

/-- `f · 10^exponent` the fast way: one multiplication or division by `10^k` for `k ≤ 308`;
    beyond that, divisions by `10^308` first (two bring any significand to zero), and `none`
    for a value too large. -/
def scaleByTen : Nat → Float → Int → Option Float
  | fuel, f, exponent =>
    if exponent.natAbs ≤ 308 then
      if 0 ≤ exponent then
        let g := f * tenTo exponent.natAbs
        if g.isInf then none else some g
      else some (f / tenTo exponent.natAbs)
    else if f == 0.0 then some f
    else if 0 ≤ exponent then none
    else
      match fuel with
      | 0 => some f
      | n + 1 => scaleByTen n (f / tenTo 308) (exponent + 308)

def fromParts (negative : Bool) (sig : Nat) (exponent : Int) : Option Float :=
  (scaleByTen 3 (Float.ofScientific sig false 0) exponent).map fun f => if negative then -f else f

def readNumber (negative : Bool) (c : Cursor) : Except Error (Number × Cursor) := do
  let (intDigits, c1) ← match c.peek? with
    | none => .error (c.error .eofWhileParsingValue)
    | some 48 =>
      match c.bump.peek? with
      | some b => if isDigit b then .error (c.bump.peekError .invalidNumber) else .ok ([0], c.bump)
      | none => .ok ([0], c.bump)
    | some b =>
      if isDigit b then .ok (readDigits c) else .error (c.bump.error .invalidNumber)
  let (fracDigits, c2, isFloat) ← match c1.peek? with
    | some 46 =>
      let (ds, c') := readDigits c1.bump
      if ds.isEmpty then
        match c'.peek? with
        | some _ => .error (c'.peekError .invalidNumber)
        | none => .error (c'.peekError .eofWhileParsingValue)
      else .ok (ds, c', true)
    | _ => .ok ([], c1, false)
  let (sig, _, dropped) := gather 0 intDigits
  let (sig, taken, _) := gather sig fracDigits
  let start : Int := (dropped.length : Int) - taken
  match c2.peek? with
  | some 101 | some 69 =>
    let c' := c2.bump
    let (expNegative, c') := match c'.peek? with
      | some 45 => (true, c'.bump)
      | some 43 => (false, c'.bump)
      | _ => (false, c')
    match c'.peek? with
    | none => .error (c'.bump.error .eofWhileParsingValue)
    | some b =>
      if isDigit b then
        let (ds, c3) := readDigits c'
        match gatherExponent 0 ds 0 with
        | .error read =>
          if sig != 0 && !expNegative then
            .error ({ c' with index := c'.index + read }.error .numberOutOfRange)
          else .ok (.float (if negative then -0.0 else 0.0), c3)
        | .ok e =>
          let exponent := saturate (if expNegative then start - e else start + e)
          match fromParts negative sig exponent with
          | some f => .ok (.float f, c3)
          | none => .error (c3.error .numberOutOfRange)
      else .error (c'.bump.error .invalidNumber)
  | _ =>
    if isFloat || !dropped.isEmpty then
      match fromParts negative sig start with
      | some f => .ok (.float f, c2)
      | none => .error (c2.error .numberOutOfRange)
    else if negative then
      if sig = 0 then .ok (.float (-0.0), c2)
      else if sig ≤ Nat.pow 2 63 then .ok (.neg sig, c2)
      else .ok (.float (-(Float.ofScientific sig false 0)), c2)
    else .ok (.nat sig, c2)

/-! ## Strings -/

/-- The value of a hexadecimal digit. -/
def hexValue (b : UInt8) : Option Nat :=
  if 48 ≤ b && b ≤ 57 then some (b - 48).toNat
  else if 97 ≤ b && b ≤ 102 then some ((b - 97).toNat + 10)
  else if 65 ≤ b && b ≤ 70 then some ((b - 65).toNat + 10)
  else none

def readHex4 (c : Cursor) : Except Error (Nat × Cursor) :=
  let rec go : Nat → Nat → Cursor → Except Error (Nat × Cursor)
    | 0, acc, c => .ok (acc, c)
    | k + 1, acc, c =>
      match c.peek? with
      | none => .error (c.error .eofWhileParsingString)
      | some b =>
        match hexValue b with
        | some d => go k (16 * acc + d) c.bump
        | none => .error (c.bump.error .invalidEscape)
  go 4 0 c

def charBytes (ch : Char) : List UInt8 := ch.toString.toUTF8.toList

def readEscape (c : Cursor) : Except Error (List UInt8 × Cursor) :=
  match c.peek? with
  | none => .error (c.error .eofWhileParsingString)
  | some b =>
    let c := c.bump
    if b == 34 then .ok ([34], c) else if b == 92 then .ok ([92], c)
    else if b == 47 then .ok ([47], c) else if b == 98 then .ok ([8], c)
    else if b == 102 then .ok ([12], c) else if b == 110 then .ok ([10], c)
    else if b == 114 then .ok ([13], c) else if b == 116 then .ok ([9], c)
    else if b == 117 then do
      let (n, c) ← readHex4 c
      if 0xDC00 ≤ n && n ≤ 0xDFFF then .error (c.error .loneLeadingSurrogateInHexEscape)
      else if 0xD800 ≤ n && n ≤ 0xDBFF then
        match c.peek?, c.bump.peek? with
        | some 92, some 117 =>
          let (lo, c') ← readHex4 c.bump.bump
          if 0xDC00 ≤ lo && lo ≤ 0xDFFF then
            .ok (charBytes (Char.ofNat (0x10000 + ((n - 0xD800) * 0x400) + (lo - 0xDC00))), c')
          else .error (c'.error .loneLeadingSurrogateInHexEscape)
        | none, _ => .error (c.error .eofWhileParsingString)
        | _, _ => .error (c.error .unexpectedEndOfHexEscape)
      else .ok (charBytes (Char.ofNat n), c)
    else .error (c.error .invalidEscape)

def readString (c : Cursor) : Except Error (String × Cursor) :=
  go c.bytes.size [] c
where
  go : Nat → List UInt8 → Cursor → Except Error (String × Cursor)
    | 0, _, c => .error (c.error .eofWhileParsingString)
    | fuel + 1, acc, c =>
      match c.peek? with
      | none => .error (c.error .eofWhileParsingString)
      | some 34 =>
        match String.fromUTF8? (ByteArray.mk acc.reverse.toArray) with
        | some s => .ok (s, c.bump)
        | none => .error (c.bump.error .invalidUnicodeCodePoint)
      | some 92 => do
        let (bs, c') ← readEscape c.bump
        go fuel (bs.reverse ++ acc) c'
      | some b =>
        if b < 32 then .error (c.bump.error .controlCharacterWhileParsingString)
        else go fuel (b :: acc) c.bump

/-! ## Values -/

def depthLimit : Nat := 128

mutual

def readValue : Nat → Nat → Cursor → Except Error (Value × Cursor)
  | 0, _, c => .error (c.error .recursionLimitExceeded)
  | fuel + 1, depth, c =>
    let c := c.skipBlanks
    match c.peek? with
    | none => .error (c.peekError .eofWhileParsingValue)
    | some b =>
      if b == 110 then do let c ← readIdent c.bump [117, 108, 108]; .ok (.null, c)
      else if b == 116 then do let c ← readIdent c.bump [114, 117, 101]; .ok (.bool true, c)
      else if b == 102 then do let c ← readIdent c.bump [97, 108, 115, 101]; .ok (.bool false, c)
      else if b == 45 then do let (n, c) ← readNumber true c.bump; .ok (.number n, c)
      else if isDigit b then do let (n, c) ← readNumber false c; .ok (.number n, c)
      else if b == 34 then do let (s, c) ← readString c.bump; .ok (.string s, c)
      else if b == 91 then
        if depthLimit ≤ depth + 1 then .error (c.peekError .recursionLimitExceeded)
        else do
          let (items, c) ← readItems fuel (depth + 1) true [] c.bump
          .ok (.array items, c)
      else if b == 123 then
        if depthLimit ≤ depth + 1 then .error (c.peekError .recursionLimitExceeded)
        else do
          let (members, c) ← readMembers fuel (depth + 1) true [] c.bump
          .ok (.object members, c)
      else .error (c.peekError .expectedSomeValue)

def readItems : Nat → Nat → Bool → List Value → Cursor → Except Error (List Value × Cursor)
  | 0, _, _, _, c => .error (c.error .recursionLimitExceeded)
  | fuel + 1, depth, first, acc, c =>
    let c := c.skipBlanks
    match c.peek? with
    | none => .error (c.peekError .eofWhileParsingList)
    | some 93 => .ok (acc.reverse, c.bump)
    | some b => do
      let c ← if b == 44 && !first then .ok c.bump.skipBlanks
        else if first then .ok c
        else .error (c.peekError .expectedListCommaOrEnd)
      match c.peek? with
      | some 93 => .error (c.peekError .trailingComma)
      | none => .error (c.peekError .eofWhileParsingValue)
      | some _ =>
        let (v, c) ← readValue fuel depth c
        readItems fuel depth false (v :: acc) c

def readMembers : Nat → Nat → Bool → List (String × Value) → Cursor →
    Except Error (List (String × Value) × Cursor)
  | 0, _, _, _, c => .error (c.error .recursionLimitExceeded)
  | fuel + 1, depth, first, acc, c =>
    let c := c.skipBlanks
    match c.peek? with
    | none => .error (c.peekError .eofWhileParsingObject)
    | some 125 => .ok (acc.reverse, c.bump)
    | some b => do
      let c ← if b == 44 && !first then .ok c.bump.skipBlanks
        else if first then .ok c
        else .error (c.peekError .expectedObjectCommaOrEnd)
      match c.peek? with
      | some 34 =>
        let (key, c) ← readString c.bump
        let c := c.skipBlanks
        match c.peek? with
        | some 58 =>
          let (v, c) ← readValue fuel depth c.bump
          readMembers fuel depth false ((key, v) :: acc) c
        | some _ => .error (c.peekError .expectedColon)
        | none => .error (c.peekError .eofWhileParsingObject)
      | some 125 => .error (c.peekError .trailingComma)
      | some _ => .error (c.peekError .keyMustBeAString)
      | none => .error (c.peekError .eofWhileParsingValue)

end

/-- Read a JSON text that holds one value and nothing but blanks after it. -/
def parse (s : String) : Except Error Value := do
  let c := Cursor.ofString s
  let (v, c) ← readValue (2 * c.bytes.size + 4) 0 c
  let c := c.skipBlanks
  match c.peek? with
  | some _ => .error (c.peekError .trailingCharacters)
  | none => .ok v

end InputMethod.Json

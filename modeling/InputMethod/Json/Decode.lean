import InputMethod.Json.Reader
import InputMethod.Text.Quoted

/-! # Reading typed data from JSON text

Typed data is read straight from the text, value by value. A syntax error is reported where the
reader stands. A value of the wrong kind is reported once the reader has stepped over it (a
number, a string, a literal) or, for an array or object, right before its opening bracket.

A mismatch found by a record after its fields were read (a missing field, a duplicate one, or
one found in data that was buffered first) has no place of its own: it is placed where the
reader stands once the innermost enclosing object or array has been closed, that is after its
closing bracket when that follows (`Fault.data` carries the reader's position until then).
-/

namespace InputMethod.Json

/-- A failed reading: an error with its place, or a mismatch of data that awaits its place,
    with the cursor where reading stood. -/
inductive Fault where
  | placed (e : Error)
  | data (message : String) (c : Cursor)

/-- A reading step: the value and the cursor after it. -/
abbrev Reader (α : Type) := Cursor → Except Fault (α × Cursor)

/-- How a number is named when it does not fit. -/
def Number.describe : Number → String
  | .nat n => "integer `" ++ toString n ++ "`"
  | .neg n => "integer `-" ++ toString n ++ "`"
  | .float f => "floating point `" ++ Decimal.Notation.jsonError.render f ++ "`"

/-- How a value is named when it does not fit. -/
def Value.describe : Value → String
  | .null => "null"
  | .bool b => "boolean `" ++ (if b then "true" else "false") ++ "`"
  | .number n => n.describe
  | .string s => "string " ++ Text.quote s
  | .array _ => "sequence"
  | .object _ => "map"

/-- The message of a value of the wrong kind. -/
def invalidType (what expected : String) : String := "invalid type: " ++ what ++ ", expected " ++ expected

def placedAt (c : Cursor) (message : String) : Fault := .placed (c.error (.data message))

def refuseValue (c : Cursor) (expected : String) : Fault :=
  let bad (what : String) (c : Cursor) : Fault := placedAt c (invalidType what expected)
  match c.peek? with
  | some 110 => match readIdent c.bump [117, 108, 108] with
    | .ok c => bad "null" c
    | .error e => .placed e
  | some 116 => match readIdent c.bump [114, 117, 101] with
    | .ok c => bad "boolean `true`" c
    | .error e => .placed e
  | some 102 => match readIdent c.bump [97, 108, 115, 101] with
    | .ok c => bad "boolean `false`" c
    | .error e => .placed e
  | some 45 => match readNumber true c.bump with
    | .ok (n, c) => bad n.describe c
    | .error e => .placed e
  | some 34 => match readString c.bump with
    | .ok (s, c) => bad ("string " ++ Text.quote s) c
    | .error e => .placed e
  | some 91 => bad "sequence" c
  | some 123 => bad "map" c
  | some b =>
    if isDigit b then
      match readNumber false c with
      | .ok (n, c) => bad n.describe c
      | .error e => .placed e
    else .placed (c.peekError .expectedSomeValue)
  | none => .placed (c.peekError .expectedSomeValue)

/-- A string; anything else is refused as not `expected`. -/
def readText (expected : String) : Reader String := fun c =>
  let c := c.skipBlanks
  match c.peek? with
  | none => .error (.placed (c.peekError .eofWhileParsingValue))
  | some 34 => (readString c.bump).mapError .placed
  | some _ => .error (refuseValue c expected)

def oneOf (names : List String) : String :=
  let quoted := names.map fun n => "`" ++ n ++ "`"
  match quoted with
  | [] => "there are no variants"
  | [a] => a
  | [a, b] => a ++ " or " ++ b
  | _ => "one of " ++ ", ".intercalate quoted

def unknownVariant (name : String) (names : List String) : String :=
  "unknown variant `" ++ name ++ "`, expected " ++ oneOf names

def readName (names : List String) : Reader Nat := fun c => do
  let (s, c) ← readText "variant identifier" c
  match names.findIdx? (· == s) with
  | some i => .ok (i, c)
  | none => .error (placedAt c (unknownVariant s names))

def readAny : Reader Value := fun c => (readValue (2 * c.bytes.size + 4) 1 c).mapError .placed

def closeObject (c : Cursor) : Cursor × Option Error :=
  let c := c.skipBlanks
  match c.peek? with
  | some 125 => (c.bump, none)
  | some 44 => (c, some (c.peekError .trailingComma))
  | some _ => (c, some (c.peekError .trailingCharacters))
  | none => (c, some (c.peekError .eofWhileParsingObject))

def closeArray (c : Cursor) : Cursor × Option Error :=
  let c := c.skipBlanks
  match c.peek? with
  | some 93 => (c.bump, none)
  | some 44 =>
    let c := c.bump.skipBlanks
    match c.peek? with
    | some 93 => (c, some (c.peekError .trailingComma))
    | _ => (c, some (c.peekError .trailingCharacters))
  | some _ => (c, some (c.peekError .trailingCharacters))
  | none => (c, some (c.peekError .eofWhileParsingList))

def enclosed {α : Type} (visit : Reader α) (close : Cursor → Cursor × Option Error) : Reader α :=
  fun c =>
    match visit c with
    | .ok (a, c) =>
      match close c with
      | (c, none) => .ok (a, c)
      | (_, some e) => .error (.placed e)
    | .error (.placed e) => .error (.placed e)
    | .error (.data m c) => .error (placedAt (close c).1 m)

def nextKey (first : Bool) (c : Cursor) : Except Fault (Option String × Cursor) :=
  let c := c.skipBlanks
  let key (c : Cursor) : Except Fault (Option String × Cursor) :=
    match readString c.bump with
    | .ok (k, c) => .ok (some k, c)
    | .error e => .error (.placed e)
  match c.peek? with
  | none => .error (.placed (c.peekError .eofWhileParsingObject))
  | some 125 => .ok (none, c)
  | some b =>
    if first then
      if b == 34 then key c else .error (.placed (c.peekError .keyMustBeAString))
    else if b == 44 then
      let c := c.bump.skipBlanks
      match c.peek? with
      | some 34 => key c
      | some 125 => .error (.placed (c.peekError .trailingComma))
      | some _ => .error (.placed (c.peekError .keyMustBeAString))
      | none => .error (.placed (c.peekError .eofWhileParsingValue))
    else .error (.placed (c.peekError .expectedObjectCommaOrEnd))

/-- The `:` after a key. -/
def colon (c : Cursor) : Except Fault Cursor :=
  let c := c.skipBlanks
  match c.peek? with
  | some 58 => .ok c.bump
  | some _ => .error (.placed (c.peekError .expectedColon))
  | none => .error (.placed (c.peekError .eofWhileParsingObject))

def nextItem (first : Bool) (c : Cursor) : Except Fault (Bool × Cursor) :=
  let c := c.skipBlanks
  match c.peek? with
  | none => .error (.placed (c.peekError .eofWhileParsingList))
  | some 93 => .ok (false, c)
  | some b =>
    if first then .ok (true, c)
    else if b == 44 then
      let c := c.bump.skipBlanks
      match c.peek? with
      | some 93 => .error (.placed (c.peekError .trailingComma))
      | some _ => .ok (true, c)
      | none => .error (.placed (c.peekError .eofWhileParsingValue))
    else .error (.placed (c.peekError .expectedListCommaOrEnd))

def itemsLoop {α : Type} (item : Reader α) : Nat → Bool → List α → Reader (List α)
  | 0, _, acc, c => .ok (acc.reverse, c)
  | n + 1, first, acc, c => do
    let (more, c) ← nextItem first c
    if more then
      let (a, c) ← item c
      itemsLoop item n false (a :: acc) c
    else .ok (acc.reverse, c)

def readList {α : Type} (item : Reader α) : Reader (List α) := fun c =>
  let c := c.skipBlanks
  match c.peek? with
  | none => .error (.placed (c.peekError .eofWhileParsingValue))
  | some 91 =>
    enclosed (fun c => itemsLoop item (c.bytes.size + 1) true [] c) closeArray c.bump
  | some _ => .error (refuseValue c "a sequence")

def readOption {α : Type} (item : Reader α) : Reader (Option α) := fun c =>
  let c := c.skipBlanks
  match c.peek? with
  | some 110 =>
    match readIdent c.bump [117, 108, 108] with
    | .ok c => .ok (none, c)
    | .error e => .error (.placed e)
  | _ =>
    match item c with
    | .ok (a, c) => .ok (some a, c)
    | .error f => .error f

def readRecord {α : Type} (name : String) (fromObject fromArray : Reader α) : Reader α := fun c =>
  let c := c.skipBlanks
  match c.peek? with
  | none => .error (.placed (c.peekError .eofWhileParsingValue))
  | some 123 => enclosed fromObject closeObject c.bump
  | some 91 => enclosed fromArray closeArray c.bump
  | some _ => .error (refuseValue c ("struct " ++ name))

def readWhole {α : Type} (r : Reader α) (text : String) : Except Error α :=
  match r (Cursor.ofString text) with
  | .ok (a, c) =>
    let c := c.skipBlanks
    match c.peek? with
    | some _ => .error (c.peekError .trailingCharacters)
    | none => .ok a
  | .error (.placed e) => .error e
  | .error (.data m c) => .error (c.error (.data m))

/-! ## Records -/

/-- A field of a record read from JSON text: its name, whether it must be given, whether it was
    read already, and how its value is read into the record under construction. -/
structure Field (α : Type) where
  name : String
  required : Bool
  given : α → Bool
  read : α → Reader α

def fieldsLoop {α : Type} (fields : List (Field α)) : Nat → Bool → α → Reader α
  | 0, _, r, c => .ok (r, c)
  | n + 1, first, r, c => do
    let (key, c) ← nextKey first c
    match key with
    | none =>
      match fields.find? (fun f => f.required && !f.given r) with
      | some f => .error (.data ("missing field `" ++ f.name ++ "`") c)
      | none => .ok (r, c)
    | some k =>
      match fields.find? (·.name == k) with
      | some f =>
        if f.given r then .error (.data ("duplicate field `" ++ f.name ++ "`") c)
        else
          let c ← colon c
          let (r, c) ← f.read r c
          fieldsLoop fields n false r c
      | none =>
        let c ← colon c
        let (_, c) ← readAny c
        fieldsLoop fields n false r c

def recordFromObject {α : Type} (fields : List (Field α)) (init : α) : Reader α := fun c =>
  fieldsLoop fields (c.bytes.size + 1) true init c

def elements (n : Nat) : String := toString n ++ (if n == 1 then " element" else " elements")

def recordFromArray {α : Type} (name : String) (fields : List (Field α)) (init : α) : Reader α :=
  fun c => do
    let (r, c, _, _) ← fields.foldlM (fun (acc : α × Cursor × Nat × Bool) f => do
        let (r, c, i, first) := acc
        let (more, c) ← nextItem first c
        if more then
          let (r, c) ← f.read r c
          pure (r, c, i + 1, false)
        else if f.required then
          throw (.data ("invalid length " ++ toString i ++ ", expected struct " ++ name ++ " with " ++
            elements fields.length) c)
        else pure (r, c, i + 1, first))
      (init, c, 0, true)
    .ok (r, c)

end InputMethod.Json

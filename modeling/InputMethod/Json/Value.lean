import InputMethod.Decimal.Text

/-! # JSON values

A JSON document as read: numbers keep whether they were written as integers, so that a
reader that wants an integer can refuse `1.0`, and objects keep their members in written order.
`Value.render` writes a value back as compact JSON text; floats are written as their shortest
decimal, and a float that is integral keeps a `.0`.
-/

namespace InputMethod.Json

/-- A JSON number: a non-negative integer, a negative integer, or any other number as the
    float nearest to it. -/
inductive Number where
  | nat (n : Nat)
  | neg (n : Nat)
  | float (f : Float)

/-- A JSON value. -/
inductive Value where
  | null
  | bool (b : Bool)
  | number (n : Number)
  | string (s : String)
  | array (items : List Value)
  | object (members : List (String × Value))

def Number.toFloat : Number → Float
  | .nat n => Decimal.ofDecimal false n 0
  | .neg n => Decimal.ofDecimal true n 0
  | .float f => f

/-- A number as JSON text. Not-a-number and the infinities have no JSON text; they are written
    `null`. -/
def Number.render : Number → String
  | .nat n => toString n
  | .neg n => if n = 0 then "0" else "-" ++ toString n
  | .float f =>
    match Decimal.kindOf f with
    | .finite .. => Decimal.Notation.plain.render f
    | _ => "null"

namespace Value

/-- The member `key` of an object; of repeated keys the last one counts, and `null` members
    count as absent. -/
def get? (v : Value) (key : String) : Option Value :=
  match v with
  | .object members =>
    match (members.reverse.find? (fun m => m.1 == key)).map Prod.snd with
    | some .null => none
    | other => other
  | _ => none

/-! ## Writing -/

def hex4 (n : Nat) : String :=
  let d (k : Nat) : Char := "0123456789abcdef".toList.getD ((n / Nat.pow 16 k) % 16) '0'
  String.ofList [d 3, d 2, d 1, d 0]

/-- A string as a JSON string literal: quote, backslash and control characters escaped. -/
def quote (s : String) : String :=
  let esc (c : Char) : String :=
    if c == '"' then "\\\"" else if c == '\\' then "\\\\"
    else if c == '\n' then "\\n" else if c == '\r' then "\\r" else if c == '\t' then "\\t"
    else if c.toNat < 0x20 then "\\u" ++ hex4 c.toNat
    else c.toString
  "\"" ++ String.join (s.toList.map esc) ++ "\""

mutual

/-- A value as compact JSON text. -/
def render : Value → String
  | .null => "null"
  | .bool b => if b then "true" else "false"
  | .number n => n.render
  | .string s => quote s
  | .array items => "[" ++ renderItems items ++ "]"
  | .object members => "\x7b" ++ renderMembers members ++ "\x7d"

def renderItems : List Value → String
  | [] => ""
  | [v] => render v
  | v :: rest => render v ++ "," ++ renderItems rest

def renderMembers : List (String × Value) → String
  | [] => ""
  | [(k, v)] => quote k ++ ":" ++ render v
  | (k, v) :: rest => quote k ++ ":" ++ render v ++ "," ++ renderMembers rest

end

end Value

end InputMethod.Json

import InputMethod.Toml.Value
import InputMethod.Text.Quoted
import InputMethod.Decimal.Text

/-! # Reading records from TOML values

A `Decoder` reads a TOML value into a typed value, or says why it does not fit. A record is read
from a table by its fields' names: each field present sets the record's field, absent fields
keep their defaults, unknown names are skipped, and a field named twice (through an alias) is
refused. A record may also be read from an array, which gives the fields in their declared
order; an array with more items than the record has fields is refused.

An error names the value that did not fit and what was expected, and the keys that lead to it
from the record read: `invalid type: integer `3`, expected a string` in `comment_format`.
A date-time reads as its text wherever text is wanted.
-/

namespace InputMethod.Toml

/-- A value that does not fit: the message, and the keys that lead to it. -/
structure DecodeError where
  message : String
  keys : List String := []

/-- The text of a decoding error: the message, then the keys on a line of their own. -/
def DecodeError.text (e : DecodeError) : String :=
  e.message ++ "\n" ++
    (if e.keys.isEmpty then "" else "in `" ++ ".".intercalate e.keys ++ "`\n")

/-- The error as found under `key`. -/
def DecodeError.under (key : String) (e : DecodeError) : DecodeError :=
  { e with keys := key :: e.keys }

/-- How a value is named when it does not fit. -/
def Value.describe : Value → String
  | .string s => "string " ++ Text.quote s
  | .integer i => "integer `" ++ toString i ++ "`"
  | .float f => "floating point `" ++ Decimal.Notation.positional.render f ++ "`"
  | .boolean b => "boolean `" ++ (if b then "true" else "false") ++ "`"
  | .datetime d => "string " ++ Text.quote d.render
  | .array _ => "sequence"
  | .table _ => "map"

/-- A value of the wrong kind for what reads it. -/
def invalidType (v : Value) (expected : String) : DecodeError :=
  { message := "invalid type: " ++ v.describe ++ ", expected " ++ expected }

/-- A reading of TOML values into `α`. -/
abbrev Decoder (α : Type) := Value → Except DecodeError α

namespace Decoder

/-- Text; a date-time gives its text. -/
def string : Decoder String
  | .string s => .ok s
  | .datetime d => .ok d.render
  | v => .error (invalidType v "a string")

/-- A path, read as text. -/
def path : Decoder String
  | .string s => .ok s
  | .datetime d => .ok d.render
  | v => .error (invalidType v "path string")

/-- A boolean. -/
def bool : Decoder Bool
  | .boolean b => .ok b
  | v => .error (invalidType v "a boolean")

/-- A non-negative integer, for a type called `name`. -/
def unsigned (name : String) : Decoder Nat
  | .integer i =>
    if i < 0 then .error { message := "invalid value: integer `" ++ toString i ++ "`, expected " ++ name }
    else .ok i.toNat
  | v => .error (invalidType v name)

/-- A float; an integer gives its float. -/
def float : Decoder Float
  | .float f => .ok f
  | .integer i => .ok (Float.ofInt i)
  | v => .error (invalidType v "f64")

/-- A list of texts. -/
def strings : Decoder (List String)
  | .array items => items.mapM string
  | v => .error (invalidType v "a sequence")

/-- A value that may be absent; a present value is read as such. -/
def optional {α : Type} (d : Decoder α) : Decoder (Option α) := fun v => some <$> d v

end Decoder

/-- A field of a record: the names a table may give it, the first being its own, and how its
    value changes the record. -/
structure Field (α : Type) where
  names : List String
  set : Value → α → Except DecodeError α

/-- A field read by `d` and stored by `store`. -/
def Field.of {α β : Type} (names : List String) (d : Decoder β) (store : β → α → α) : Field α :=
  { names, set := fun v r => (store · r) <$> d v }

/-- Read a record named `name` with the given fields, starting from `init`. -/
def Decoder.record {α : Type} (name : String) (fields : List (Field α)) (init : α) : Decoder α
  | .table entries => do
    let (r, _) ← entries.foldlM (fun (acc : α × List Nat) (k, v) => do
        let (r, seen) := acc
        match fields.findIdx? (·.names.contains k) with
        | none => pure (r, seen)
        | some i =>
          let some f := fields[i]? | pure (r, seen)
          if seen.contains i then
            throw { message := "duplicate field `" ++ (f.names.head?.getD k) ++ "`" }
          let r ← (f.set v r).mapError (DecodeError.under k)
          pure (r, i :: seen))
      (init, [])
    return r
  | .array items => do
    let r ← (fields.zip items).foldlM (fun r (f, v) => f.set v r) init
    if fields.length < items.length then
      throw { message := "invalid length " ++ toString items.length ++ ", expected fewer elements in array" }
    return r
  | v => .error (invalidType v ("struct " ++ name))

end InputMethod.Toml

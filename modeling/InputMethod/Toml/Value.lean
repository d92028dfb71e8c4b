/-! # TOML values

The values a TOML document holds once read: strings, 64-bit integers, floats, booleans, date-times,
arrays and tables. A table lists its entries sorted by key, each key once, which is the order in
which every consumer of a document visits them.

A date-time has a date, a time of day or both, and an offset only after both; its text is the
one TOML writes: `1979-05-27`, `07:32:00.5`, `1979-05-27T07:32:00Z`, `+05:30` style offsets.
-/

namespace InputMethod.Toml

/-- A calendar date. -/
structure Date where
  year : Nat
  month : Nat
  day : Nat

/-- A time of day, with nanoseconds. -/
structure Time where
  hour : Nat
  minute : Nat
  second : Nat
  nanosecond : Nat

/-- The offset of a date-time from universal time: `Z`, or a number of minutes. -/
inductive Offset where
  | utc
  | minutes (m : Int)

/-- A date-time as TOML writes it: at least one of a date and a time. -/
structure Datetime where
  date : Option Date
  time : Option Time
  offset : Option Offset

def padded (width n : Nat) : String :=
  let ds := toString n
  String.ofList (List.replicate (width - ds.length) '0') ++ ds

/-- A date as `YYYY-MM-DD`. -/
def Date.render (d : Date) : String :=
  padded 4 d.year ++ "-" ++ padded 2 d.month ++ "-" ++ padded 2 d.day

def fractionDigits (nanosecond : Nat) : String :=
  String.ofList ((padded 9 nanosecond).toList.reverse.dropWhile (· == '0')).reverse

/-- A time as `HH:MM:SS`, with a fraction when it has nanoseconds. -/
def Time.render (t : Time) : String :=
  padded 2 t.hour ++ ":" ++ padded 2 t.minute ++ ":" ++ padded 2 t.second ++
    (if t.nanosecond = 0 then "" else "." ++ fractionDigits t.nanosecond)

/-- An offset as `Z` or a sign with hours and minutes. -/
def Offset.render : Offset → String
  | .utc => "Z"
  | .minutes m =>
    let sign := if m < 0 then "-" else "+"
    sign ++ padded 2 (m.natAbs / 60) ++ ":" ++ padded 2 (m.natAbs % 60)

/-- A date-time as TOML writes it; a date and a time are joined by `T`. -/
def Datetime.render (d : Datetime) : String :=
  let date := (d.date.map Date.render).getD ""
  let time := match d.time with
    | some t => (if d.date.isSome then "T" else "") ++ t.render
    | none => ""
  date ++ time ++ (d.offset.map Offset.render).getD ""

/-- A TOML value. -/
inductive Value where
  | string (s : String)
  | integer (i : Int)
  | float (f : Float)
  | boolean (b : Bool)
  | datetime (d : Datetime)
  | array (items : List Value)
  | table (entries : List (String × Value))

/-- A table: its entries sorted by key. -/
abbrev Table := List (String × Value)

namespace Value

/-- The entry `key` of a table. -/
def get? (t : Table) (key : String) : Option Value :=
  (t.find? (·.1 == key)).map Prod.snd

def asBool? : Value → Option Bool
  | .boolean b => some b
  | _ => none

def asInt? : Value → Option Int
  | .integer i => some i
  | _ => none

def asString? : Value → Option String
  | .string s => some s
  | _ => none

def asArray? : Value → Option (List Value)
  | .array items => some items
  | _ => none

def asTable? : Value → Option Table
  | .table entries => some entries
  | _ => none

end Value

end InputMethod.Toml

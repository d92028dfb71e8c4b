import InputMethod.Pattern.Parser
import InputMethod.Pattern.Error
import InputMethod.Pattern.Machine
import InputMethod.Pattern.Footprint

/-! # Compiled patterns

`Regex.compile` parses, translates and compiles a pattern, or answers the text of the error
that refuses it; a pattern whose automata would take more than `sizeLimit` bytes is refused too
(`Shape.exceedsSizeLimit`). A compiled pattern can test a text (`isMatch`) and replace every match
(`replaceAll`).

A replacement text refers to groups with `$n`, `$name`, `${n}` or `${name}`; `$$` is a
dollar sign. An unbraced reference takes the longest run of ASCII letters, digits and `_`, so
`$1a` names the group `1a`. A group that did not take part in the match, or does not exist,
stands for nothing; a `$` that starts no reference stands for itself.
-/

namespace InputMethod.Pattern

/-- A compiled pattern with the numbers of its named groups. -/
structure Regex where
  program : Program
  groupNames : List (String × Nat)
  deriving Inhabited

/-- Parse, translate and compile a pattern; an error comes back as its text. -/
def Regex.compile (pattern : String) : Except String Regex := do
  let parsed ← (parse pattern).mapError (·.display pattern)
  let (h, _) ← (translate {} parsed.ast).mapError (·.display pattern)
  if (Shape.ofHir h).exceedsSizeLimit then
    throw ("Compiled regex exceeds size limit of " ++ toString sizeLimit ++ " bytes.")
  return { program := Program.build h parsed.groupCount, groupNames := parsed.groupNames }

/-- Whether the pattern matches somewhere in `text`. -/
def Regex.isMatch (r : Regex) (text : String) : Bool :=
  (search r.program text.toList.toArray 0).isSome

def slice (hay : Array Char) (s e : Nat) : String := String.ofList (hay.extract s e).toList

def groupText (hay : Array Char) (m : Slots) (i : Nat) : Option String :=
  match m.getD (2 * i) none, m.getD (2 * i + 1) none with
  | some s, some e => some (slice hay s e)
  | _, _ => none

/-- A reference to a group in a replacement. -/
inductive GroupRef where
  | number (n : Nat)
  | name (s : String)

def parseIndex (s : String) : Option Nat :=
  let digits := match s.toList with
    | '+' :: rest => rest
    | cs => cs
  if digits.isEmpty || !digits.all Char.isDigit then none
  else
    let n := digits.foldl (fun v d => 10 * v + (d.toNat - '0'.toNat)) 0
    if n < 18446744073709551616 then some n else none

def GroupRef.ofText (s : String) : GroupRef :=
  match parseIndex s with
  | some n => .number n
  | none => .name s

def isRefChar (c : Char) : Bool := c.isAlphanum || c == '_'

def groupRef? (rest : List Char) : Option (GroupRef × List Char) :=
  match rest with
  | [] => none
  | '{' :: more =>
    match more.findIdx? (· == '}') with
    | some i => some (GroupRef.ofText (String.ofList (more.take i)), more.drop (i + 1))
    | none => none
  | _ =>
    let name := rest.takeWhile isRefChar
    if name.isEmpty then none
    else some (GroupRef.ofText (String.ofList name), rest.drop name.length)

def expandLoop (text : GroupRef → String) : Nat → List Char → String → String
  | 0, _, acc => acc
  | _, [], acc => acc
  | n + 1, '$' :: '$' :: rest, acc => expandLoop text n rest (acc.push '$')
  | n + 1, '$' :: rest, acc =>
    match groupRef? rest with
    | some (r, rest') => expandLoop text n rest' (acc ++ text r)
    | none => expandLoop text n rest (acc.push '$')
  | n + 1, c :: rest, acc => expandLoop text n rest (acc.push c)

/-- The replacement for one match. -/
def Regex.expand (r : Regex) (hay : Array Char) (m : Slots) (replacement : String) : String :=
  let text : GroupRef → String
    | .number i => (groupText hay m i).getD ""
    | .name s => match r.groupNames.find? (·.1 == s) with
      | some (_, i) => (groupText hay m i).getD ""
      | none => ""
  expandLoop text (replacement.length + 1) replacement.toList ""

/-- `text` with every match replaced. -/
def Regex.replaceAll (r : Regex) (text replacement : String) : String :=
  let hay := text.toList.toArray
  let (out, last) := (allMatches r.program hay).foldl (fun (acc : String × Nat) m =>
      let (s, e) := matchSpan m
      (acc.1 ++ slice hay acc.2 s ++ r.expand hay m replacement, e))
    ("", 0)
  out ++ slice hay last hay.size

end InputMethod.Pattern

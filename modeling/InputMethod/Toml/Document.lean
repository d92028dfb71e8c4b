import InputMethod.Toml.Value
import InputMethod.Toml.Error

/-! # Building a TOML document

Statements are read one after another into a tree of tables. A table under construction knows
whether it was only implied (`[a.b]` implies `a`) and whether a dotted key made it (`a.b = 1`
makes `a`), because the rules on redefinition depend on both:

* a key is defined once in its table;
* a `[table]` header may take over a table that was only implied by a header, never one defined
  by a header, by a dotted key or by a value;
* a dotted key may go through tables that dotted keys made or that were implied, but not
  through a table defined by a header, nor through a value;
* an `[[array]]` header appends a table to an array of tables, and keys under it go to the
  array's last table.

The statements of the table opened last gather in a table of their own (`Builder.current`),
which joins the tree when the next header comes or the document ends.
-/

namespace InputMethod.Toml

/-- A key as written: the text it stands for, and its spelling in the document. -/
structure Key where
  text : String
  raw : String

/-- A node of the tree: a value with the name of its kind, a table with its flags, or an array
    of tables. -/
inductive Node where
  | value (v : Value) (kind : String)
  | table (entries : List (String × Node)) (implicit dotted : Bool)
  | tables (items : List (List (String × Node)))

/-- A table under construction: entries in the order they came, and how it came to be. -/
structure Draft where
  entries : List (String × Node) := []
  implicit : Bool := false
  dotted : Bool := false

namespace Draft

/-- The entry `key`. -/
def find? (t : Draft) (key : String) : Option Node := (t.entries.find? (·.1 == key)).map Prod.snd

/-- Set the entry `key`, in place if it is there, else at the end. -/
def put (t : Draft) (key : String) (n : Node) : Draft :=
  if t.entries.any (·.1 == key) then
    { t with entries := t.entries.map fun e => if e.1 == key then (key, n) else e }
  else { t with entries := t.entries ++ [(key, n)] }

/-- Remove the entry `key`. -/
def erase (t : Draft) (key : String) : Draft := { t with entries := t.entries.filter (·.1 != key) }

def toNode (t : Draft) : Node := .table t.entries t.implicit t.dotted

end Draft

/-- The texts of a key path. -/
def texts (path : List Key) : List String := path.map Key.text

def duplicateAt (path : List Key) (i : Nat) : DocumentError :=
  .duplicateKey ((path[i]?.map Key.raw).getD "") (some (texts (path.take i)))

def descend {α : Type} (full : List Key) (dotted : Bool) (f : Draft → Except DocumentError (Draft × α)) :
    Nat → List Key → Draft → Except DocumentError (Draft × α)
  | _, [], t => f t
  | i, k :: rest, t => do
    match t.find? k.text with
    | none =>
      let (sub, a) ← descend full dotted f (i + 1) rest { implicit := true, dotted }
      return (t.put k.text sub.toNode, a)
    | some (.value _ kind) => throw (.extendsValue (texts (full.take (i + 1))) kind)
    | some (.tables items) =>
      let last : Draft := { entries := (items.getLast?).getD [] }
      let (sub, a) ← descend full dotted f (i + 1) rest last
      return (t.put k.text (.tables (items.dropLast ++ [sub.entries])), a)
    | some (.table entries implicit isDotted) =>
      if dotted && !implicit then throw (duplicateAt full i)
      let (sub, a) ← descend full dotted f (i + 1) rest { entries, implicit, dotted := isDotted }
      return (t.put k.text sub.toNode, a)

def Draft.define (t : Draft) (header path : List Key) (key : Key) (value : Node) :
    Except DocumentError Draft := do
  let (t, _) ← descend path true (fun target => do
      if target.dotted == path.isEmpty then throw (.duplicateKey key.text none)
      if (target.find? key.text).isSome then throw (.duplicateKey key.text (some (texts header)))
      return (target.put key.text value, ())) 0 path t
  return t

/-- The state of a document being read: the tree so far, and the table of the last header with
    its path. -/
structure Builder where
  root : Draft := {}
  current : Draft := {}
  path : List Key := []
  isArray : Bool := false

namespace Builder

/-- Put the table of the last header into the tree. -/
def close (b : Builder) : Except DocumentError Builder := do
  match b.path.getLast? with
  | none => return { b with root := b.current, current := {} }
  | some key =>
    let path := b.path
    let table := b.current
    let (root, _) ← descend path false (fun parent => do
        match parent.find? key.text, b.isArray with
        | none, true => return (parent.put key.text (.tables [table.entries]), ())
        | some (.tables items), true => return (parent.put key.text (.tables (items ++ [table.entries])), ())
        | none, false => return (parent.put key.text table.toNode, ())
        | some (.table _ true _), false => return (parent.put key.text table.toNode, ())
        | _, _ => throw (duplicateAt path (path.length - 1))) 0 path.dropLast b.root
    return { root, current := {}, path := [], isArray := false }

def openTable (b : Builder) (path : List Key) : Except DocumentError Builder := do
  let b ← b.close
  let some key := path.getLast? | return b
  let (root, taken) ← descend path false (fun parent => do
      match parent.find? key.text with
      | none => return (parent, ({} : Draft))
      | some (.table entries true false) => return (parent.erase key.text, { entries })
      | some _ => throw (duplicateAt path (path.length - 1))) 0 path.dropLast b.root
  return { root, current := { taken with implicit := false, dotted := false }, path, isArray := false }

def openArrayTable (b : Builder) (path : List Key) : Except DocumentError Builder := do
  let b ← b.close
  let some key := path.getLast? | return b
  let (root, _) ← descend path false (fun parent => do
      match parent.find? key.text with
      | none => return (parent.put key.text (.tables []), ())
      | some (.tables _) => return (parent, ())
      | some _ => throw (duplicateAt path (path.length - 1))) 0 path.dropLast b.root
  return { root, current := {}, path, isArray := true }

def define (b : Builder) (path : List Key) (key : Key) (value : Node) : Except DocumentError Builder := do
  return { b with current := ← b.current.define b.path path key value }

end Builder

def sortEntries (es : List (String × Value)) : List (String × Value) :=
  es.mergeSort fun a b => decide (a.1 ≤ b.1)

mutual

def Node.toValue : Node → Value
  | .value v _ => v
  | .table entries _ _ => .table (sortEntries (entriesToValues entries))
  | .tables items => .array (tablesToValues items)

def entriesToValues : List (String × Node) → List (String × Value)
  | [] => []
  | (k, n) :: rest => (k, n.toValue) :: entriesToValues rest

def tablesToValues : List (List (String × Node)) → List Value
  | [] => []
  | t :: rest => .table (sortEntries (entriesToValues t)) :: tablesToValues rest

end

def Draft.toTable (t : Draft) : Table := sortEntries (entriesToValues t.entries)

end InputMethod.Toml

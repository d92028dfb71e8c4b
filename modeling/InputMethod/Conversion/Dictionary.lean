import InputMethod.Conversion.Error
import InputMethod.Text.Lines

/-! # Conversion dictionaries

A dictionary maps a key to one or more values; the first value is the default conversion. A
*text dictionary* holds its entries, each with a non-empty key, and a transducer that indexes
their keys by position; a *group* consults its member dictionaries in order. Two lookups are
offered:

* `matchWord w`: the entry whose key is `w` (none for the empty word), found through the index;
  in a group, the first member's hit;
* `matchPrefix t`: the entry with the longest key whose bytes begin `t`, found by walking the
  index along the bytes of `t`; in a group, a member hit of maximal key length, the earliest
  member winning ties.

A text dictionary built from entries sorts them by the bytes of their keys, keeps the first of
each run of equal keys, and indexes them with `Fst.build`. Dictionaries are read from a plain
text form, one entry a line: the key, a tab, and the values separated by spaces. Blank lines are
skipped.
-/

namespace InputMethod

/-- A key and its values. -/
structure Entry where
  key : String
  values : List String

namespace Entry

/-- Length of the key in bytes. -/
def keyLength (e : Entry) : Nat := e.key.utf8ByteSize

/-- The first value. -/
def default (e : Entry) : Option String := e.values.head?

/-- The map an index over `entries` is built from: the bytes of each key, with its position. -/
def keyIndex (entries : List Entry) : List (List UInt8 × Nat) :=
  entries.zipIdx.map fun (e, i) => (Text.bytes e.key, i)

end Entry

/-- A conversion dictionary. -/
inductive Dictionary where
  /-- Entries with non-empty keys, and a transducer that represents their keys' positions. -/
  | text (entries : List Entry) (index : Fst := Fst.ofPairs (Entry.keyIndex entries))
      (keyed : ∀ e ∈ entries, e.key ≠ "" := by decide)
      (indexed : index.Represents (Entry.keyIndex entries) := by
        exact Fst.ofPairs_represents _)
  /-- Dictionaries consulted in order. -/
  | group (members : List Dictionary)

namespace Dictionary

def keepFirst (entries : List Entry) : List Entry :=
  entries.foldr (fun e acc =>
    match acc with
    | f :: _ => if f.key == e.key then e :: acc.tail else e :: acc
    | [] => [e]) []

def byKey (a b : Entry) : Bool := decide (Text.bytes a.key ≤ Text.bytes b.key)

theorem keepFirst_cons (e : Entry) (rest : List Entry) :
    keepFirst (e :: rest) =
      match keepFirst rest with
      | f :: more => if f.key == e.key then e :: more else e :: f :: more
      | [] => [e] := by
  rw [keepFirst, List.foldr_cons, ← keepFirst]
  cases keepFirst rest <;> rfl

theorem mem_of_mem_keepFirst {x : Entry} {entries : List Entry} (kept : x ∈ keepFirst entries) :
    x ∈ entries := by
  induction entries with
  | nil => simp [keepFirst] at kept
  | cons e rest inductionHypothesis =>
    rw [keepFirst_cons] at kept
    -- whether the head of the rest is dropped or not, `x` is `e` or kept from the rest
    have headOrKept : x = e ∨ x ∈ keepFirst rest := by
      split at kept
      · next f more keptRest =>
        rw [keptRest, List.mem_cons]
        split at kept
        · exact (List.mem_cons.mp kept).imp_right .inr
        · simpa only [List.mem_cons] using kept
      · exact .inl (List.mem_singleton.mp kept)
    rcases headOrKept with rfl | later
    · exact List.mem_cons_self
    · exact List.mem_cons_of_mem _ (inductionHypothesis later)

theorem keyed_keepFirst {entries : List Entry} (keyed : ¬ entries.any (·.key.isEmpty) = true) :
    ∀ e ∈ keepFirst (entries.mergeSort byKey), e.key ≠ "" := by
  intro e kept empty
  apply keyed
  exact List.any_eq_true.mpr ⟨e, List.mem_mergeSort.mp (mem_of_mem_keepFirst kept), by simp [empty]⟩

def ofEntries (entries : List Entry) : Except ConversionError Dictionary :=
  if keyed : entries.any (·.key.isEmpty) then .error (.malformedDict "" 0 "empty key")
  else
    let kept := keepFirst (entries.mergeSort byKey)
    match built : Fst.build (Entry.keyIndex kept) with
    | .error e => .error (.fst e)
    | .ok index => .ok (.text kept index (keyed_keepFirst keyed) (Fst.build_represents built))

def parseLine (line : String) : Except String Entry :=
  match line.splitOn "\t" with
  | [] | [_] => .error "missing tab"
  | key :: rest =>
    if key.isEmpty then .error "empty key"
    else .ok ⟨key, (("\t".intercalate rest).splitOn " ").filter (!·.isEmpty)⟩

/-- Read the text form; `path` names the text in errors, with the line counted from 1. -/
def parse (content : String) (path : String) : Except ConversionError Dictionary := do
  let numbered := (Text.lines content).zipIdx 1
  let entries ← numbered.filterMapM fun (line, n) =>
    let line := Text.dropTrailingReturns line
    if line.isEmpty then pure none
    else match parseLine line with
      | .ok e => pure (some e)
      | .error message => throw (.malformedDict path n message)
  ofEntries entries

/-- The number of entries of a text dictionary. -/
def size : Dictionary → Nat
  | .text entries _ _ _ => entries.length
  | .group _ => 0

/-- Of two hits, the one with the longer key; the first on a tie. -/
def longer : Option Entry → Option Entry → Option Entry
  | some a, some b => if a.keyLength < b.keyLength then some b else some a
  | none, b => b
  | a, none => a

mutual

/-- The entry whose key is `w`: the index gives its position. -/
def matchWord (w : String) : Dictionary → Option Entry
  | .text entries index _ _ => if w.isEmpty then none else (index.get (Text.bytes w)).bind (entries[·]?)
  | .group members => matchWordIn w members

/-- The first hit of `matchWord` among dictionaries. -/
def matchWordIn (w : String) : List Dictionary → Option Entry
  | [] => none
  | d :: rest =>
    match matchWord w d with
    | some e => some e
    | none => matchWordIn w rest

end

def prefixWalk (index : Fst) (text : String) : Option Nat :=
  go (Text.bytes text) 0 index.root 0 none
where
  go : List UInt8 → Nat → Nat → Nat → Option Nat → Option Nat
    | [], _, _, _, longest => longest
    | b :: bs, i, node, out, longest =>
      match index.transition node b with
      | none => longest
      | some t =>
        go bs (i + 1) t.addr (out + t.out)
          (if index.isFinal t.addr && String.Pos.Raw.isValid text ⟨i + 1⟩ then
            some (out + t.out + index.finalOutput t.addr)
          else longest)

mutual

/-- The entry with the longest key whose bytes begin `t`. -/
def matchPrefix (t : String) : Dictionary → Option Entry
  | .text entries index _ _ => (prefixWalk index t).bind (entries[·]?)
  | .group members => matchPrefixIn t members

/-- The hit of `matchPrefix` with the longest key among dictionaries, the earliest on a tie. -/
def matchPrefixIn (t : String) : List Dictionary → Option Entry
  | [] => none
  | d :: rest => longer (matchPrefix t d) (matchPrefixIn t rest)

end

end Dictionary

end InputMethod

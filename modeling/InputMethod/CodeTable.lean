import InputMethod.Stream.Basic
import InputMethod.Decimal.Read
import InputMethod.Text.Lines

/-! # Code tables

A code table maps input codes to texts with weights. It is read from text with one entry per
line, `code⇥text⇥weight`; a line without a tab is split at runs of white space instead. Blank
lines, lines starting with `#`, and lines with fewer than two parts or an empty code are
skipped; a weight that is missing or cannot be read as a float is `0`.

The codes are kept in ascending order, and each code's *bucket* lists its entries heaviest
first under the total order of floats, entries of equal weight in the order they were added.

A query for a code starting at byte `offset` of the input proposes, in order:

1. the code's own bucket, as `table` candidates over the code's span;
2. the first `maxCompletions` entries of the buckets of longer codes that start with the code,
   in ascending order of code, as `completion` candidates over the code's span whose comment is
   `~` and the rest of the longer code;
3. the buckets of the code's proper prefixes, longest first, as `table` candidates over the
   prefix's span only.
-/

namespace InputMethod

/-- A text of a code table with its weight, kept as the bits of a binary64 value: the order
    of weights is the total order of floats, which tells the signs of not-a-numbers apart. -/
structure TableEntry where
  text : String
  weightBits : UInt64

/-- The weight of an entry. -/
def TableEntry.weight (e : TableEntry) : Float := Float.ofBits e.weightBits

/-- The most completions a query proposes. -/
def maxCompletions : Nat := 20

/-- Entries by code, codes ascending, each bucket heaviest first. -/
structure CodeTable where
  buckets : List (String × List TableEntry) := []

namespace CodeTable

def insertByWeight (e : TableEntry) : List TableEntry → List TableEntry
  | [] => [e]
  | f :: rest =>
    if Decimal.keyOfBits f.weightBits < Decimal.keyOfBits e.weightBits then e :: f :: rest
    else f :: insertByWeight e rest

def insertBucket (code : String) (e : TableEntry) :
    List (String × List TableEntry) → List (String × List TableEntry)
  | [] => [(code, [e])]
  | (k, bucket) :: rest =>
    if code < k then (code, [e]) :: (k, bucket) :: rest
    else if code == k then (k, insertByWeight e bucket) :: rest
    else (k, bucket) :: insertBucket code e rest

/-- Add an entry for `code` whose weight has the bits `weightBits`. -/
def insert (t : CodeTable) (code text : String) (weightBits : UInt64) : CodeTable :=
  { buckets := insertBucket code { text, weightBits } t.buckets }

def lineParts (line : String) : List String :=
  if line.contains '\t' then line.splitOn "\t" else Text.words line

def addLine (t : CodeTable) (line : String) : CodeTable :=
  let line := Text.dropTrailingReturns line
  if (Text.trimWhite line).isEmpty || line.startsWith "#" then t
  else
    match lineParts line with
    | code :: text :: rest =>
      if code.isEmpty then t
      else
        let weight := (rest.head?.bind fun w => Decimal.readBits? (Text.trimWhite w)).getD 0
        t.insert code text weight
    | _ => t

/-- The table of a text, line by line. -/
def parse (content : String) : CodeTable := (Text.lines content).foldl addLine {}

/-- The number of entries. -/
def size (t : CodeTable) : Nat := (t.buckets.map (·.2.length)).foldl (· + ·) 0

/-- Whether the table has no code. -/
def isEmpty (t : CodeTable) : Bool := t.buckets.isEmpty

def bucket (t : CodeTable) (code : String) : List TableEntry :=
  ((t.buckets.find? (·.1 == code)).map Prod.snd).getD []

/-- A candidate for an entry. -/
def entryCandidate (kind : String) (start stop : Nat) (comment : String) (e : TableEntry) :
    Candidate :=
  .plain none kind start stop e.text comment "" e.weight

/-- The proper non-empty prefixes of a code, longest first. -/
def properPrefixes (code : String) : List String :=
  ((List.range code.length).drop 1).reverse.map fun n => String.ofList (code.toList.take n)

/-- The candidates for `code` starting at byte `offset`, in the order the module gives. -/
def candidates (t : CodeTable) (code : String) (offset : Nat) : List Candidate :=
  if code.isEmpty then []
  else
    let stop := offset + code.utf8ByteSize
    let exact := (t.bucket code).map (entryCandidate "table" offset stop "")
    -- the codes after `code` in ascending order, as long as they start with it
    let longer := (t.buckets.dropWhile fun (k, _) => !decide (code < k)).takeWhile
      fun (k, _) => code.isPrefixOf k
    let completions := (longer.flatMap fun (k, bucket) =>
        let comment := "~" ++ String.ofList (k.toList.drop code.length)
        bucket.map (entryCandidate "completion" offset stop comment)).take maxCompletions
    let heads := (properPrefixes code).flatMap fun p =>
      (t.bucket p).map (entryCandidate "table" offset (offset + p.utf8ByteSize) "")
    exact ++ completions ++ heads

/-- The candidates for `code` starting at byte `offset`, as a stream. -/
def query (t : CodeTable) (code : String) (offset : Nat) : Stream :=
  .ofList (t.candidates code offset)

end CodeTable

end InputMethod

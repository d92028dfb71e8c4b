import InputMethod.Files
import InputMethod.Text.Lines
import InputMethod.Decimal.Integer

/-! # Word bigram models

A bigram model counts how often a word (the *head*) is followed by another word. For each head
it keeps its followers in the order they were first seen, with their counts, and the total of
its counts; counts are 32-bit and saturate. `probability h w` is the count of `w` after `h`
divided by the head's total, or zero; `logProbability` is its natural logarithm, with
`logFloor` for pairs never seen.

A model is built by `addBigram`, or read from tab-separated text: one `head, follower, count`
per line, blank lines and lines starting with `#` skipped.
-/

namespace InputMethod.Bigram

/-- The largest 32-bit count. -/
def countMax : Nat := 4294967295

def addCount (a b : Nat) : Nat := min (a + b) countMax

/-- The log probability of a pair never seen. -/
def logFloor : Float := -20.0

/-- A word that follows a head, and how often. -/
structure Follower where
  word : String
  count : Nat

/-- Heads with their followers, and heads with their totals. -/
structure Model where
  heads : List (String × List Follower) := []
  totals : List (String × Nat) := []

namespace Model

/-- The followers of a head, in the order they were first seen. -/
def followers (m : Model) (head : String) : List Follower :=
  ((m.heads.find? (·.1 == head)).map Prod.snd).getD []

/-- Whether the model knows `head` as a first word. -/
def containsHead (m : Model) (head : String) : Bool := m.heads.any (·.1 == head)

def total? (m : Model) (head : String) : Option Nat := (m.totals.find? (·.1 == head)).map Prod.snd

/-- The number of heads. -/
def size (m : Model) : Nat := m.heads.length

def totalBigrams (m : Model) : Nat := (m.heads.map (·.2.length)).foldl (· + ·) 0

/-- Set the value of `key` in an association list, adding it at the end if new. -/
def setAt {α : Type} (key : String) (f : Option α → α) (xs : List (String × α)) : List (String × α) :=
  if xs.any (·.1 == key) then xs.map fun p => if p.1 == key then (key, f (some p.2)) else p
  else xs ++ [(key, f none)]

/-- Count `n` more observations of `word` after `head`. -/
def addBigram (m : Model) (head word : String) (n : Nat) : Model :=
  let bump (fs : List Follower) : List Follower :=
    if fs.any (·.word == word) then
      fs.map fun f => if f.word == word then { f with count := addCount f.count n } else f
    else fs ++ [⟨word, n⟩]
  { heads := setAt head (fun fs => bump (fs.getD [])) m.heads
    totals := setAt head (fun t => addCount (t.getD 0) n) m.totals }

/-- `P(word | head)`: its count over the head's total, or zero if either is zero. -/
def probability (m : Model) (head word : String) : Float :=
  let count := (((m.followers head).find? (·.word == word)).map Follower.count).getD 0
  match m.total? head with
  | some total => if 0 < total && 0 < count then Float.ofNat count / Float.ofNat total else 0.0
  | none => 0.0

/-- `ln P(word | head)`, or `logFloor` when the probability is zero. -/
def logProbability (m : Model) (head word : String) : Float :=
  let p := m.probability head word
  if p > 0.0 then p.log else logFloor

end Model

/-! ## Loading -/

/-- Why a model could not be loaded. -/
inductive LoadError where
  | openFailed (path : String) (error : FileError)
  | readFailed (error : FileError)
  | fields (path : String) (line : Nat)
  | badCount (path : String) (line : Nat) (error : Decimal.IntError)
  /-- A binary model that could not be decoded. -/
  | decode (path : String) (message : String)

/-- How a load error is described: the context first, then the cause. -/
def LoadError.message : LoadError → String
  | .openFailed path e => "open " ++ path ++ ": " ++ e.message
  | .readFailed e => e.message
  | .fields path line => path ++ ":" ++ toString line ++ ": expected 3 tab-separated fields"
  | .badCount path line e => path ++ ":" ++ toString line ++ ": bad count: " ++ e.message
  | .decode path message => "decode " ++ path ++ ": " ++ message

def byteLines (bytes : List UInt8) : List (List UInt8) :=
  let pieces := bytes.splitOn 10
  let pieces := if pieces.getLast? == some [] then pieces.dropLast else pieces
  pieces.map fun p => if p.getLast? == some 13 then p.dropLast else p

def ofTabSeparated (path : String) (bytes : ByteArray) : Except LoadError Model :=
  ((byteLines bytes.toList).zipIdx 1).foldlM (fun (m : Model) (raw, n) => do
    let some line := String.fromUTF8? (ByteArray.mk raw.toArray) | throw (.readFailed .notText)
    let line := Text.trimWhite line
    if line.isEmpty || line.startsWith "#" then return m
    match line.splitOn "\t" with
    | [head, word, count] =>
      match Decimal.readUnsigned 32 count with
      | .ok c => return m.addBigram head word c
      | .error e => throw (.badCount path n e)
    | _ => throw (.fields path n)) {}

def loadTabSeparated (fs : Files) (path : String) : Except LoadError Model :=
  match fs.readBytes path with
  | .ok bytes => ofTabSeparated path bytes
  | .error .isDirectory => .error (.readFailed .isDirectory)
  | .error e => .error (.openFailed path e)

end InputMethod.Bigram

import InputMethod.Toml.Error

/-! # Scanning bytes

Reading steps over the bytes of a document, and the ways to combine them. A step that fails
either *backtracks*, leaving its caller free to try something else from where it started, or is
*cut*, which ends the reading: a cut is made where the text has committed to a construct
(after an opening quote, after `=`), so that the error names that construct and not the last
thing tried.

A failure records the offset where it happened. Trying a step again after a backtrack starts
over from the position before it; a step that checks what it read (a number's range, say)
fails at the start of what it read.
-/

namespace InputMethod.Toml

/-- A failed step: free to try something else, or final. -/
inductive Halt where
  | backtrack (f : Failure)
  | cut (f : Failure)

/-- Reading steps over the bytes of a document, at a byte offset. -/
abbrev Scan := ReaderT ByteArray (StateT Nat (Except Halt))

namespace Scan

/-- The current offset. -/
def offset : Scan Nat := get

/-- The byte at the current offset, if any. -/
def peek? : Scan (Option UInt8) := do return (← read)[← get]?

def peekSecond? : Scan (Option UInt8) := do return (← read)[(← get) + 1]?

/-- Whether the text is read to its end. -/
def atEnd : Scan Bool := do return (← read).size ≤ (← get)

def remaining : Scan Nat := do return (← read).size - (← get)

/-- Fail here, free to try something else. -/
def fail {α : Type} : Scan α := do throw (.backtrack { offset := ← get })

/-- Fail at `offset` with a cause beyond the syntax. -/
def failAt {α : Type} (offset : Nat) (cause : String) : Scan α :=
  throw (.backtrack { offset, cause := some cause })

/-- Step over one byte that satisfies `p`. -/
def byte (p : UInt8 → Bool) : Scan UInt8 := do
  match ← peek? with
  | some b => if p b then modify (· + 1) *> pure b else fail
  | none => fail

/-- Step over the byte `c`. -/
def char (c : Char) : Scan Unit := do
  let _ ← byte (· == c.toNat.toUInt8)

/-- Step over any byte. -/
def any : Scan UInt8 := byte fun _ => true

/-- Step over the ASCII text `s`, or fail where it starts. -/
def literal (s : String) : Scan Unit := do
  let bytes ← read
  let start ← get
  let want := s.toUTF8
  if bytes.extract start (start + want.size) == want then set (start + want.size) else fail

/-- Step over bytes satisfying `p`, at most `most` of them, and fail where it started if there
    are fewer than `least`; the offsets of the run. -/
def takeWhile (least most : Nat) (p : UInt8 → Bool) : Scan (Nat × Nat) := do
  let bytes ← read
  let start ← get
  let run := ((bytes.extract start bytes.size).toList.take most).takeWhile p
  if run.length < least then fail
  else
    set (start + run.length)
    return (start, start + run.length)

def skipWhile (p : UInt8 → Bool) : Scan Unit := do
  let _ ← takeWhile 0 ((← read).size) p

/-- The text between two offsets. -/
def text (start stop : Nat) : Scan String := do
  return (String.fromUTF8? ((← read).extract start stop)).getD ""

/-- Make a backtracking failure of `p` final. -/
def cut {α : Type} (p : Scan α) : Scan α :=
  tryCatch p fun
    | .backtrack f => throw (.cut f)
    | h => throw h

/-- Add a context to any failure of `p`. -/
def within {α : Type} (c : Context) (p : Scan α) : Scan α :=
  tryCatch p fun
    | .backtrack f => throw (.backtrack { f with contexts := f.contexts ++ [c] })
    | .cut f => throw (.cut { f with contexts := f.contexts ++ [c] })

def withinAll {α : Type} (cs : List Context) (p : Scan α) : Scan α :=
  cs.foldl (fun q c => within c q) p

def opt {α : Type} (p : Scan α) : Scan (Option α) :=
  tryCatch (some <$> p) fun
    | .backtrack _ => pure none
    | h => throw h

def orElse {α : Type} (p q : Scan α) : Scan α :=
  tryCatch p fun
    | .backtrack _ => q
    | h => throw h

def lookahead {α : Type} (p : Scan α) : Scan Bool := do
  let start ← get
  let r ← opt p
  set start
  return r.isSome

def manyLoop {α : Type} (p : Scan α) : Nat → List α → Scan (List α)
  | 0, acc => pure acc.reverse
  | n + 1, acc => do
    let start ← get
    match ← opt p with
    | none => pure acc.reverse
    | some a => if (← get) == start then pure (a :: acc).reverse else manyLoop p n (a :: acc)

/-- `p` any number of times. -/
def many {α : Type} (p : Scan α) : Scan (List α) := do manyLoop p ((← remaining) + 1) []

def separatedLoop {α β : Type} (item : Scan α) (sep : Scan β) : Nat → List α → Scan (List α)
  | 0, acc => pure acc.reverse
  | n + 1, acc => do
    let start ← get
    match ← opt (do let _ ← sep; item) with
    | none => set start *> pure acc.reverse
    | some a => if (← get) == start then pure (a :: acc).reverse else separatedLoop item sep n (a :: acc)

def separated1 {α β : Type} (item : Scan α) (sep : Scan β) : Scan (List α) := do
  let first ← item
  separatedLoop item sep ((← remaining) + 1) [first]

/-- Run `p` from the start of the text. -/
def run {α : Type} (p : Scan α) (bytes : ByteArray) : Except Halt α :=
  StateT.run' (ReaderT.run p bytes) 0

end Scan

end InputMethod.Toml

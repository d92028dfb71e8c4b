import InputMethod.Menu

/-! # Segments

A segment is a half-open byte span `[start, stop)` of the raw input with a composition status,
a set of tags and a menu of candidates answering for the span. `length` remembers the span's
length when the segment was made: closing a selection that covers only the head of the span
shrinks `stop` and tags the segment `partial`, and reopening it restores `start + length`.
-/

namespace InputMethod

/-- The largest position a 64-bit word holds; selections past it are refused. -/
def wordMax : Nat := 18446744073709551615

/-- How far a segment has been composed, from least to most committed. -/
inductive Status where
  | void
  | guess
  | selected
  | confirmed
  deriving DecidableEq, Repr

namespace Status

def rank : Status → Nat
  | .void => 0
  | .guess => 1
  | .selected => 2
  | .confirmed => 3

/-- Whether a candidate has been chosen for the segment. -/
def isChosen (s : Status) : Bool := 2 ≤ s.rank

/-- The lower-case name of a status. -/
def name : Status → String
  | .void => "void"
  | .guess => "guess"
  | .selected => "selected"
  | .confirmed => "confirmed"

/-- The status of a lower-case name. -/
def ofName? : String → Option Status
  | "void" => some .void
  | "guess" => some .guess
  | "selected" => some .selected
  | "confirmed" => some .confirmed
  | _ => none

end Status

/-! ## Tag sets

Tags are kept as a list in ascending order without repetitions. -/

namespace Tags

/-- Insert a tag into an ascending list of tags. -/
def insert (t : String) : List String → List String
  | [] => [t]
  | u :: rest => if t < u then t :: u :: rest else if t = u then u :: rest else u :: insert t rest

/-- The union of two tag lists, ascending. -/
def union (ts us : List String) : List String := us.foldl (fun acc t => insert t acc) ts

/-- The ascending tag list of arbitrary tags. -/
def ofList (ts : List String) : List String := union [] ts

end Tags

def partialTag : String := "partial"

/-- A span of the input with its composition state. -/
structure Segment where
  start : Nat
  stop : Nat
  length : Nat
  status : Status := .void
  tags : List String := []
  menu : Option Menu := none
  selectedIndex : Nat := 0
  prompt : String := ""

namespace Segment

/-- A fresh segment over `[start, stop)`; its length is `stop - start`, or zero. -/
def new (start stop : Nat) : Segment := { start, stop, length := stop - start }

/-- A fresh segment over `[start, stop)` carrying `tags`. -/
def tagged (start stop : Nat) (tags : List String) : Segment :=
  { new start stop with tags := Tags.ofList tags }

/-- Back to `void`, without tags, menu, selection or prompt. -/
def clear (s : Segment) : Segment :=
  { s with status := .void, tags := [], menu := none, selectedIndex := 0, prompt := "" }

/-- Whether the segment carries tag `t`. -/
def hasTag (t : String) (s : Segment) : Bool := s.tags.contains t

/-- Whether the segment carries one of `ts`. -/
def hasAnyTagIn (ts : List String) (s : Segment) : Bool := ts.any (fun t => s.hasTag t)

/-- The cached menu candidate at `index`. -/
def candidateAt (index : Nat) (s : Segment) : Option Candidate :=
  s.menu.bind (Menu.candidateAt index)

/-- The selected candidate. -/
def selected (s : Segment) : Option Candidate := s.candidateAt s.selectedIndex

/-- Whether the span is empty. -/
def isEmptySpan (s : Segment) : Bool := s.start == s.stop

/-- Cache menu candidates until `count` are cached; `none` without a menu. -/
def prepare (count : Nat) (s : Segment) : Option Nat × Segment :=
  match s.menu with
  | none => (none, s)
  | some m =>
    let (n, m') := m.prepare count
    (some n, { s with menu := some m' })

/-- Select the menu candidate at `index`. It fails without a menu, when `index + 1` exceeds a
    word, or when the menu has no candidate at `index`; the menu caches up to `index + 1`
    candidates either way. -/
def select (index : Nat) (s : Segment) : Bool × Segment :=
  match s.menu with
  | none => (false, s)
  | some m =>
    if wordMax < index + 1 then (false, s)
    else
      let (n, m') := m.prepare (index + 1)
      if n ≤ index then (false, { s with menu := some m' })
      else (true, { s with menu := some m', selectedIndex := index, status := .selected })

/-- Confirm the selected candidate. A candidate that ends strictly inside the span shrinks the
    span to its end and tags the segment `partial`. Fails when nothing is selected. -/
def close (s : Segment) : Bool × Segment :=
  match s.selected with
  | none => (false, s)
  | some c =>
    let e := c.stop
    if s.start < e && e < s.stop then
      (true, { s with stop := e, tags := Tags.insert partialTag s.tags, status := .confirmed })
    else (true, { s with status := .confirmed })

/-- Re-enter a selected or confirmed segment at caret position `caret`: the span gets back the
    length it was opened with, the menu and selection are dropped, and the status is `guess`
    when the caret lies in `(start, start + length]`, else `void`. Fails below `selected`. -/
def reopen (caret : Nat) (s : Segment) : Bool × Segment :=
  if !s.status.isChosen then (false, s)
  else
    let originalStop := s.start + s.length
    let s := if s.stop < originalStop then
      { s with stop := originalStop, tags := s.tags.erase partialTag } else s
    let status := if s.start < caret && caret ≤ originalStop then Status.guess else .void
    (true, { s with status, menu := none, selectedIndex := 0 })

end Segment

end InputMethod

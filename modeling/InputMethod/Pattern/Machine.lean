import InputMethod.Pattern.Program

/-! # Running programs

A program is run over the characters of a text by keeping, at each position, the list of
*threads* that are alive, in order of preference; each thread is an instruction that steps
over a character, with the slots it has recorded. Moving from one position to the next, every
thread that can step over the character there is followed through the instructions that do not
step (`closure`), and the threads it reaches join the next list after those of the threads
before it. An instruction reached a second time at one position is not followed again, so
earlier (preferred) arrivals win.

Until a match is found, a fresh thread at the start of the program joins at each position,
after all others: this finds the leftmost match. When a thread accepts, the threads after it
are dropped, and the search goes on with those before it, which may extend the match: this
gives the match a backtracking matcher would find first.

Every loop is bounded: the closure pops at most one frame per edge and node of the program,
and the search takes one round per position.
-/

namespace InputMethod.Pattern

open InputMethod.Unicode

/-- The positions recorded by a thread: two per group, unset until the group is entered. -/
abbrev Slots := Array (Option Nat)

/-- Threads at one position, in order of preference, with the instructions already reached. -/
structure Threads where
  seen : Array Bool
  list : Array (Nat × Slots)

/-- No threads, for a program of `n` instructions. -/
def Threads.empty (n : Nat) : Threads := ⟨Array.replicate n false, #[]⟩

def isWordUnder (unicode : Bool) (c : Char) : Bool :=
  if unicode then isWordChar c else c.isAlphanum || c == '_'

/-- Whether an assertion holds at position `pos` of `hay`. -/
def Look.holds (l : Look) (hay : Array Char) (pos : Nat) : Bool :=
  let before (u : Bool) : Bool := match hay[pos - 1]? with
    | some c => 0 < pos && isWordUnder u c
    | none => false
  let after (u : Bool) : Bool := match hay[pos]? with
    | some c => isWordUnder u c
    | none => false
  let prev := if 0 < pos then hay[pos - 1]? else none
  let here := hay[pos]?
  match l with
  | .start => pos == 0
  | .stop => pos == hay.size
  | .startLF => pos == 0 || prev == some '\n'
  | .endLF => pos == hay.size || here == some '\n'
  | .startCRLF => pos == 0 || prev == some '\n' || (prev == some '\r' && here != some '\n')
  | .endCRLF => pos == hay.size || here == some '\r' || (here == some '\n' && prev != some '\r')
  | .word u => before u != after u
  | .notWord u => before u == after u
  | .wordStart u => !before u && after u
  | .wordEnd u => before u && !after u
  | .wordStartHalf u => !before u
  | .wordEndHalf u => !after u

/-- A step of the closure: follow an instruction, or put back a slot's earlier value. -/
inductive Frame where
  | explore (id : Nat)
  | restore (slot : Nat) (value : Option Nat)

def Program.closureBound (p : Program) : Nat :=
  p.insts.foldl (fun n i => match i with
    | .split ts => n + ts.length + 1
    | _ => n + 3) 2

def closureLoop (p : Program) (hay : Array Char) (pos : Nat) :
    Nat → List Frame → Slots → Threads → Threads
  | 0, _, _, ts => ts
  | _, [], _, ts => ts
  | n + 1, .restore slot v :: rest, slots, ts => closureLoop p hay pos n rest (slots.set! slot v) ts
  | n + 1, .explore id :: rest, slots, ts =>
    if ts.seen.getD id true then closureLoop p hay pos n rest slots ts
    else
      let ts := { ts with seen := ts.seen.set! id true }
      match p.insts[id]? with
      | some (.char _ _) | some .accept => closureLoop p hay pos n rest slots { ts with list := ts.list.push (id, slots) }
      | some (.jump next) => closureLoop p hay pos n (.explore next :: rest) slots ts
      | some (.look l next) =>
        if l.holds hay pos then closureLoop p hay pos n (.explore next :: rest) slots ts
        else closureLoop p hay pos n rest slots ts
      | some (.split targets) => closureLoop p hay pos n (targets.map .explore ++ rest) slots ts
      | some (.save slot next) =>
        closureLoop p hay pos n (.explore next :: .restore slot (slots.getD slot none) :: rest)
          (slots.set! slot (some pos)) ts
      | _ => closureLoop p hay pos n rest slots ts

/-- Add to `ts` the threads reached from instruction `id` at position `pos`, popping at most
    `bound` frames (`Program.closureBound` suffices). -/
def closure (p : Program) (bound : Nat) (hay : Array Char) (pos id : Nat) (slots : Slots)
    (ts : Threads) : Threads :=
  closureLoop p hay pos bound [.explore id] slots ts

def stepList (p : Program) (bound : Nat) (hay : Array Char) (pos : Nat) :
    List (Nat × Slots) → Threads → Option Slots → Threads × Option Slots
  | [], next, found => (next, found)
  | (id, slots) :: rest, next, found =>
    match p.insts[id]? with
    | some .accept => (next, some slots)
    | some (.char set target) =>
      match hay[pos]? with
      | some c =>
        if Ranges.contains set c.toNat then
          stepList p bound hay pos rest (closure p bound hay (pos + 1) target slots next) found
        else stepList p bound hay pos rest next found
      | none => stepList p bound hay pos rest next found
    | _ => stepList p bound hay pos rest next found

def stepThreads (p : Program) (bound : Nat) (hay : Array Char) (pos : Nat) (curr : Threads)
    (found : Option Slots) : Threads × Option Slots :=
  stepList p bound hay pos curr.list.toList (Threads.empty p.insts.size) found

def searchLoop (p : Program) (bound : Nat) (hay : Array Char) :
    Nat → Nat → Threads → Option Slots → Option Slots
  | 0, _, _, found => found
  | n + 1, pos, curr, found =>
    if hay.size < pos then found
    else if curr.list.isEmpty && found.isSome then found
    else
      let curr := if found.isNone then
          closure p bound hay pos p.start (Array.replicate p.slotCount none) curr
        else curr
      let (next, found) := stepThreads p bound hay pos curr found
      searchLoop p bound hay n (pos + 1) next found

/-- The leftmost match at or after position `start`, preferred as a backtracking matcher
    would: the slots of its groups. -/
def search (p : Program) (hay : Array Char) (start : Nat) : Option Slots :=
  searchLoop p p.closureBound hay (hay.size + 2 - start) start (Threads.empty p.insts.size) none

def matchSpan (s : Slots) : Nat × Nat := ((s.getD 0 none).getD 0, (s.getD 1 none).getD 0)

def matchesLoop (p : Program) (hay : Array Char) : Nat → Nat → Option Nat → List Slots
  | 0, _, _ => []
  | n + 1, start, lastEnd =>
    match search p hay start with
    | none => []
    | some m =>
      let (s, e) := matchSpan m
      if s == e && lastEnd == some e then
        match search p hay (start + 1) with
        | none => []
        | some m' => m' :: matchesLoop p hay n (matchSpan m').2 (some (matchSpan m').2)
      else m :: matchesLoop p hay n e (some e)

def allMatches (p : Program) (hay : Array Char) : List Slots :=
  matchesLoop p hay (2 * hay.size + 2) 0 none

end InputMethod.Pattern

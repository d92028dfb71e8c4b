import InputMethod.Pattern.Hir

/-! # Compiling expressions to programs

An expression is compiled to a *program*: an array of instructions that step over one
character (`char`), branch in order of preference (`split`), record a position (`save`), check
an assertion (`look`), accept, or fail. The whole expression is wrapped in group 0, whose two
slots hold the start and end of the match.

The shapes follow Thompson's construction, with one care for preference order: `x*` where `x`
can match the empty text is compiled as `(x+)?`, so that a round of `x` matching the empty text
is never preferred over leaving the loop. A lazy repetition lists its way out first.

Compilation builds nodes whose successor is patched in later, then closes every node into an
instruction.
-/

namespace InputMethod.Pattern

open InputMethod.Unicode

/-- One instruction of a program. -/
inductive Inst where
  /-- Step over a character in the ranges, then go on at `next`. -/
  | char (set : Array (Nat × Nat)) (next : Nat)
  /-- Go on at each target, the earlier ones preferred. -/
  | split (targets : List Nat)
  | jump (next : Nat)
  /-- Record the current position in `slot`, then go on at `next`. -/
  | save (slot : Nat) (next : Nat)
  /-- Go on at `next` if the assertion holds here. -/
  | look (l : Look) (next : Nat)
  | accept
  | fail
  deriving Inhabited

/-- A compiled pattern: its instructions, where it starts, and how many slots its groups
    need (two per group, group 0 included). -/
structure Program where
  insts : Array Inst
  start : Nat
  slotCount : Nat
  deriving Inhabited

/-- A node under construction; a missing successor is patched in later. -/
inductive Node where
  | empty (next : Option Nat)
  | char (set : Array (Nat × Nat)) (next : Option Nat)
  /-- Branches in the order they were added; `lazy` ones are listed the other way round. -/
  | union (targets : List Nat) (lazy : Bool)
  | save (slot : Nat) (next : Option Nat)
  | look (l : Look) (next : Option Nat)
  | accept
  | fail

/-- Building a program. -/
abbrev BuildM := StateM (Array Node)

/-- The entry and exit node of a compiled piece; the exit's successor is still open. -/
structure Piece where
  entry : Nat
  exit : Nat

def addNode (n : Node) : BuildM Nat := modifyGet fun a => (a.size, a.push n)

def patch (src dst : Nat) : BuildM Unit := modify fun a =>
  match a[src]? with
  | some (.empty _) => a.set! src (.empty (some dst))
  | some (.char s _) => a.set! src (.char s (some dst))
  | some (.union ts lazy) => a.set! src (.union (ts ++ [dst]) lazy)
  | some (.save k _) => a.set! src (.save k (some dst))
  | some (.look l _) => a.set! src (.look l (some dst))
  | _ => a

def cEmpty : BuildM Piece := do
  let id ← addNode (.empty none)
  return ⟨id, id⟩

def cFail : BuildM Piece := do
  let id ← addNode .fail
  return ⟨id, id⟩

def cConcat (pieces : List (BuildM Piece)) : BuildM Piece := do
  match pieces with
  | [] => cEmpty
  | first :: rest =>
    let p ← first
    let mut exit := p.exit
    for c in rest do
      let q ← c
      patch exit q.entry
      exit := q.exit
    return ⟨p.entry, exit⟩

def cAlt (pieces : List (BuildM Piece)) : BuildM Piece := do
  match pieces with
  | [] => cFail
  | [one] => one
  | first :: second :: rest =>
    let p1 ← first
    let p2 ← second
    let u ← addNode (.union [] false)
    let e ← addNode (.empty none)
    patch u p1.entry
    patch p1.exit e
    patch u p2.entry
    patch p2.exit e
    for c in rest do
      let q ← c
      patch u q.entry
      patch q.exit e
    return ⟨u, e⟩

def cExactly (c : BuildM Piece) (n : Nat) : BuildM Piece := cConcat (List.replicate n c)

def cZeroOrOne (c : BuildM Piece) (greedy : Bool) : BuildM Piece := do
  let u ← addNode (.union [] !greedy)
  let p ← c
  let e ← addNode (.empty none)
  patch u p.entry
  patch u e
  patch p.exit e
  return ⟨u, e⟩

def cAtLeast (c : BuildM Piece) (nonEmpty greedy : Bool) (n : Nat) : BuildM Piece := do
  if n == 0 then
    if nonEmpty then
      let u ← addNode (.union [] !greedy)
      let p ← c
      patch u p.entry
      patch p.exit u
      return ⟨u, u⟩
    else
      let p ← c
      let plus ← addNode (.union [] !greedy)
      patch p.exit plus
      patch plus p.entry
      let question ← addNode (.union [] !greedy)
      let e ← addNode (.empty none)
      patch question p.entry
      patch question e
      patch plus e
      return ⟨question, e⟩
  else if n == 1 then
    let p ← c
    let u ← addNode (.union [] !greedy)
    patch p.exit u
    patch u p.entry
    return ⟨p.entry, u⟩
  else
    let pre ← cExactly c (n - 1)
    let last ← c
    let u ← addNode (.union [] !greedy)
    patch pre.exit last.entry
    patch last.exit u
    patch u last.entry
    return ⟨pre.entry, u⟩

def cBounded (c : BuildM Piece) (greedy : Bool) (min max : Nat) : BuildM Piece := do
  let pre ← cExactly c min
  if min == max then return pre
  let e ← addNode (.empty none)
  let mut prevExit := pre.exit
  for _ in List.range (max - min) do
    let u ← addNode (.union [] !greedy)
    let p ← c
    patch prevExit u
    patch u p.entry
    patch u e
    prevExit := p.exit
  patch prevExit e
  return ⟨pre.entry, e⟩

def cCapture (index : Nat) (c : BuildM Piece) : BuildM Piece := do
  let s ← addNode (.save (2 * index) none)
  let p ← c
  let e ← addNode (.save (2 * index + 1) none)
  patch s p.entry
  patch p.exit e
  return ⟨s, e⟩

mutual

/-- Compile an expression. -/
def compile : Hir → BuildM Piece
  | .empty => cEmpty
  | .cls set =>
    if set.isEmpty then cFail
    else do
      let id ← addNode (.char set.toArray none)
      return ⟨id, id⟩
  | .look l => do
    let id ← addNode (.look l none)
    return ⟨id, id⟩
  | .capture index sub => cCapture index (compile sub)
  | .concat items => cConcat (compileAll items)
  | .alternation branches => cAlt (compileAll branches)
  | .repetition min max greedy sub =>
    let c := compile sub
    match min, max with
    | 0, some 1 => cZeroOrOne c greedy
    | n, none => cAtLeast c (((Hir.lengths sub).1.map fun k => decide (0 < k)).getD false) greedy n
    | n, some m => if n == m then cExactly c n else cBounded c greedy n m

def compileAll : List Hir → List (BuildM Piece)
  | [] => []
  | h :: rest => compile h :: compileAll rest

end

/-- Close a node into an instruction; a missing successor fails. -/
def Node.close : Node → Inst
  | .empty (some n) => .jump n
  | .char s (some n) => .char s n
  | .union ts lazy => .split (if lazy then ts.reverse else ts)
  | .save k (some n) => .save k n
  | .look l (some n) => .look l n
  | .accept => .accept
  | _ => .fail

/-- The program of an expression with `groups` numbered groups. -/
def Program.build (h : Hir) (groups : Nat) : Program :=
  let build : BuildM Nat := do
    let p ← cCapture 0 (compile h)
    let m ← addNode .accept
    patch p.exit m
    return p.entry
  let (start, nodes) := build.run #[]
  { insts := nodes.map Node.close, start, slotCount := 2 * (groups + 1) }

end InputMethod.Pattern

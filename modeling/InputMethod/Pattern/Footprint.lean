import InputMethod.Pattern.Hir
import Std.Data.HashMap

/-! # The memory a compiled pattern takes

The matcher runs a pattern on two automata over the bytes of the UTF-8 text: one that reads
forwards and records groups, and one that reads backwards without them. A pattern is refused when
either automaton would take more than `sizeLimit` bytes. This module counts those bytes, state by
state, in the order the automata are built, without keeping the automata themselves.

**Shapes.** The automata are built from the `Shape` of an expression, its normal form:

* a sequence has nested sequences spliced in, no empty items, and adjacent characters joined into
  one literal; a sequence of one item is that item, of none the empty pattern;
* a choice has nested choices spliced in; a choice among single characters, or among classes, is
  one class; when every branch is a sequence, the items they all start with are taken out in
  front of the choice;
* a class of one character is a literal, and a class of none never matches.

Classes leave out the surrogate code points, which no text holds.

**Costs.** Every state takes `stateBytes`; a state that reads one of several byte ranges holds
`transitionBytes` for each range, and a choice state `alternativeBytes` for each alternative.
Alternatives are added to a choice state as it is wired up, and each one counts when it is added.
The tally only grows, so an automaton is refused as soon as it passes the limit
(`TallyM`, `grow`).

**Classes.** A class of ASCII characters, or of none, is one state that reads its ranges and the
state after it. Any other class is read byte by byte along the UTF-8 sequences of its ranges
(`utf8Sequences`):

* forwards, the sequences are laid into a tree whose nodes are shared when they were made
  before (`ClassBuilder`);
* backwards, each sequence is a chain of one-range states from its last byte, and the states of
  common endings are shared (`suffixState`).

Either way, what was made before is found through a table of bounded size indexed by a hash of
the node's transitions, so a later node can evict an earlier one. The state numbers go into the
hash, and that is why the count follows the numbering of the states exactly.

**Choices of literals.** A choice whose branches are all literals is laid out as a trie of their
bytes, read backwards in the backward automaton (`triePiece`).
-/

namespace InputMethod.Pattern

open InputMethod.Unicode

/-- A pattern in the normal form its automata are built from. -/
inductive Shape where
  /-- Matches the empty text. -/
  | empty
  /-- A text of one or more characters. -/
  | literal (chars : List Char)
  /-- One character of a set, as ascending disjoint ranges without surrogates; no range at all
      never matches. -/
  | cls (ranges : List (Nat × Nat))
  | look (l : Look)
  | repetition (min : Nat) (max : Option Nat) (greedy : Bool) (sub : Shape)
  | capture (index : Nat) (sub : Shape)
  /-- Two or more items, none of them a sequence or empty, no two literals side by side. -/
  | concat (items : List Shape)
  /-- Two or more branches, none of them a choice. -/
  | alternation (branches : List Shape)
  deriving BEq, Inhabited

/-! ## Normal form -/

def surrogates : CharSet := CharSet.range 0xD800 0xDFFF

namespace Shape

def ofSet (s : CharSet) : Shape :=
  let s := s.diff surrogates
  match s.ranges with
  | [(a, b)] => if a == b then .literal [Char.ofNat a] else .cls s.ranges
  | rs => .cls rs

def spliceItems : List Shape → List Shape
  | [] => []
  | .empty :: rest => spliceItems rest
  | .concat xs :: rest => xs ++ spliceItems rest
  | x :: rest => x :: spliceItems rest

def joinLiterals : List Shape → List Shape
  | [] => []
  | .literal a :: rest =>
    match joinLiterals rest with
    | .literal b :: more => .literal (a ++ b) :: more
    | more => .literal a :: more
  | x :: rest => x :: joinLiterals rest

def seq (items : List Shape) : Shape :=
  match joinLiterals (spliceItems items) with
  | [] => .empty
  | [x] => x
  | xs => .concat xs

def spliceBranches : List Shape → List Shape
  | [] => []
  | .alternation xs :: rest => xs ++ spliceBranches rest
  | x :: rest => x :: spliceBranches rest

def singleChars : List Shape → Option (List Char)
  | [] => some []
  | .literal [c] :: rest => (singleChars rest).map (c :: ·)
  | _ => none

def classUnion : List Shape → Option CharSet
  | [] => some CharSet.empty
  | .cls rs :: rest => (classUnion rest).map (CharSet.ofRanges rs).union
  | _ => none

def commonPrefix : List Shape → List Shape → List Shape
  | x :: xs, y :: ys => if x == y then x :: commonPrefix xs ys else []
  | _, _ => []

def sharedItems : List Shape → Option (List Shape)
  | .concat xs :: rest =>
    rest.foldlM (fun pre b => match b with
      | .concat ys => some (commonPrefix pre ys)
      | _ => none) xs
  | _ => none

def dropItems (n : Nat) : Shape → Shape
  | .concat xs => seq (xs.drop n)
  | x => x

def collapse? (flat : List Shape) : Option Shape :=
  match flat with
  | [] => some (.cls [])
  | [x] => some x
  | _ =>
    match singleChars flat with
    | some cs => some (ofSet (CharSet.ofRanges (cs.map fun c => (c.toNat, c.toNat))))
    | none => (classUnion flat).map ofSet

/-- The choice among branches, in normal form, taking out common leading items at most `fuel`
    times. -/
def choice : Nat → List Shape → Shape
  | fuel, branches =>
    let flat := spliceBranches branches
    match collapse? flat with
    | some s => s
    | none =>
      match fuel, sharedItems flat with
      | k + 1, some shared@(_ :: _) =>
        seq (shared ++ [choice k (flat.map (dropItems shared.length))])
      | _, _ => .alternation flat

def liftRounds (branches : List Shape) : Nat :=
  (spliceBranches branches).foldl (fun m b => match b with
    | .concat xs => Nat.max m xs.length
    | _ => m) 0

def alt (branches : List Shape) : Shape := choice (liftRounds branches) branches

mutual

def ofHir : Hir → Shape
  | .empty => .empty
  | .cls set => ofSet set
  | .look l => .look l
  | .repetition min max greedy sub => .repetition min max greedy (ofHir sub)
  | .capture index sub => .capture index (ofHir sub)
  | .concat items => seq (ofHirs items)
  | .alternation branches => alt (ofHirs branches)

def ofHirs : List Hir → List Shape
  | [] => []
  | h :: rest => ofHir h :: ofHirs rest

end

/-! ## Lengths and anchors -/

def codeWidth (n : Nat) : Nat :=
  if n < 0x80 then 1 else if n < 0x800 then 2 else if n < 0x10000 then 3 else 4

def byteCount (cs : List Char) : Nat := (cs.map fun c => codeWidth c.toNat).foldl (· + ·) 0

mutual

def minBytes : Shape → Option Nat
  | .empty | .look _ => some 0
  | .literal cs => some (byteCount cs)
  | .cls [] => none
  | .cls ((a, _) :: _) => some (codeWidth a)
  | .repetition min _ _ sub => (minBytes sub).map (· * min)
  | .capture _ sub => minBytes sub
  | .concat items => minBytesSeq items
  | .alternation branches => minBytesChoice branches

def minBytesSeq : List Shape → Option Nat
  | [] => some 0
  | s :: rest => do
    let a ← minBytes s
    let b ← minBytesSeq rest
    pure (a + b)

def minBytesChoice : List Shape → Option Nat
  | [] => none
  | [s] => minBytes s
  | s :: rest => do
    let a ← minBytes s
    let b ← minBytesChoice rest
    pure (Nat.min a b)

end

mutual

def maxBytes : Shape → Option Nat
  | .empty | .look _ => some 0
  | .literal cs => some (byteCount cs)
  | .cls [] => none
  | .cls ((_, b) :: rest) => some (codeWidth ((rest.getLast?.map Prod.snd).getD b))
  | .repetition _ max _ sub => do
    let m ← max
    let k ← maxBytes sub
    pure (k * m)
  | .capture _ sub => maxBytes sub
  | .concat items => maxBytesSeq items
  | .alternation branches => maxBytesChoice branches

def maxBytesSeq : List Shape → Option Nat
  | [] => some 0
  | s :: rest => do
    let a ← maxBytes s
    let b ← maxBytesSeq rest
    pure (a + b)

def maxBytesChoice : List Shape → Option Nat
  | [] => none
  | [s] => maxBytes s
  | s :: rest => do
    let a ← maxBytes s
    let b ← maxBytesChoice rest
    pure (Nat.max a b)

end

def alwaysConsumes (s : Shape) : Bool := (s.minBytes.map fun k => decide (0 < k)).getD false

def zeroWidth (s : Shape) : Bool := s.maxBytes == some 0

mutual

/-- Whether every match of a shape starts with the assertion `l`: it comes before anything that
    reads a byte. -/
def startsWith (l : Look) : Shape → Bool
  | .look l' => l' == l
  | .repetition min _ _ sub => 0 < min && startsWith l sub
  | .capture _ sub => startsWith l sub
  | .concat items => startsWithSeq l items
  | .alternation [] => false
  | .alternation (b :: bs) => startsWithAll l (b :: bs)
  | _ => false

def startsWithSeq (l : Look) : List Shape → Bool
  | [] => false
  | s :: rest => startsWith l s || (s.zeroWidth && startsWithSeq l rest)

def startsWithAll (l : Look) : List Shape → Bool
  | [] => true
  | s :: rest => startsWith l s && startsWithAll l rest

end

mutual

/-- Whether every match of a shape ends with the assertion `l`: it comes after anything that
    reads a byte. -/
def endsWith (l : Look) : Shape → Bool
  | .look l' => l' == l
  | .repetition min _ _ sub => 0 < min && endsWith l sub
  | .capture _ sub => endsWith l sub
  | .concat items => endsWithSeq l items
  | .alternation [] => false
  | .alternation (b :: bs) => endsWithAll l (b :: bs)
  | _ => false

def endsWithSeq (l : Look) : List Shape → Bool
  | [] => false
  | s :: rest => endsWithSeq l rest || (rest.all zeroWidth && endsWith l s)

def endsWithAll (l : Look) : List Shape → Bool
  | [] => true
  | s :: rest => endsWith l s && endsWithAll l rest

end

end Shape

/-! ## The tally -/

/-- The bytes a state takes by itself. -/
def stateBytes : Nat := 32

/-- The bytes a state holds for each byte range it reads, when it reads several. -/
def transitionBytes : Nat := 8

/-- The bytes a choice state holds for each alternative. -/
def alternativeBytes : Nat := 4

/-- The most bytes an automaton may take. -/
def sizeLimit : Nat := 10485760

/-- What an automaton under construction takes: its states, and the bytes they hold. -/
structure Tally where
  states : Nat := 0
  held : Nat := 0

/-- The bytes of a tally. -/
def Tally.bytes (t : Tally) : Nat := stateBytes * t.states + t.held

/-- Building an automaton while counting it; the error is passing the limit. -/
abbrev TallyM := StateT Tally (Except Unit)

/-- Add `count` states holding `held` bytes in all, failing past the limit; the number of the
    first of them. -/
def grow (count held : Nat) : TallyM Nat := do
  let t ← get
  let t' : Tally := { states := t.states + count, held := t.held + held }
  if sizeLimit < t'.bytes then throw ()
  set t'
  return t.states

def addState (held : Nat) : TallyM Nat := grow 1 held

def addAlternative : TallyM Unit := discard (grow 0 alternativeBytes)

/-- Wire the end of a piece to a state: an alternative when that end is a choice state. -/
def join (endsInChoice : Bool) : TallyM Unit :=
  if endsInChoice then addAlternative else pure ()

/-! ## UTF-8 sequences -/

def utf8Encode (n : Nat) : List Nat :=
  if n < 0x80 then [n]
  else if n < 0x800 then [0xC0 + n / 64, 0x80 + n % 64]
  else if n < 0x10000 then [0xE0 + n / 4096, 0x80 + n / 64 % 64, 0x80 + n % 64]
  else [0xF0 + n / 262144, 0x80 + n / 4096 % 64, 0x80 + n / 64 % 64, 0x80 + n % 64]

def utf8Bytes (cs : List Char) : List Nat := cs.flatMap fun c => utf8Encode c.toNat

def widthLimits : List Nat := [0x7F, 0x7FF, 0xFFFF]

def blockSizes : List Nat := [64, 4096, 262144]

def blockSplit (s e : Nat) : List Nat → Option Nat
  | [] => none
  | size :: rest =>
    if s / size != e / size then
      if s % size != 0 then some (s - s % size + size - 1)
      else if e % size != size - 1 then some (e - e % size - 1)
      else blockSplit s e rest
    else blockSplit s e rest

/-- The byte-range sequences that read the code points from `s` to `e` in UTF-8, in ascending
    order: a range is cut around the surrogates, then where the width changes, then at block
    boundaries, until the bytes of its ends differ only in ranges that can be read one byte at a
    time. Each round cuts a range in two; `fuel` bounds the rounds. -/
def utf8Sequences : Nat → Nat → Nat → List (List (Nat × Nat))
  | 0, _, _ => []
  | fuel + 1, s, e =>
    if s < 0xE000 && 0xD7FF < e then
      utf8Sequences fuel s 0xD7FF ++ utf8Sequences fuel 0xE000 e
    else if e < s then []
    else
      match widthLimits.find? (fun m => s ≤ m && m < e) with
      | some m => utf8Sequences fuel s m ++ utf8Sequences fuel (m + 1) e
      | none =>
        if e ≤ 0x7F then [[(s, e)]]
        else
          match blockSplit s e blockSizes with
          | some m => utf8Sequences fuel s m ++ utf8Sequences fuel (m + 1) e
          | none => [(utf8Encode s).zip (utf8Encode e)]

def sequenceRounds : Nat := 16

def rangeSequences (s e : Nat) : List (List (Nat × Nat)) := utf8Sequences sequenceRounds s e

/-! ## Hashing -/

def hashOffset : UInt64 := 14695981039346656037

def hashPrime : UInt64 := 1099511628211

def hashMix (h : UInt64) (x : Nat) : UInt64 := (h ^^^ x.toUInt64) * hashPrime

/-! ## Classes read forwards -/

/-- A transition: the lowest and highest byte it reads, and the state it leads to. -/
abbrev Edge := Nat × Nat × Nat

/-- A node of the forward class automaton not made yet: its transitions, and the byte range of
    one more whose target is not known yet. -/
structure OpenNode where
  edges : Array Edge := #[]
  pending : Option (Nat × Nat) := none

/-- The transitions of a node once its pending one leads to `next`. -/
def OpenNode.close (n : OpenNode) (next : Nat) : Array Edge :=
  match n.pending with
  | some (lo, hi) => n.edges.push (lo, hi, next)
  | none => n.edges

def nodeSlots : Nat := 10000

def edgesSlot (edges : Array Edge) : Nat :=
  (edges.foldl (fun h (e : Edge) => hashMix (hashMix (hashMix h e.1) e.2.1) e.2.2) hashOffset).toNat %
    nodeSlots

/-- The forward automaton of a class under construction: the state every sequence ends in, the
    path of open nodes of the sequence added last, from the root, and the states made, by slot. -/
structure ClassBuilder where
  target : Nat
  path : Array OpenNode := #[{}]
  made : Std.HashMap Nat (Array Edge × Nat) := {}

/-- Building the forward automaton of a class. -/
abbrev ClassM := StateT ClassBuilder TallyM

namespace ClassBuilder

def freeze (edges : Array Edge) : ClassM Nat := do
  let slot := edgesSlot edges
  let hit := match (← get).made[slot]? with
    | some (known, id) => if known == edges then some id else none
    | none => none
  match hit with
  | some id => return id
  | none =>
    let id ← addState (transitionBytes * edges.size)
    modify fun b => { b with made := b.made.insert slot (edges, id) }
    return id

def closeLast (next : Nat) : ClassM Unit :=
  modify fun b => { b with path := b.path.modify (b.path.size - 1) fun n => { edges := n.close next } }

def settle (keep : Nat) : Nat → Nat → ClassM Unit
  | next, 0 => closeLast next
  | next, fuel + 1 => do
    let b ← get
    if keep + 1 < b.path.size then
      let node := b.path.back?.getD {}
      set { b with path := b.path.pop }
      let id ← freeze (node.close next)
      settle keep id fuel
    else closeLast next

def sharedPending : List (Nat × Nat) → List OpenNode → Nat
  | r :: rs, n :: ns => if n.pending == some r then sharedPending rs ns + 1 else 0
  | _, _ => 0

/-- Give the last open node the first range as pending, and open a node for each further one. -/
def extend (path : Array OpenNode) : List (Nat × Nat) → Array OpenNode
  | [] => path
  | r :: rs =>
    rs.foldl (fun p r => p.push { pending := some r })
      (path.modify (path.size - 1) fun n => { n with pending := some r })

/-- Add a sequence: the open nodes past the ranges it shares with the path are made into states,
    and the path continues with the rest of it. -/
def add (sequence : List (Nat × Nat)) : ClassM Unit := do
  let b ← get
  let shared := sharedPending sequence b.path.toList
  settle shared b.target b.path.size
  modify fun b => { b with path := extend b.path (sequence.drop shared) }

/-- Make states of all open nodes, the root last. -/
def finish : ClassM Unit := do
  let b ← get
  settle 0 b.target b.path.size
  let root := (((← get).path[0]?).map (·.edges)).getD #[]
  discard (freeze root)

end ClassBuilder

def forwardClass (ranges : List (Nat × Nat)) : TallyM Unit := do
  let target ← addState 0
  let build : ClassM Unit := do
    for (lo, hi) in ranges do
      for sequence in rangeSequences lo hi do
        ClassBuilder.add sequence
    ClassBuilder.finish
  discard (build.run { target })

/-! ## Classes read backwards -/

def suffixSlots : Nat := 1000

/-- States made for a backward class, by slot: what each reads and leads to, and its number. -/
abbrev SuffixTable := Std.HashMap Nat ((Nat × Nat × Nat) × Nat)

/-- The state reading bytes `lo … hi` and then going to `next`: the one made before, if its slot
    still holds it, or a new one. -/
def suffixState (next lo hi : Nat) : StateT SuffixTable TallyM Nat := do
  let slot := (hashMix (hashMix (hashMix hashOffset next) lo) hi).toNat % suffixSlots
  let hit := match (← get)[slot]? with
    | some (key, id) => if key == (next, lo, hi) then some id else none
    | none => none
  match hit with
  | some id => return id
  | none =>
    let id ← addState 0
    modify fun table => table.insert slot ((next, lo, hi), id)
    return id

def suffixChain (next : Nat) : List (Nat × Nat) → StateT SuffixTable TallyM Nat
  | [] => pure next
  | (lo, hi) :: rest => do suffixChain (← suffixState next lo hi) rest

def backwardClass (ranges : List (Nat × Nat)) : TallyM Unit := do
  discard (addState 0)
  let finish ← addState 0
  let build : StateT SuffixTable TallyM Unit := do
    for (lo, hi) in ranges do
      for sequence in rangeSequences lo hi do
        discard (suffixChain finish sequence)
        addAlternative
  discard (build.run {})

def classPiece (backwards : Bool) (ranges : List (Nat × Nat)) : TallyM Bool := do
  if ranges.all (·.2 < 0x80) then
    discard (addState 0)
    discard (addState (transitionBytes * ranges.length))
  else if backwards then backwardClass ranges
  else forwardClass ranges
  return false

/-! ## Choices of literals -/

/-- A node of a trie of literals: the groups of edges closed by a literal ending here, and the
    edges added since, in ascending order of byte; an edge is a byte and the node it leads to. -/
structure TrieNode where
  closed : List (List (Nat × Nat)) := []
  recent : List (Nat × Nat) := []

namespace TrieNode

def insertEdge (e : Nat × Nat) : List (Nat × Nat) → List (Nat × Nat)
  | [] => [e]
  | x :: xs => if e.1 < x.1 then e :: x :: xs else x :: insertEdge e xs

def isLeaf (n : TrieNode) : Bool := n.closed.all (·.isEmpty) && n.recent.isEmpty

def markEnd (n : TrieNode) : TrieNode :=
  if n.isLeaf && !n.closed.isEmpty then n
  else { closed := n.closed ++ [n.recent], recent := [] }

def cost (n : TrieNode) : Nat × Nat :=
  let groups := n.closed ++ [n.recent]
  let filled := groups.filter fun g => !g.isEmpty
  let wide := (filled.filter fun g => 2 ≤ g.length).foldl (fun acc g => acc + g.length) 0
  (1 + filled.length,
    transitionBytes * wide + alternativeBytes * (filled.length + (groups.length - 1)))

end TrieNode

def trieStep (nodes : Array TrieNode) (src : Nat) (byte : Nat) : Array TrieNode × Nat :=
  match ((nodes.getD src {}).recent.find? (·.1 == byte)) with
  | some (_, next) => (nodes, next)
  | none =>
    let next := nodes.size
    ((nodes.modify src fun n => { n with recent := TrieNode.insertEdge (byte, next) n.recent }).push {},
      next)

def literalTrie (literals : List (List Nat)) : Array TrieNode :=
  literals.foldl (fun nodes bytes =>
    let (nodes, last) := bytes.foldl (fun (acc : Array TrieNode × Nat) b => trieStep acc.1 acc.2 b)
      (nodes, 0)
    nodes.modify last TrieNode.markEnd) #[{}]

/-- The piece of a choice among literals: the state every literal ends in, and the states of the
    nodes of their trie that are no leaves. -/
def triePiece (backwards : Bool) (literals : List (List Char)) : TallyM Bool := do
  let trie := literalTrie (literals.map fun cs =>
    let bytes := utf8Bytes cs
    if backwards then bytes.reverse else bytes)
  let (states, held) := trie.foldl (fun (acc : Nat × Nat) n =>
    if n.isLeaf then acc else (acc.1 + n.cost.1, acc.2 + n.cost.2)) (1, 0)
  discard (grow states held)
  return false

/-! ## Pieces

A piece is the part of an automaton for one shape, built in place; it answers whether it ends in
a choice state, since wiring that end to what follows adds an alternative. -/

def emptyPiece : TallyM Bool := do
  discard (addState 0)
  return false

def chainCopies (piece : TallyM Bool) (prev : Bool) : Nat → TallyM Bool
  | 0 => pure prev
  | k + 1 => do
    let u ← piece
    join prev
    chainCopies piece u k

def exactlyPiece (piece : TallyM Bool) : Nat → TallyM Bool
  | 0 => emptyPiece
  | k + 1 => do chainCopies piece (← piece) k

def chainAll (prev : Bool) : List (TallyM Bool) → TallyM Bool
  | [] => pure prev
  | p :: rest => do
    let u ← p
    join prev
    chainAll u rest

def sequencePiece : List (TallyM Bool) → TallyM Bool
  | [] => emptyPiece
  | p :: rest => do chainAll (← p) rest

def optionalPiece (piece : TallyM Bool) : TallyM Bool := do
  discard (addState 0)
  let u ← piece
  discard (addState 0)
  addAlternative
  addAlternative
  join u
  return false

def atLeastPiece (piece : TallyM Bool) (consumes : Bool) : Nat → TallyM Bool
  | 0 =>
    if consumes then do
      discard (addState 0)
      let u ← piece
      addAlternative
      join u
      return true
    else do
      let u ← piece
      discard (addState 0)
      join u
      addAlternative
      discard (addState 0)
      discard (addState 0)
      addAlternative
      addAlternative
      addAlternative
      return false
  | 1 => do
    let u ← piece
    discard (addState 0)
    join u
    addAlternative
    return true
  | n + 2 => do
    let pu ← exactlyPiece piece (n + 1)
    let u ← piece
    discard (addState 0)
    join pu
    join u
    addAlternative
    return true

def optionalRounds (piece : TallyM Bool) (prev : Bool) : Nat → TallyM Bool
  | 0 => pure prev
  | k + 1 => do
    discard (addState 0)
    let u ← piece
    join prev
    addAlternative
    addAlternative
    optionalRounds piece u k

def boundedPiece (piece : TallyM Bool) (min extra : Nat) : TallyM Bool := do
  let pu ← exactlyPiece piece min
  discard (addState 0)
  let last ← optionalRounds piece pu extra
  join last
  return false

def capturePiece (piece : TallyM Bool) : TallyM Bool := do
  discard (addState 0)
  let u ← piece
  discard (addState 0)
  join u
  return false

def moreBranches : List (TallyM Bool) → TallyM Bool
  | [] => pure false
  | p :: rest => do
    let u ← p
    addAlternative
    join u
    moreBranches rest

def choicePiece : List (TallyM Bool) → TallyM Bool
  | [] => emptyPiece
  | [p] => p
  | p :: q :: rest => do
    let u ← p
    let v ← q
    discard (addState 0)
    discard (addState 0)
    addAlternative
    join u
    addAlternative
    join v
    moreBranches rest

def allLiterals : List Shape → Option (List (List Char))
  | [] => some []
  | .literal cs :: rest => (allLiterals rest).map (cs :: ·)
  | _ => none

namespace Shape

mutual

/-- The piece of a shape, in the automaton that reads backwards or forwards. -/
def piece (backwards : Bool) : Shape → TallyM Bool
  | .empty => emptyPiece
  | .literal cs => do
    discard (grow (byteCount cs) 0)
    return false
  | .cls ranges => classPiece backwards ranges
  | .look _ => do
    discard (addState 0)
    return false
  | .repetition min max _ sub =>
    let p := piece backwards sub
    match min, max with
    | 0, some 1 => optionalPiece p
    | n, none => atLeastPiece p sub.alwaysConsumes n
    | n, some m => if n == m then exactlyPiece p n else boundedPiece p n (m - n)
  | .capture _ sub => if backwards then piece backwards sub else capturePiece (piece backwards sub)
  | .concat items =>
    let ps := pieces backwards items
    sequencePiece (if backwards then ps.reverse else ps)
  | .alternation branches =>
    match allLiterals branches with
    | some literals@(_ :: _ :: _) => triePiece backwards literals
    | _ => choicePiece (pieces backwards branches)

/-- The pieces of shapes. -/
def pieces (backwards : Bool) : List Shape → List (TallyM Bool)
  | [] => []
  | s :: rest => piece backwards s :: pieces backwards rest

end

def automaton (backwards : Bool) (s : Shape) : TallyM Unit := do
  let anchored := if backwards then s.endsWith .stop else s.startsWith .start
  if anchored then discard (addState 0)
  else
    discard (addState 0)
    discard (addState 0)
    discard (addState transitionBytes)
    addAlternative
  let last ← if backwards then s.piece true else capturePiece (s.piece false)
  discard (addState 0)
  join last
  if !anchored then addAlternative

/-- Whether an automaton of the shape passes the size limit. -/
def exceedsSizeLimit (s : Shape) : Bool :=
  match (automaton false s).run {} with
  | .error _ => true
  | .ok _ =>
    match (automaton true s).run {} with
    | .error _ => true
    | .ok _ => false

end Shape

end InputMethod.Pattern

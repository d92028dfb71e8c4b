import InputMethod.Candidate

/-! # Candidate streams

A stream is a lazy, forward-only and possibly endless sequence of *slots*; a slot holds a
candidate or is empty. Consumers look at the head with `peek` and step past it with `next`;
once a stream reports `exhausted` it yields nothing more.

* `queue`: a finite queue of candidates that can be appended to until it has been drained.
* `slots`: a finite sequence of slots, some of them empty.
* `generate`: an endless stream whose `i`-th candidate is `make i`.
* `union`: streams played back to back, in the order they were pushed.
* `expand`: a stream that replaces each candidate of its source by one or more candidates,
  kept in a cache that is refilled from the source on demand; what a candidate is replaced by
  may depend on the candidates replaced before it.

The step every consumer repeats is `pull`: step past empty slots to the next candidate and
past it, or stop at exhaustion. It is defined for each kind directly, which makes every
operation structural; `take n` pulls up to `n` candidates.
-/

namespace InputMethod

/-- What an expanding stream puts in place of one source candidate, given the source candidates
    it expanded before, in order: a first candidate and the ones after it, so never nothing. -/
abbrev Expansion := List Candidate → Candidate → Candidate × List Candidate

/-- The expansion of the candidates after `c`, which counts `c` among those expanded before. -/
def Expansion.past (expansion : Expansion) (c : Candidate) : Expansion :=
  fun before => expansion (c :: before)

/-- A lazy candidate stream. -/
inductive Stream where
  /-- The candidates still to come; `drained` is set once the last one was stepped past. -/
  | queue (pending : List Candidate) (drained : Bool)
  /-- The slots still to come; `none` is an empty slot. -/
  | slots (pending : List (Option Candidate))
  /-- The endless stream `make index`, `make (index + 1)`, …. -/
  | generate (make : Nat → Candidate) (index : Nat)
  /-- Streams played one after another; `drained` is set once the last one was used up. -/
  | union (parts : List Stream) (drained : Bool)
  /-- `source` with every candidate replaced by its expansion; `cache` holds what is left of
      the last expansion and `done` is set once cache and source are both used up. The
      expansion has been moved past every candidate expanded so far. -/
  | expand (cache : List Candidate) (expansion : Expansion) (done : Bool) (source : Stream)

namespace Stream

/-- The empty queue. -/
def empty : Stream := .queue [] false

/-- Whether the stream will yield nothing more. -/
def exhausted : Stream → Bool
  | .queue pending drained => drained || pending.isEmpty
  | .slots pending => pending.isEmpty
  | .generate .. => false
  | .union parts _ => parts.isEmpty
  | .expand _ _ done _ => done

/-! ## Pulling the next candidate -/

/-- The next candidate of a sequence of slots, and the slots after it. -/
def pullSlots : List (Option Candidate) → Option Candidate × List (Option Candidate)
  | [] => (none, [])
  | none :: rest => pullSlots rest
  | some c :: rest => (some c, rest)

mutual

/-- Step past empty slots to the next candidate and past it. The answer is `none` only when
    the stream ran dry, and the stream is then exhausted. -/
def pull : Stream → Option Candidate × Stream
  | .queue pending drained =>
    match drained, pending with
    | false, c :: rest => (some c, .queue rest rest.isEmpty)
    | _, _ => (none, .queue pending drained)
  | .slots pending =>
    let (c, rest) := pullSlots pending
    (c, .slots rest)
  | .generate make index => (some (make index), .generate make (index + 1))
  | .union parts drained =>
    let (c, parts', drained') := pullParts parts drained
    (c, .union parts' drained')
  | .expand cache expansion done source =>
    if done then (none, .expand cache expansion done source)
    else
      match cache with
      | c :: rest => (some c, .expand rest expansion (rest.isEmpty && source.exhausted) source)
      | [] =>
        match pull source with
        | (some c, source') =>
          let (first, rest) := expansion [] c
          (some first, .expand rest (expansion.past c) (rest.isEmpty && source'.exhausted) source')
        | (none, source') => (none, .expand [] expansion true source')

/-- `pull` on streams played back to back: a part that runs dry is dropped, and the union is
    drained once no part is left. -/
def pullParts : List Stream → Bool → Option Candidate × List Stream × Bool
  | [], drained => (none, [], drained)
  | s :: rest, drained =>
    match pull s with
    | (some c, s') =>
      if s'.exhausted then (some c, rest, drained || rest.isEmpty)
      else (some c, s' :: rest, drained)
    | (none, _) => pullParts rest (drained || rest.isEmpty)

end

/-! ## Looking and stepping -/

def headSlot : List (Option Candidate) → Option Candidate
  | [] => none
  | slot :: _ => slot

/-- The candidate at the head, without stepping past it. An expanding stream with an empty
    cache refills it from its source first, so `peek` also answers the stream after. -/
def peek : Stream → Option Candidate × Stream
  | .queue pending drained => (if drained then none else pending.head?, .queue pending drained)
  | .slots pending => (headSlot pending, .slots pending)
  | .generate make index => (some (make index), .generate make index)
  | .union [] drained => (none, .union [] drained)
  | .union (s :: rest) drained =>
    let (c, s') := peek s
    (c, .union (s' :: rest) drained)
  | .expand cache expansion done source =>
    if done then (none, .expand cache expansion done source)
    else
      match cache with
      | c :: rest => (some c, .expand (c :: rest) expansion done source)
      | [] =>
        match pull source with
        | (some c, source') =>
          let (first, rest) := expansion [] c
          (some first, .expand (first :: rest) (expansion.past c) done source')
        | (none, source') => (none, .expand [] expansion done source')

/-- Step past the head slot. The answer is `false` when there was nothing to step past. An
    expanding stream with an empty cache steps its source past a slot without expanding it, and
    that candidate does not count as expanded. -/
def next : Stream → Bool × Stream
  | .queue pending drained =>
    match drained, pending with
    | false, _ :: rest => (true, .queue rest rest.isEmpty)
    | _, _ => (false, .queue pending drained)
  | .slots [] => (false, .slots [])
  | .slots (_ :: rest) => (true, .slots rest)
  | .generate make index => (true, .generate make (index + 1))
  | .union [] drained => (false, .union [] drained)
  | .union (s :: rest) drained =>
    let s' := (next s).2
    if s'.exhausted then (true, .union rest (drained || rest.isEmpty))
    else (true, .union (s' :: rest) drained)
  | .expand cache expansion done source =>
    if done then (false, .expand cache expansion done source)
    else
      match cache with
      | _ :: rest => (true, .expand rest expansion (rest.isEmpty && source.exhausted) source)
      | [] =>
        let source' := (next source).2
        (true, .expand [] expansion source'.exhausted source')

/-- Up to `n` candidates from the head of the stream, and the stream after them. -/
def take : Nat → Stream → List Candidate × Stream
  | 0, s => ([], s)
  | n + 1, s =>
    match pull s with
    | (some c, s') =>
      let (cs, s'') := take n s'
      (c :: cs, s'')
    | (none, s') => ([], s')

/-! ## Building streams -/

/-- A queue of the given candidates. -/
def ofList (cs : List Candidate) : Stream := .queue cs false

/-- Add a candidate at the end of a queue; a drained queue, or a stream of another kind, takes
    nothing. -/
def append (c : Candidate) : Stream → Bool × Stream
  | .queue pending false => (true, .queue (pending ++ [c]) false)
  | s => (false, s)

def queueLength : Stream → Nat
  | .queue pending _ => pending.length
  | _ => 0

/-- Queue `s` after the streams of a union. A drained union takes nothing, and neither is an
    exhausted stream taken; other kinds of stream take nothing. -/
def push : Stream → Stream → Bool × Stream
  | .union parts false, s =>
    if s.exhausted then (false, .union parts false) else (true, .union (parts ++ [s]) false)
  | u, _ => (false, u)

/-- Streams played back to back, each taken only if it is not exhausted. -/
def concat (parts : List Stream) : Stream :=
  parts.foldl (fun u s => (u.push s).2) (.union [] false)

/-- `source` with each candidate replaced by its expansion. It starts exhausted exactly when
    its source is. -/
def expandWith (expansion : Expansion) (source : Stream) : Stream :=
  .expand [] expansion source.exhausted source

end Stream

end InputMethod

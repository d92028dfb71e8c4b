import InputMethod.Segmentation.Segment

/-! # Segmentations

A segmentation is the ordered cover of the input by segments, grown in rounds: `forward` opens
an empty segment at the current end, `addSegment` proposes a span for the round in progress,
and `trim` rolls back a last segment that is not yet selected. `amend` switches to an edited
input and keeps exactly the segments that lie before the first changed byte.

`Segmentation.perform` runs one `Command` of the segmentation's little command language;
segment commands act on one segment chosen by index.
-/

namespace InputMethod

/-- The input and the segments that cover it, in order. -/
structure Segmentation where
  input : String := ""
  segments : List Segment := []

namespace Segmentation

/-! ## Positions -/

/-- The last segment. -/
def last? (g : Segmentation) : Option Segment := g.segments.getLast?

/-- End of the last segment, or zero. -/
def currentEnd (g : Segmentation) : Nat := g.last?.elim 0 Segment.stop

/-- Start of the round in progress: the start of a trailing segment that is empty or void,
    otherwise the end of the last segment. -/
def currentStart (g : Segmentation) : Nat :=
  match g.last? with
  | none => 0
  | some s => if s.isEmptySpan || s.status == .void then s.start else s.stop

def currentLength (g : Segmentation) : Nat := g.last?.elim 0 (fun s => s.stop - s.start)

/-- Whether the segments reach the end of the input. -/
def finished (g : Segmentation) : Bool := g.input.utf8ByteSize ≤ g.currentEnd

def confirmedPosition (g : Segmentation) : Nat :=
  ((g.segments.takeWhile (fun s => s.status.isChosen)).getLast?).elim 0 Segment.stop

/-! ## Rounds -/

/-- Drop every segment and start over on `input`. -/
def reset (input : String) (_ : Segmentation) : Segmentation := { input }

def resetTo (n : Nat) (g : Segmentation) : Segmentation := { g with segments := g.segments.take n }

/-- Open the next round with an empty segment at the current end. Fails without segments,
    after an empty last segment, and once the input is covered. -/
def forward (g : Segmentation) : Bool × Segmentation :=
  match g.last? with
  | none => (false, g)
  | some s =>
    if s.isEmptySpan || g.finished then (false, g)
    else (true, { g with segments := g.segments ++ [Segment.new s.stop s.stop] })

/-- The number of leading bytes two texts share. -/
def commonPrefixBytes (a b : String) : Nat :=
  ((a.toUTF8.toList.zip b.toUTF8.toList).takeWhile (fun p => p.1 == p.2)).length

/-- Drop trailing segments that end after byte `d`; answers how many were dropped. -/
def dropAfter (d : Nat) (segments : List Segment) : List Segment × Nat :=
  let kept := (segments.reverse.dropWhile (fun s => d < s.stop)).reverse
  (kept, segments.length - kept.length)

/-- Switch to `input`, keeping the segments that end no later than the first changed byte; if
    any were dropped, the next round is opened. -/
def amend (input : String) (g : Segmentation) : Segmentation :=
  let (kept, dropped) := dropAfter (commonPrefixBytes g.input input) g.segments
  let g' := { input, segments := kept }
  if dropped = 0 then g' else (forward g').2

/-- Propose `seg` for the round in progress. It must start where the round starts and lie
    within the input. Within a round the longer proposal replaces the last segment, and one of
    the same length adds its tags to it. -/
def addSegment (seg : Segment) (g : Segmentation) : Bool × Segmentation :=
  let start := g.currentStart
  if seg.start != start || g.input.utf8ByteSize < seg.stop || seg.stop < seg.start then (false, g)
  else
    match g.last? with
    | some s =>
      if s.start == start then
        if s.stop < seg.stop then (true, { g with segments := g.segments.dropLast ++ [seg] })
        else if s.stop == seg.stop then
          (true, { g with segments := g.segments.dropLast ++ [{ s with tags := Tags.union s.tags seg.tags }] })
        else (true, g)
      else (true, { g with segments := g.segments ++ [seg] })
    | none => (true, { g with segments := g.segments ++ [seg] })

/-- Remove the last segment unless it has been selected or confirmed. -/
def trim (g : Segmentation) : Bool × Segmentation :=
  match g.last? with
  | some s => if s.status.isChosen then (false, g) else (true, { g with segments := g.segments.dropLast })
  | none => (false, g)

/-! ## Display -/

/-- The segmentation as `[input|start,stop{tags}|…]`, tags only where there are some. -/
def display (g : Segmentation) : String :=
  let seg (s : Segment) : String :=
    "|" ++ toString s.start ++ "," ++ toString s.stop ++
      (if s.tags.isEmpty then "" else "\x7b" ++ ",".intercalate s.tags ++ "\x7d")
  "[" ++ g.input ++ String.join (g.segments.map seg) ++ "]"

/-! ## Commands -/

/-- A change or question addressed to one segment. -/
inductive SegmentCommand where
  | setStatus (status : Status)
  | setPrompt (prompt : String)
  | setMenu (menu : Menu)
  | dropMenu
  | prepare (count : Nat)
  | select (index : Nat)
  | close
  | reopen (caret : Nat)
  | clear
  | hasTag (tag : String)
  | hasAnyTagIn (tags : List String)
  | candidateAt (index : Nat)

/-- A command of the segmentation's command language. -/
inductive Command where
  | reset (input : String)
  | resetTo (n : Nat)
  | amend (input : String)
  | addSegment (start stop : Nat) (tags : List String)
  | forward
  | trim
  /-- A segment command for the segment at `index`, or the last one. -/
  | onSegment (index : Option Nat) (command : SegmentCommand)

/-- What a command answers. -/
inductive Reply where
  | done
  | flag (b : Bool)
  | count (n : Nat)
  | text (t : Option String)
  | noSegment
  | noMenu

/-- Run a segment command on one segment. -/
def SegmentCommand.run : SegmentCommand → Segment → Reply × Segment
  | .setStatus status, s => (.done, { s with status })
  | .setPrompt prompt, s => (.done, { s with prompt })
  | .setMenu menu, s => (.done, { s with menu := some menu })
  | .dropMenu, s => (.done, { s with menu := none })
  | .prepare count, s =>
    match s.prepare count with
    | (some n, s') => (.count n, s')
    | (none, s') => (.noMenu, s')
  | .select index, s => let (b, s') := s.select index; (.flag b, s')
  | .close, s => let (b, s') := s.close; (.flag b, s')
  | .reopen caret, s => let (b, s') := s.reopen caret; (.flag b, s')
  | .clear, s => (.done, s.clear)
  | .hasTag tag, s => (.flag (s.hasTag tag), s)
  | .hasAnyTagIn tags, s => (.flag (s.hasAnyTagIn tags), s)
  | .candidateAt index, s => (.text ((s.candidateAt index).map Candidate.text), s)

/-- Run a command. A segment command for a segment that does not exist answers `noSegment`. -/
def perform : Command → Segmentation → Reply × Segmentation
  | .reset input, g => (.done, g.reset input)
  | .resetTo n, g => (.done, g.resetTo n)
  | .amend input, g => (.done, g.amend input)
  | .addSegment start stop tags, g =>
    let (b, g') := g.addSegment (Segment.tagged start stop tags)
    (.flag b, g')
  | .forward, g => let (b, g') := g.forward; (.flag b, g')
  | .trim, g => let (b, g') := g.trim; (.flag b, g')
  | .onSegment index command, g =>
    let i := index.getD (g.segments.length - 1)
    match g.segments[i]? with
    | none => (.noSegment, g)
    | some s =>
      let (r, s') := command.run s
      (r, { g with segments := g.segments.set i s' })

end Segmentation

end InputMethod

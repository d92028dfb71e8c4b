import InputMethod.Proofs.Session.Steps
import InputMethod.Proofs.Stream.Spans
import InputMethod.Proofs.Context.Machine

/-! # Commits tile the input

A session composes an input round by round. Each round opens at the end of the last candidate
chosen and offers the candidates the table proposes for the rest of the input; a selection
chooses one and closes the round at its end. A selection that reaches the end of the input
commits the texts of every candidate chosen since the input was given, in order, under the kind
of the last one.

Along every run the chosen candidates tile the input: the first starts at zero, each starts
where the one before it ends, and the last of a commit ends at the end of the input (`Tiles`).
The invariant behind it is `Composition`: the segments closed so far hold the chosen candidates,
and the round in progress reaches the end of the input and offers only candidates that start
where it starts and end within the input (the spans of `Stream.Within`). A selection then either
fails and changes nothing that matters, or closes the round inside the input and opens the next
one, or reaches the end and commits (`select_outcomes`).
-/

namespace InputMethod

/-- `cs` follow one another from `lo` to `hi`: each starts where the one before it ends, or at
    `lo`, and ends after it starts, and the last ends at `hi`. -/
def Tiles : Nat → List Candidate → Nat → Prop
  | lo, [], hi => lo = hi
  | lo, c :: cs, hi => c.start = lo ∧ lo < c.stop ∧ Tiles c.stop cs hi

theorem Tiles.snoc {lo mid : Nat} {cs : List Candidate} (tiles : Tiles lo cs mid) {c : Candidate}
    (start : c.start = mid) (grows : mid < c.stop) : Tiles lo (cs ++ [c]) c.stop := by
  induction cs generalizing lo with
  | nil =>
    subst tiles
    exact ⟨start, grows, rfl⟩
  | cons first rest inductionHypothesis =>
    obtain ⟨firstStart, firstGrows, restTiles⟩ := tiles
    exact ⟨firstStart, firstGrows, inductionHypothesis restTiles⟩

def InRound (e len a b : Nat) : Prop := a = e ∧ e < b ∧ b ≤ len

theorem dropBytes_size {cs : List Char} {n : Nat} (left : dropBytes cs n ≠ []) :
    n + String.utf8Len (dropBytes cs n) ≤ String.utf8Len cs := by
  induction cs generalizing n with
  | nil => simp [dropBytes] at left
  | cons c cs inductionHypothesis =>
    cases n with
    | zero => simp [dropBytes]
    | succ n =>
      have rest := inductionHypothesis (n := n + 1 - c.utf8Size) left
      simp only [dropBytes, String.utf8Len_cons] at rest ⊢
      omega

namespace Segment

/-! ## Selecting and closing keep the span -/

theorem start_select (index : Nat) (seg : Segment) : (seg.select index).2.start = seg.start := by
  unfold select
  split
  · rfl
  · dsimp only
    split
    · rfl
    · split <;> rfl

theorem stop_select (index : Nat) (seg : Segment) : (seg.select index).2.stop = seg.stop := by
  unfold select
  split
  · rfl
  · dsimp only
    split
    · rfl
    · split <;> rfl

theorem start_close (seg : Segment) : seg.close.2.start = seg.start := by
  unfold close
  split
  · rfl
  · dsimp only
    split <;> rfl

theorem selected_close (seg : Segment) : seg.close.2.selected = seg.selected := by
  unfold close
  split
  · rfl
  · dsimp only
    split <;> rfl

theorem stop_close {seg : Segment} {c : Candidate} (picked : seg.selected = some c) :
    seg.close.2.stop = if seg.start < c.stop ∧ c.stop < seg.stop then c.stop else seg.stop := by
  unfold close
  rw [picked]
  dsimp only
  by_cases inside : seg.start < c.stop ∧ c.stop < seg.stop
  · simp [inside]
  · simp only [Bool.and_eq_true, decide_eq_true_eq, inside, if_false]

end Segment

namespace Segmentation

theorem forward_of_short {g : Segmentation} {last : Segment} (found : g.last? = some last)
    (nonEmpty : last.start < last.stop) (short : last.stop < g.input.utf8ByteSize) :
    g.forward = (true, { g with segments := g.segments ++ [Segment.new last.stop last.stop] }) := by
  have notEmpty : last.isEmptySpan = false := by simp [Segment.isEmptySpan, Nat.ne_of_lt nonEmpty]
  have unfinished : g.finished = false := by simp [finished, currentEnd, found, short]
  simp [forward, found, notEmpty, unfinished]

theorem forward_of_finished {g : Segmentation} {last : Segment} (found : g.last? = some last)
    (reaches : g.input.utf8ByteSize ≤ last.stop) : g.forward = (false, g) := by
  have done : g.finished = true := by simp [finished, currentEnd, found, reaches]
  simp [forward, found, done]

end Segmentation

namespace Session

deriving instance DecidableEq for Command

def chosen? (s : Session) (index : Nat) : Option Candidate :=
  match s.context.segmentation.last? with
  | none => none
  | some seg =>
    match seg.select index with
    | (true, seg') => seg'.selected
    | (false, _) => none

def chosenAfter (s : Session) (picks : List Candidate) (line : String) : List Candidate :=
  match Command.ofLine line with
  | .compose _ => []
  | .select index => picks ++ (s.chosen? index).toList
  | _ => picks

def chosenSince (s : Session) (picks : List Candidate) : List (String × Nat) → List Candidate
  | [] => picks
  | (line, now) :: rest => (s.execute line now).2.chosenSince (s.chosenAfter picks line) rest

/-- A composition under way: the segments closed so far hold the candidates chosen, which tile
    the input up to the round in progress; the round's segment reaches the end of the input,
    and its menu offers only spans of the round. -/
structure Rounds (g : Segmentation) (picks : List Candidate) (closed : List Segment)
    (round : Segment) : Prop where
  segments : g.segments = closed ++ [round]
  chosen : closed.map Segment.selected = picks.map some
  tiles : Tiles 0 picks round.start
  stop : round.stop = g.input.utf8ByteSize
  offers : ∀ m ∈ round.menu, m.Within (InRound round.start round.stop)

/-- What a session keeps of its composition along every run: no segments, or rounds. -/
structure Composition (s : Session) (picks : List Candidate) : Prop where
  input : s.context.segmentation.input = s.context.input
  rounds : s.context.segmentation.segments = [] ∨
    ∃ closed round, Rounds s.context.segmentation picks closed round

theorem composition_create (table : CodeTable) (chain : FilterChain) (registry : Registry)
    (files : Files) (pageSize : Nat) (picks : List Candidate) :
    Composition (create table chain registry files pageSize) picks :=
  ⟨rfl, .inl rfl⟩

theorem Composition.of_same {s s' : Session} {picks : List Candidate} (c : Composition s picks)
    (segmentation : s'.context.segmentation = s.context.segmentation)
    (input : s'.context.input = s.context.input) : Composition s' picks := by
  obtain ⟨sameInput, rounds⟩ := c
  exact ⟨segmentation ▸ input ▸ sameInput, segmentation ▸ rounds⟩

theorem composition_withLast {s : Session} {picks : List Candidate} {closed : List Segment}
    (inputs : s.context.segmentation.input = s.context.input)
    (segments : s.context.segmentation.segments.dropLast = closed)
    (chosen : closed.map Segment.selected = picks.map some) (round : Segment)
    (tiles : Tiles 0 picks round.start) (stop : round.stop = s.context.input.utf8ByteSize)
    (offers : ∀ m ∈ round.menu, m.Within (InRound round.start round.stop)) :
    Composition (s.withLast round) picks := by
  refine ⟨inputs, .inr ⟨closed, round, ?_, chosen, tiles, stop.trans (congrArg _ inputs.symm), offers⟩⟩
  simp [withLast, withSegmentation, segments]

theorem Rounds.last {g : Segmentation} {picks : List Candidate} {closed : List Segment}
    {round : Segment} (rounds : Rounds g picks closed round) : g.last? = some round := by
  rw [Segmentation.last?, rounds.segments, List.getLast?_concat]

/-! ## Opening a round -/

theorem addSegment_first {g : Segmentation} (empty : g.segments = []) {len : Nat}
    (atEnd : g.input.utf8ByteSize = len) (tags : List String) :
    g.currentStart = 0 ∧
      g.addSegment (Segment.tagged 0 len tags) =
        (true, { g with segments := [] ++ [Segment.tagged 0 len tags] }) := by
  have last : g.last? = none := by rw [Segmentation.last?, empty, List.getLast?_nil]
  refine ⟨by simp [Segmentation.currentStart, last], ?_⟩
  simp [Segmentation.addSegment, Segmentation.currentStart, last, Segment.tagged, Segment.new,
    empty, atEnd]

theorem addSegment_after_forward {g : Segmentation} {prior : List Segment} {e : Nat}
    (segments : g.segments = prior ++ [Segment.new e e]) {len : Nat}
    (atEnd : g.input.utf8ByteSize = len) (short : e < len) (tags : List String) :
    g.currentStart = e ∧
      g.addSegment (Segment.tagged e len tags) =
        (true, { g with segments := prior ++ [Segment.tagged e len tags] }) := by
  have last : g.last? = some (Segment.new e e) := by
    rw [Segmentation.last?, segments, List.getLast?_concat]
  have start : g.currentStart = e := by
    simp [Segmentation.currentStart, last, Segment.isEmptySpan, Segment.new]
  have within : ¬ len < e := by omega
  refine ⟨start, ?_⟩
  simp [Segmentation.addSegment, start, last, Segment.tagged, Segment.new, segments, short, within,
    atEnd]

theorem within_roundQuery (table : CodeTable) (input : String) (e : Nat) :
    (table.query (String.ofList (dropBytes input.toList e)) e).Within
      (InRound e input.utf8ByteSize) := by
  refine (table.within_query _ e).mono fun a b ⟨start, after, fits⟩ => ⟨start, after, ?_⟩
  rw [String.utf8ByteSize_ofList] at fits
  -- the rest of the input is not empty, since a candidate ends after the round's start
  have left : dropBytes input.toList e ≠ [] := by
    intro nothing
    rw [nothing, String.utf8Len_nil] at fits
    omega
  have rest := dropBytes_size left
  rw [String.utf8Len_toList] at rest
  omega

theorem composition_openRound {s : Session} {picks : List Candidate} {closed : List Segment}
    {e : Nat} (now : Nat) (inputs : s.context.segmentation.input = s.context.input)
    (start : s.context.segmentation.currentStart = e)
    (added : s.context.segmentation.addSegment
        (Segment.tagged e s.context.input.utf8ByteSize [sessionTag]) =
      (true, { s.context.segmentation with
        segments := closed ++ [Segment.tagged e s.context.input.utf8ByteSize [sessionTag]] }))
    (chosen : closed.map Segment.selected = picks.map some) (tiles : Tiles 0 picks e) :
    Composition (s.openRound now) picks := by
  unfold openRound
  dsimp only
  rw [start, added]
  dsimp only
  simp only [Segmentation.last?, List.getLast?_concat]
  refine composition_withLast ?inputs ?segments chosen _ ?tiles ?stop ?offers
  case inputs => exact inputs
  case segments => exact List.dropLast_concat
  case tiles => exact tiles
  case stop => rfl
  -- the round's menu plays the filtered candidates of the table for the rest of the input
  case offers =>
    exact (Menu.within_ofStream (FilterChain.within_apply _ _ _ _ _ (within_roundQuery _ _ _))).mem_some

theorem composition_listCandidates {s : Session} {picks : List Candidate}
    (c : Composition s picks) (count : Nat) : Composition (s.listCandidates count).2 picks := by
  rcases c.rounds with empty | ⟨closed, round, rounds⟩
  · have last : s.context.segmentation.last? = none := by
      rw [Segmentation.last?, empty, List.getLast?_nil]
    simpa only [listCandidates, last] using c
  · unfold listCandidates
    rw [rounds.last]
    dsimp only
    split
    · exact c
    · next m menu =>
      refine composition_withLast c.input (by rw [rounds.segments, List.dropLast_concat])
        rounds.chosen _ rounds.tiles (rounds.stop.trans (congrArg _ c.input))
        ((rounds.offers m menu).prepare count).mem_some

theorem composition_compose (s : Session) (input : String) (now : Nat) :
    Composition (s.compose input now).2 [] := by
  unfold compose
  apply composition_listCandidates
  have first := addSegment_first (g := { input }) rfl rfl [sessionTag]
  exact composition_openRound now rfl first.1 first.2 rfl rfl

/-! ## Committing -/

/-- What a commit of `picks` under `kind` leaves: the report of their texts, the newest record,
    and no composition. -/
structure Commits (result : List String × Session) (picks : List Candidate) (kind : String) :
    Prop where
  report : result.1 = ["commit: " ++ String.join (picks.map Candidate.text)]
  record : result.2.context.history.records.getLast? =
    some ⟨kind, String.join (picks.map Candidate.text)⟩
  input : result.2.context.input = ""
  segmentation : result.2.context.segmentation = {}

theorem commits_commit {s : Session} {picks : List Candidate} {final : Candidate}
    (texts : s.context.segmentation.segments.filterMap Segment.selected = picks)
    (last : s.context.segmentation.segments.getLast?.bind Segment.selected = some final) :
    Commits s.commit picks final.kind := by
  have kind : ((s.context.segmentation.segments.getLast?.bind Segment.selected).map
      Candidate.kind).getD "table" = final.kind := by
    rw [last]
    rfl
  -- with auto context on, the commit also sets the host's text, which leaves the rest alone
  have context : s.commit.2.context.history = s.context.history.push final.kind
        (String.join (picks.map Candidate.text)) ∧
      s.commit.2.context.input = "" ∧ s.commit.2.context.segmentation = {} := by
    unfold commit
    dsimp only
    rw [kind, texts]
    split <;> exact ⟨rfl, rfl, rfl⟩
  refine ⟨by rw [commit_fst, pendingText, texts], ?_, context.2.1, context.2.2⟩
  rw [context.1, Context.records_push, historyCapacity, Context.getLast?_rtake_succ,
    List.getLast?_concat]

theorem Commits.composition {result : List String × Session} {picks : List Candidate}
    {kind : String} (commits : Commits result picks kind) (picks' : List Candidate) :
    Composition result.2 picks' :=
  ⟨by rw [commits.segmentation, commits.input], .inl (by rw [commits.segmentation])⟩

theorem filterMap_selected {closed : List Segment} {picks : List Candidate}
    (chosen : closed.map Segment.selected = picks.map some) :
    closed.filterMap Segment.selected = picks := by
  have listed := congrArg (List.filterMap id) chosen
  simpa [List.filterMap_map] using listed

/-! ## Selecting -/

/-- A selection either chooses nothing and keeps the composition, or chooses a candidate of the
    round that ends inside the input and opens the next round after it, or chooses one that ends
    at the end of the input and commits every candidate chosen, which then tile the input. -/
theorem select_outcomes {s : Session} {picks : List Candidate} (c : Composition s picks)
    (index now : Nat) :
    (s.chosen? index = none ∧ committedReport (s.select index now).1 = none ∧
        Composition (s.select index now).2 picks) ∨
      (∃ cand, s.chosen? index = some cand ∧ cand.stop < s.context.input.utf8ByteSize ∧
        committedReport (s.select index now).1 = none ∧
        Composition (s.select index now).2 (picks ++ [cand])) ∨
      (∃ cand, s.chosen? index = some cand ∧ cand.stop = s.context.input.utf8ByteSize ∧
        Tiles 0 (picks ++ [cand]) cand.stop ∧
        Commits (s.select index now) (picks ++ [cand]) cand.kind) := by
  rcases c.rounds with empty | ⟨closed, round, rounds⟩
  · -- there is nothing to select from
    have last : s.context.segmentation.last? = none := by
      rw [Segmentation.last?, empty, List.getLast?_nil]
    refine .inl ⟨by simp [chosen?, last], ?_, ?_⟩
    · simp only [select, last]
      exact committedReport_noComposition
    · simpa only [select, last] using c
  have last := rounds.last
  have choice := Segment.select_within rounds.offers index
  have start := Segment.start_select index round
  have stop := Segment.stop_select index round
  rcases selecting : round.select index with ⟨_ | _, seg⟩
  · -- a failed selection only caches more of the round's menu
    rw [selecting] at choice start stop
    dsimp only at choice start stop
    have result : s.select index now =
        (["no candidate #" ++ toString (index + 1) ++ "."], s.withLast seg) := by
      simp [select, last, selecting]
    refine .inl ⟨by simp [chosen?, last, selecting], ?_, ?_⟩
    · rw [result]
      exact afterPrefix?_commit_of_head (c := 'n') (by simp [String.toList_append]) (by decide)
    · rw [result]
      exact composition_withLast c.input (by rw [rounds.segments, List.dropLast_concat])
        rounds.chosen seg (start ▸ rounds.tiles) (stop.trans (rounds.stop.trans (congrArg _ c.input)))
        (start ▸ stop ▸ choice.1)
  rw [selecting] at choice start stop
  dsimp only at choice start stop
  obtain ⟨cand, picked, candStart, after, within⟩ := choice.2 rfl
  have chosen : s.chosen? index = some cand := by simp [chosen?, last, selecting, picked]
  have inputEnd : round.stop = s.context.input.utf8ByteSize := rounds.stop.trans (congrArg _ c.input)
  -- the round closes on the candidate: the segments are the closed ones and the closed round
  have closedSegments : (s.withLast seg.close.2).context.segmentation.segments =
      closed ++ [seg.close.2] := by
    simp [withLast, withSegmentation, rounds.segments]
  have closedLast : (s.withLast seg.close.2).context.segmentation.last? = some seg.close.2 := by
    rw [Segmentation.last?, closedSegments, List.getLast?_concat]
  have closedPicked : seg.close.2.selected = some cand := by rw [Segment.selected_close, picked]
  by_cases short : cand.stop < s.context.input.utf8ByteSize
  · -- the candidate ends inside the input: the next round opens at its end
    have closedStop : seg.close.2.stop = cand.stop := by
      rw [Segment.stop_close picked, if_pos ⟨by omega, by omega⟩]
    have opened := Segmentation.forward_of_short closedLast
      (by rw [Segment.start_close, closedStop]; omega) (by rw [closedStop]; exact c.input ▸ short)
    rw [closedStop] at opened
    have result : s.select index now =
        (((s.withLast seg.close.2).withSegmentation { (s.withLast seg.close.2).context.segmentation with
          segments := (s.withLast seg.close.2).context.segmentation.segments ++
            [Segment.new cand.stop cand.stop] }).openRound now).listCandidates
          (s.withLast seg.close.2).pageSize := by
      simp only [select, last, selecting, opened]
    refine .inr (.inl ⟨cand, chosen, short, ?_, ?_⟩)
    · rw [result]
      exact committedReport_listCandidates _ _
    · rw [result]
      apply composition_listCandidates
      have next := addSegment_after_forward (g := { (s.withLast seg.close.2).context.segmentation with
          segments := (s.withLast seg.close.2).context.segmentation.segments ++
            [Segment.new cand.stop cand.stop] })
        rfl (congrArg _ c.input) short [sessionTag]
      refine composition_openRound now c.input next.1 next.2 ?_ ?_
      · rw [closedSegments]
        simp [rounds.chosen, closedPicked]
      · exact rounds.tiles.snoc candStart after
  · -- the candidate reaches the end of the input: the selection commits
    have reaches : cand.stop = s.context.input.utf8ByteSize := by omega
    have closedStop : seg.close.2.stop = s.context.input.utf8ByteSize := by
      rw [Segment.stop_close picked]
      split <;> omega
    have finished := Segmentation.forward_of_finished closedLast
      (by rw [closedStop]; exact Nat.le_of_eq (congrArg _ c.input))
    have result : s.select index now = (s.withLast seg.close.2).commit := by
      simp only [select, last, selecting, finished]
    refine .inr (.inr ⟨cand, chosen, reaches, rounds.tiles.snoc candStart after, ?_⟩)
    rw [result]
    apply commits_commit
    · rw [closedSegments, List.filterMap_append, filterMap_selected rounds.chosen]
      simp [closedPicked]
    · rw [closedSegments, List.getLast?_concat]
      exact closedPicked

/-! ## Runs -/

theorem composition_execute {s : Session} {picks : List Candidate} (c : Composition s picks)
    (line : String) (now : Nat) : Composition (s.execute line now).2 (s.chosenAfter picks line) := by
  unfold execute chosenAfter
  cases Command.ofLine line with
  | select index =>
    rcases select_outcomes c index now with ⟨nothing, _, kept⟩ | ⟨cand, picked, _, _, next⟩ |
      ⟨cand, picked, _, _, commits⟩
    · simpa [perform, nothing] using kept
    · simpa [perform, picked] using next
    · simpa [perform, picked] using commits.composition (picks ++ [cand])
  | compose input =>
    dsimp only [perform]
    exact composition_compose s input now
  | listAll =>
    dsimp only [perform]
    exact composition_listCandidates c maxListed
  | setOption name value =>
    exact c.of_same (Context.segmentation_setOption _ _ _) (Context.input_setOption _ _ _)
  | blank | badNumber _ | setContext _ _ | clearContext | showContext | autoContext _ =>
    exact c.of_same rfl rfl

theorem composition_executeAll {s : Session} {picks : List Candidate} (c : Composition s picks)
    (lines : List (String × Nat)) : Composition (s.executeAll lines) (s.chosenSince picks lines) := by
  induction lines generalizing s picks with
  | nil => exact c
  | cons step rest inductionHypothesis =>
    obtain ⟨line, now⟩ := step
    rw [executeAll, chosenSince]
    exact inductionHypothesis (composition_execute c line now)

/-! ## The law of commits -/

/-- What a `select candidate` line does to a session whose rounds since the last input chose
    `picks`: a candidate it chooses is committed exactly when it ends at the end of the input,
    and a commit reports the texts of all the chosen candidates, which tile the input, records
    them under the kind of the last one, and ends the composition. -/
structure SelectLaw (s : Session) (picks : List Candidate) (line : String) (index now : Nat) :
    Prop where
  commits_iff : ∀ c, s.chosen? index = some c →
    ((committedBy line (s.execute line now).1).isSome ↔ c.stop = s.context.input.utf8ByteSize)
  commit : ∀ text, committedBy line (s.execute line now).1 = some text →
    ∃ c, s.chosen? index = some c ∧ Tiles 0 (picks ++ [c]) s.context.input.utf8ByteSize ∧
      text = String.join ((picks ++ [c]).map Candidate.text) ∧
      (s.execute line now).2.context.history.records.getLast? = some ⟨c.kind, text⟩ ∧
      (s.execute line now).2.context.isComposing = false ∧
      (s.execute line now).2.context.internalPreceding = text

theorem selectLaw_of_composition {s : Session} {picks : List Candidate} (c : Composition s picks)
    {line : String} {index : Nat} (selecting : Command.ofLine line = .select index) (now : Nat) :
    SelectLaw s picks line index now := by
  have run : s.execute line now = s.select index now := by rw [execute, selecting]; rfl
  have report : ∀ out, committedBy line out = committedReport out := by
    intro out
    rw [committedBy, selecting]
  refine ⟨fun cand picked => ?_, fun text committed => ?_⟩
  · rw [report, run]
    rcases select_outcomes c index now with ⟨nothing, _, _⟩ | ⟨cand', picked', short, silent, _⟩ |
      ⟨cand', picked', reaches, _, commits⟩
    · rw [picked] at nothing
      cases nothing
    · rw [picked, Option.some.injEq] at picked'
      subst picked'
      rw [silent]
      simp only [Option.isSome_none, Bool.false_eq_true, false_iff]
      omega
    · rw [picked, Option.some.injEq] at picked'
      subst picked'
      simp [commits.report, committedReport_commit, reaches]
  · rw [report, run] at committed
    rw [run]
    rcases select_outcomes c index now with ⟨_, silent, _⟩ | ⟨_, _, _, silent, _⟩ |
      ⟨cand, picked, reaches, tiles, commits⟩
    · rw [silent] at committed
      cases committed
    · rw [silent] at committed
      cases committed
    · rw [commits.report, committedReport_commit, Option.some.injEq] at committed
      subst committed
      refine ⟨cand, picked, reaches ▸ tiles, rfl, commits.record, ?_, ?_⟩
      · simp [Context.isComposing, commits.input]
      · simp [Context.internalPreceding, History.latestText, commits.record]

/-- Along every run of command lines from a new session, over any code table and filter chain,
    a `select candidate` line commits exactly when the candidate it chooses ends at the end of
    the input; a commit reports the texts of the candidates chosen since the last input line, in
    order, whose spans run from zero to the end of the input each starting where the one before
    ended, records them under the kind of the last one, and ends the composition. -/
theorem executeAll_commits_tile (table : CodeTable) (chain : FilterChain) (registry : Registry)
    (files : Files) (pageSize : Nat) (lines : List (String × Nat)) {line : String} {index : Nat}
    (selecting : Command.ofLine line = .select index) (now : Nat) :
    SelectLaw ((create table chain registry files pageSize).executeAll lines)
      ((create table chain registry files pageSize).chosenSince [] lines) line index now :=
  selectLaw_of_composition
    (composition_executeAll (composition_create table chain registry files pageSize []) lines)
    selecting now

/-- Typing `ab` into a table that knows `a` and `b` apart and picking the first candidate of each
    round: the second selection commits both. -/
theorem selectLaw_two_rounds :
    Command.ofLine "select candidate 1" = .select 0 ∧
      SelectLaw ((create { buckets := [("a", [⟨"甲", 0⟩]), ("b", [⟨"乙", 0⟩])] } {} {} {} 5).executeAll
          [("ab", 0), ("select candidate 1", 0)])
        ((create { buckets := [("a", [⟨"甲", 0⟩]), ("b", [⟨"乙", 0⟩])] } {} {} {} 5).chosenSince []
          [("ab", 0), ("select candidate 1", 0)])
        "select candidate 1" 0 0 :=
  have selecting : Command.ofLine "select candidate 1" = .select 0 := by decide +kernel
  ⟨selecting, executeAll_commits_tile _ _ _ _ _ _ selecting 0⟩

example : committedBy "select candidate 1"
    (((create { buckets := [("a", [⟨"甲", 0⟩]), ("b", [⟨"乙", 0⟩])] } {} {} {} 5).executeAll
      [("ab", 0), ("select candidate 1", 0)]).execute "select candidate 1" 0).1 = some "甲乙" := by
  decide +kernel

end Session

end InputMethod

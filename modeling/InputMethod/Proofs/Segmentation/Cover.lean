import InputMethod.Segmentation.Basic
import Mathlib.Data.List.Chain

/-! # Segmentations cover their input

A segmentation grows its segments round by round from the start of the input, one after
another. Two invariants hold along every run of commands:

* `Segmentation.Bounded`: every segment's span runs forward within the length it was opened
  with, and that opened end fits in a word, whichever segment the segment commands act on;
* `Segmentation.Covers`: while segment commands act on the last segment, the segments also
  start at zero, each starts where the one before it ends, and each starts within the input,
  so every segment but the last ends within the input.

The last segment need not end within the input. `amend` keeps a segment by where it ends now,
and a selection closed short of its span has moved that end back; reopening the segment after
the input was cut puts the end back past the new input (`reopen_overruns_amended_input`).

Each invariant is carried by one lemma per command, built from what a command may do to the
list of segments: keep a prefix of it, append a segment, or replace the last one.
-/

namespace InputMethod

namespace Segment

/-! ## Spans -/

/-- A span that runs forward, within the length it was opened with, and whose opened end fits
    in a word. -/
def Sound (s : Segment) : Prop :=
  s.start ≤ s.stop ∧ s.stop ≤ s.start + s.length ∧ s.start + s.length ≤ wordMax

def Respans (s t : Segment) : Prop :=
  t.start = s.start ∧ t.length = s.length ∧
    (t.stop = s.stop ∨ (s.start < t.stop ∧ t.stop < s.stop) ∨ t.stop = s.start + s.length)

theorem Respans.of_span {s t : Segment} (start : t.start = s.start) (stop : t.stop = s.stop)
    (length : t.length = s.length) : Respans s t :=
  ⟨start, length, .inl stop⟩

theorem Sound.respans {s t : Segment} (sound : s.Sound) (respans : Respans s t) : t.Sound := by
  obtain ⟨start, length, stop⟩ := respans
  unfold Sound at sound ⊢
  rcases stop with same | inside | restored <;> omega

theorem respans_prepare (count : Nat) (s : Segment) : Respans s (s.prepare count).2 := by
  unfold prepare
  split
  · exact .of_span rfl rfl rfl
  · exact .of_span rfl rfl rfl

theorem respans_select (index : Nat) (s : Segment) : Respans s (s.select index).2 := by
  unfold select
  split
  · exact .of_span rfl rfl rfl
  · split
    · exact .of_span rfl rfl rfl
    · dsimp only
      split <;> exact .of_span rfl rfl rfl

theorem respans_close (s : Segment) : Respans s s.close.2 := by
  unfold close
  split
  · exact .of_span rfl rfl rfl
  · next candidate _ =>
    dsimp only
    split
    · next inside =>
      simp only [Bool.and_eq_true, decide_eq_true_eq] at inside
      exact ⟨rfl, rfl, .inr (.inl inside)⟩
    · exact .of_span rfl rfl rfl

theorem respans_reopen (caret : Nat) (s : Segment) : Respans s (s.reopen caret).2 := by
  unfold reopen
  split
  · exact .of_span rfl rfl rfl
  · by_cases shorter : s.stop < s.start + s.length
    · simp only [shorter, if_true]
      exact ⟨rfl, rfl, .inr (.inr rfl)⟩
    · simp only [shorter, if_false]
      exact .of_span rfl rfl rfl

theorem sound_new_stop {s : Segment} (sound : s.Sound) : (new s.stop s.stop).Sound := by
  unfold Sound at sound ⊢
  simp only [new, Nat.sub_self, Nat.add_zero]
  omega

theorem sound_tagged {start stop : Nat} (tags : List String) (forward : start ≤ stop)
    (fits : stop ≤ wordMax) : (tagged start stop tags).Sound := by
  unfold Sound
  simp only [tagged, new]
  omega

end Segment

namespace Segmentation

theorem SegmentCommand.respans_run (c : SegmentCommand) (s : Segment) :
    Segment.Respans s (c.run s).2 := by
  cases c with
  | prepare count =>
    have prepared := Segment.respans_prepare count s
    simp only [SegmentCommand.run]
    split <;> next found => rw [found] at prepared; exact prepared
  | select index => exact Segment.respans_select index s
  | close => exact Segment.respans_close s
  | reopen caret => exact Segment.respans_reopen caret s
  | setStatus | setPrompt | setMenu | dropMenu | clear | hasTag | hasAnyTagIn | candidateAt =>
    exact .of_span rfl rfl rfl

/-! ## The invariants -/

/-- Every segment is sound, and the input fits in a word. -/
structure Bounded (g : Segmentation) : Prop where
  fits : g.input.utf8ByteSize ≤ wordMax
  sound : ∀ s ∈ g.segments, s.Sound

/-- The segments cover the input from its start, one after another. -/
structure Covers (g : Segmentation) : Prop extends g.Bounded where
  origin : ∀ s ∈ g.segments.head?, s.start = 0
  chained : g.segments.IsChain fun a b => a.stop = b.start
  starts : ∀ s ∈ g.segments, s.start ≤ g.input.utf8ByteSize

theorem stop_eq_start_of_mem_dropLast {l : List Segment}
    (chained : l.IsChain fun a b => a.stop = b.start) {s : Segment} (member : s ∈ l.dropLast) :
    ∃ t ∈ l, s.stop = t.start := by
  induction l with
  | nil => simp at member
  | cons a rest inductionHypothesis =>
    cases rest with
    | nil => simp at member
    | cons b rest =>
      rw [List.isChain_cons_cons] at chained
      rw [List.dropLast_cons_cons, List.mem_cons] at member
      rcases member with rfl | later
      · exact ⟨b, by simp, chained.1⟩
      · obtain ⟨t, found, same⟩ := inductionHypothesis chained.2 later
        exact ⟨t, List.mem_cons_of_mem a found, same⟩

theorem stop_le_of_chained {l : List Segment} (chained : l.IsChain fun a b => a.stop = b.start)
    (forward : ∀ s ∈ l, s.start ≤ s.stop) : ∀ s ∈ l, ∀ t ∈ l.getLast?, s.stop ≤ t.stop := by
  induction l with
  | nil => simp
  | cons a rest inductionHypothesis =>
    cases rest with
    | nil =>
      intro s member t last
      simp only [List.mem_singleton] at member
      simp only [List.getLast?_singleton, Option.mem_def, Option.some.injEq] at last
      rw [member, last]
    | cons b rest =>
      rw [List.isChain_cons_cons] at chained
      have later := inductionHypothesis chained.2 fun s member => forward s (by simp [member])
      intro s member t last
      rw [List.getLast?_cons_cons] at last
      rcases List.mem_cons.mp member with rfl | inRest
      · calc s.stop = b.start := chained.1
          _ ≤ b.stop := forward b (by simp)
          _ ≤ t.stop := later b (by simp) t last
      · exact later s inRest t last

theorem Covers.stop_le_of_mem_dropLast {g : Segmentation} (covers : g.Covers) {s : Segment}
    (member : s ∈ g.segments.dropLast) : s.stop ≤ g.input.utf8ByteSize := by
  obtain ⟨t, found, same⟩ := stop_eq_start_of_mem_dropLast covers.chained member
  rw [same]
  exact covers.starts t found

/-! ## What a command does to the segments -/

theorem set_length_sub_one {l : List Segment} {s : Segment} (last : l.getLast? = some s)
    (t : Segment) : l.set (l.length - 1) t = l.dropLast ++ [t] := by
  obtain ⟨init, rfl⟩ := List.getLast?_eq_some_iff.mp last
  simp [List.set_append_right]

theorem forward_cases (g : Segmentation) :
    g.forward.2 = g ∨ ∃ s, g.last? = some s ∧ s.stop < g.input.utf8ByteSize ∧
      g.forward.2 = { g with segments := g.segments ++ [Segment.new s.stop s.stop] } := by
  unfold forward
  split
  · exact .inl rfl
  · next s last =>
    split
    · exact .inl rfl
    · next notDone =>
      simp only [Bool.or_eq_true, not_or, finished, currentEnd, last, Option.elim,
        decide_eq_true_eq, Nat.not_le] at notDone
      exact .inr ⟨s, last, notDone.2, rfl⟩

theorem trim_cases (g : Segmentation) :
    g.trim.2 = g ∨ g.trim.2 = { g with segments := g.segments.dropLast } := by
  unfold trim
  split
  · split
    · exact .inl rfl
    · exact .inr rfl
  · exact .inl rfl

theorem addSegment_cases (seg : Segment) (g : Segmentation) :
    (g.addSegment seg).2 = g ∨
    (seg.start ≤ seg.stop ∧ seg.stop ≤ g.input.utf8ByteSize ∧
      ((∃ s t, g.last? = some s ∧ t.start = s.start ∧ (t = seg ∨ Segment.Respans s t) ∧
          (g.addSegment seg).2 = { g with segments := g.segments.dropLast ++ [t] }) ∨
        ((∀ s ∈ g.last?, s.stop = seg.start) ∧ (g.last? = none → seg.start = 0) ∧
          (g.addSegment seg).2 = { g with segments := g.segments ++ [seg] }))) := by
  generalize added : g.addSegment seg = result
  unfold addSegment at added
  dsimp only at added
  split at added
  · exact .inl (by rw [← added])
  · next accepted =>
    simp only [Bool.or_eq_true, bne_iff_ne, ne_eq, decide_eq_true_eq, not_or, Nat.not_lt,
      Classical.not_not] at accepted
    obtain ⟨⟨atStart, within⟩, forward⟩ := accepted
    subst added
    split
    · next s last =>
      have roundStart : g.currentStart = if s.isEmptySpan || s.status == .void then s.start
          else s.stop := by simp [currentStart, last]
      split
      · next sameStart =>
        simp only [beq_iff_eq] at sameStart
        split
        · exact .inr ⟨forward, within, .inl ⟨s, seg, last, atStart.trans sameStart.symm, .inl rfl, rfl⟩⟩
        · split
          · exact .inr ⟨forward, within, .inl ⟨s, { s with tags := Tags.union s.tags seg.tags }, last,
              rfl, .inr (.of_span rfl rfl rfl), rfl⟩⟩
          · exact .inl rfl
      -- a segment after the last one starts where the round starts, which is the last one's end
      · next otherStart =>
        simp only [beq_iff_eq] at otherStart
        refine .inr ⟨forward, within, .inr ⟨fun t found => ?_, by simp [last], rfl⟩⟩
        rw [last, Option.mem_def, Option.some.injEq] at found
        subst found
        split at roundStart
        · exact absurd roundStart.symm otherStart
        · omega
    · next last =>
      have roundStart : g.currentStart = 0 := by simp [currentStart, last]
      exact .inr ⟨forward, within, .inr ⟨fun t found => by simp [last] at found, fun _ => by omega, rfl⟩⟩

/-! ## What `amend` keeps -/

theorem length_toList_loop (bytes : ByteArray) (i : Nat) (r : List UInt8) :
    (ByteArray.toList.loop bytes i r).length = r.length + (bytes.size - i) := by
  fun_induction ByteArray.toList.loop bytes i r with
  | case1 i r within inductionHypothesis =>
    rw [inductionHypothesis, List.length_cons]
    omega
  | case2 i r beyond =>
    rw [List.length_reverse]
    omega

theorem commonPrefixBytes_le (a b : String) : commonPrefixBytes a b ≤ b.utf8ByteSize := by
  have listed : b.toUTF8.toList.length = b.utf8ByteSize := by
    unfold ByteArray.toList
    rw [length_toList_loop]
    simp
  unfold commonPrefixBytes
  calc _ ≤ (a.toUTF8.toList.zip b.toUTF8.toList).length := (List.takeWhile_sublist _).length_le
    _ ≤ b.toUTF8.toList.length := by rw [List.length_zip]; exact Nat.min_le_right _ _
    _ = b.utf8ByteSize := listed

theorem dropAfter_fst (d : Nat) (segments : List Segment) :
    (dropAfter d segments).1 = (segments.reverse.dropWhile fun s => d < s.stop).reverse := rfl

theorem isPrefix_dropAfter (d : Nat) (segments : List Segment) :
    (dropAfter d segments).1 <+: segments := by
  rw [dropAfter_fst, ← List.reverse_suffix, List.reverse_reverse]
  exact List.dropWhile_suffix _

theorem stop_le_of_getLast_dropAfter (d : Nat) (segments : List Segment) :
    ∀ s ∈ (dropAfter d segments).1.getLast?, s.stop ≤ d := by
  intro s last
  rw [dropAfter_fst, List.getLast?_reverse, Option.mem_def] at last
  have kept := List.head?_dropWhile_not (fun s => decide (d < s.stop)) segments.reverse
  rw [last] at kept
  simpa using kept

theorem stop_le_of_mem_dropAfter {d : Nat} {segments : List Segment}
    (chained : segments.IsChain fun a b => a.stop = b.start)
    (forward : ∀ s ∈ segments, s.start ≤ s.stop) {s : Segment}
    (member : s ∈ (dropAfter d segments).1) : s.stop ≤ d := by
  have pre := isPrefix_dropAfter d segments
  cases last : (dropAfter d segments).1.getLast? with
  | none => simp [List.getLast?_eq_none_iff.mp last] at member
  | some t =>
    have keptChained := List.IsChain.prefix chained pre
    calc s.stop ≤ t.stop :=
          stop_le_of_chained keptChained (fun x found => forward x (pre.subset found)) s member t last
      _ ≤ d := stop_le_of_getLast_dropAfter d segments t last

/-! ## Bounded segments: one lemma per command -/

namespace Bounded

variable {g : Segmentation}

theorem subset (bounded : g.Bounded) {input : String} {segments : List Segment}
    (fits : input.utf8ByteSize ≤ wordMax) (taken : ∀ s ∈ segments, s ∈ g.segments) :
    ({ input, segments } : Segmentation).Bounded :=
  ⟨fits, fun s member => bounded.sound s (taken s member)⟩

theorem append (bounded : g.Bounded) {t : Segment} (sound : t.Sound) :
    ({ g with segments := g.segments ++ [t] } : Segmentation).Bounded := by
  refine ⟨bounded.fits, fun s member => ?_⟩
  rcases List.mem_append.mp member with old | new
  · exact bounded.sound s old
  · rw [List.mem_singleton.mp new]
    exact sound

theorem set (bounded : g.Bounded) (i : Nat) {t : Segment} (sound : t.Sound) :
    ({ g with segments := g.segments.set i t } : Segmentation).Bounded := by
  refine ⟨bounded.fits, fun s member => ?_⟩
  rcases List.mem_or_eq_of_mem_set member with old | new
  · exact bounded.sound s old
  · rw [new]
    exact sound

theorem sound_added (bounded : g.Bounded) {start stop : Nat} {tags : List String}
    {s t : Segment} (last : g.last? = some s) (forward : start ≤ stop)
    (within : stop ≤ g.input.utf8ByteSize)
    (added : t = Segment.tagged start stop tags ∨ Segment.Respans s t) : t.Sound := by
  rcases added with rfl | respans
  · exact Segment.sound_tagged tags forward (Nat.le_trans within bounded.fits)
  · exact (bounded.sound s (List.mem_of_getLast? last)).respans respans

theorem forward (bounded : g.Bounded) : g.forward.2.Bounded := by
  rcases forward_cases g with same | ⟨s, last, -, opened⟩
  · rw [same]
    exact bounded
  · rw [opened]
    exact bounded.append (Segment.sound_new_stop (bounded.sound s (List.mem_of_getLast? last)))

theorem addSegment (bounded : g.Bounded) (start stop : Nat) (tags : List String) :
    (g.addSegment (Segment.tagged start stop tags)).2.Bounded := by
  rcases addSegment_cases (Segment.tagged start stop tags) g with
    same | ⟨forward, within, ⟨s, t, last, -, added, replaced⟩ | ⟨-, -, appended⟩⟩
  · rw [same]
    exact bounded
  · rw [replaced]
    have kept := bounded.subset bounded.fits fun x found => List.dropLast_subset _ found
    exact kept.append (bounded.sound_added last forward within added)
  · rw [appended]
    exact bounded.append (Segment.sound_tagged tags forward (Nat.le_trans within bounded.fits))

theorem amend (bounded : g.Bounded) {input : String} (fits : input.utf8ByteSize ≤ wordMax) :
    (g.amend input).Bounded := by
  have kept := bounded.subset fits fun s found =>
    (isPrefix_dropAfter (commonPrefixBytes g.input input) g.segments).subset found
  unfold Segmentation.amend
  dsimp only
  split
  · exact kept
  · exact kept.forward

end Bounded

/-! ## Commands -/

def Command.fits : Command → Bool
  | .reset input | .amend input => decide (input.utf8ByteSize ≤ wordMax)
  | _ => true

def Command.aimsAtLast : Command → Bool
  | .onSegment (some _) _ => false
  | _ => true

/-- Any command keeps the segments bounded, whichever segment it acts on. -/
theorem Bounded.perform {g : Segmentation} (bounded : g.Bounded) (c : Command)
    (fits : c.fits = true) : (Segmentation.perform c g).2.Bounded := by
  cases c with
  | reset input =>
    simp only [Command.fits, decide_eq_true_eq] at fits
    exact ⟨fits, by simp [Segmentation.perform, reset]⟩
  | resetTo n => exact bounded.subset bounded.fits fun s found => List.mem_of_mem_take found
  | amend input =>
    simp only [Command.fits, decide_eq_true_eq] at fits
    exact bounded.amend fits
  | addSegment start stop tags => exact bounded.addSegment start stop tags
  | forward => exact bounded.forward
  | trim =>
    rcases trim_cases g with same | dropped
    · rw [Segmentation.perform, same]
      exact bounded
    · rw [Segmentation.perform, dropped]
      exact bounded.subset bounded.fits fun s found => List.dropLast_subset _ found
  | onSegment index command =>
    simp only [Segmentation.perform]
    split
    · exact bounded
    · next s found =>
      exact bounded.set _ ((bounded.sound s (List.mem_of_getElem? found)).respans
        (SegmentCommand.respans_run command s))

/-! ## Covering segments: one lemma per command -/

theorem covers_start {input : String} (fits : input.utf8ByteSize ≤ wordMax) :
    ({ input } : Segmentation).Covers :=
  ⟨⟨fits, by simp⟩, by simp, .nil, by simp⟩

namespace Covers

variable {g : Segmentation}

theorem restrict (covers : g.Covers) {input : String} {segments : List Segment}
    (pre : segments <+: g.segments) (fits : input.utf8ByteSize ≤ wordMax)
    (starts : ∀ s ∈ segments, s.start ≤ input.utf8ByteSize) :
    ({ input, segments } : Segmentation).Covers where
  toBounded := covers.toBounded.subset fits fun s found => pre.subset found
  origin := by
    intro s head
    obtain ⟨rest, whole⟩ := pre
    apply covers.origin
    rw [← whole, List.head?_append, Option.mem_def.mp head]
    rfl
  chained := List.IsChain.prefix covers.chained pre
  starts := starts

/-- Appending a sound segment that starts where the last one ends, or at zero, and within
    the input, keeps the cover. -/
theorem append (covers : g.Covers) {t : Segment} (sound : t.Sound)
    (adjacent : ∀ s ∈ g.last?, s.stop = t.start) (first : g.last? = none → t.start = 0)
    (within : t.start ≤ g.input.utf8ByteSize) :
    ({ g with segments := g.segments ++ [t] } : Segmentation).Covers where
  toBounded := covers.toBounded.append sound
  origin := by
    intro s head
    cases segments : g.segments with
    | nil =>
      simp only [segments, List.nil_append, List.head?_cons, Option.mem_def,
        Option.some.injEq] at head
      rw [← head]
      exact first (by simp [last?, segments])
    | cons a rest =>
      simp only [segments, List.cons_append, List.head?_cons] at head
      exact covers.origin s (by simpa [segments] using head)
  chained := covers.chained.append (.singleton t) (by simpa [last?] using adjacent)
  starts := by
    intro s member
    rcases List.mem_append.mp member with old | new
    · exact covers.starts s old
    · rw [List.mem_singleton.mp new]
      exact within

theorem setLast (covers : g.Covers) {s t : Segment} (last : g.last? = some s)
    (sameStart : t.start = s.start) (sound : t.Sound) :
    ({ g with segments := g.segments.dropLast ++ [t] } : Segmentation).Covers := by
  obtain ⟨init, split⟩ := List.getLast?_eq_some_iff.mp last
  have chained := covers.chained
  rw [split, List.isChain_append] at chained
  have initCovers : ({ g with segments := init } : Segmentation).Covers :=
    covers.restrict ⟨[s], split.symm⟩ covers.fits
      fun x found => covers.starts x (by rw [split]; exact List.mem_append_left _ found)
  have dropped : g.segments.dropLast = init := by rw [split, List.dropLast_concat]
  rw [dropped]
  refine initCovers.append sound (fun x found => ?_) (fun empty => ?_) ?_
  -- the segment before the last one ends where the last one starts
  · rw [sameStart]
    exact chained.2.2 x found s rfl
  -- a last segment with nothing before it is the first
  · rw [sameStart]
    apply covers.origin
    have initEmpty : init = [] := List.getLast?_eq_none_iff.mp empty
    rw [split, initEmpty]
    rfl
  · rw [sameStart]
    exact covers.starts s (List.mem_of_getLast? last)

theorem forward (covers : g.Covers) : g.forward.2.Covers := by
  rcases forward_cases g with same | ⟨s, last, short, opened⟩
  · rw [same]
    exact covers
  · rw [opened]
    refine covers.append
      (Segment.sound_new_stop (covers.sound s (List.mem_of_getLast? last))) ?_ ?_ (Nat.le_of_lt short)
    · intro x found
      rw [last, Option.mem_def, Option.some.injEq] at found
      rw [← found]
      rfl
    · intro none
      rw [last] at none
      cases none

theorem addSegment (covers : g.Covers) (start stop : Nat) (tags : List String) :
    (g.addSegment (Segment.tagged start stop tags)).2.Covers := by
  rcases addSegment_cases (Segment.tagged start stop tags) g with
    same | ⟨forward, within, ⟨s, t, last, sameStart, added, replaced⟩ | ⟨adjacent, first, appended⟩⟩
  · rw [same]
    exact covers
  · rw [replaced]
    exact covers.setLast last sameStart (covers.sound_added last forward within added)
  · rw [appended]
    exact covers.append (Segment.sound_tagged tags forward (Nat.le_trans within covers.fits))
      adjacent first (Nat.le_trans forward within)

theorem amend (covers : g.Covers) {input : String} (fits : input.utf8ByteSize ≤ wordMax) :
    (g.amend input).Covers := by
  have kept : ({ input, segments := (dropAfter (commonPrefixBytes g.input input) g.segments).1 } :
      Segmentation).Covers := by
    refine covers.restrict (isPrefix_dropAfter _ _) fits fun s found => ?_
    have forward : ∀ x ∈ g.segments, x.start ≤ x.stop := fun x member => (covers.sound x member).1
    calc s.start ≤ s.stop := (covers.sound s ((isPrefix_dropAfter _ _).subset found)).1
      _ ≤ commonPrefixBytes g.input input := stop_le_of_mem_dropAfter covers.chained forward found
      _ ≤ input.utf8ByteSize := commonPrefixBytes_le g.input input
  unfold Segmentation.amend
  dsimp only
  split
  · exact kept
  · exact kept.forward

theorem onLast (covers : g.Covers) (command : SegmentCommand) :
    (perform (.onSegment none command) g).2.Covers := by
  simp only [perform, Option.getD_none]
  split
  · exact covers
  · next s found =>
    have last : g.last? = some s := by rw [last?, List.getLast?_eq_getElem?]; exact found
    have respans := SegmentCommand.respans_run command s
    rw [set_length_sub_one last]
    exact covers.setLast last respans.1
      ((covers.sound s (List.mem_of_getLast? last)).respans respans)

/-- A command that fits and acts on the last segment keeps the cover. -/
theorem perform (covers : g.Covers) (c : Command) (fits : c.fits = true)
    (onLast : c.aimsAtLast = true) : (Segmentation.perform c g).2.Covers := by
  cases c with
  | reset input =>
    simp only [Command.fits, decide_eq_true_eq] at fits
    exact covers_start fits
  | resetTo n =>
    exact covers.restrict (List.take_prefix n g.segments) covers.fits
      fun s found => covers.starts s (List.mem_of_mem_take found)
  | amend input =>
    simp only [Command.fits, decide_eq_true_eq] at fits
    exact covers.amend fits
  | addSegment start stop tags => exact covers.addSegment start stop tags
  | forward => exact covers.forward
  | trim =>
    rcases trim_cases g with same | dropped
    · rw [Segmentation.perform, same]
      exact covers
    · rw [Segmentation.perform, dropped]
      exact covers.restrict (List.dropLast_prefix g.segments) covers.fits
        fun s found => covers.starts s (List.dropLast_subset _ found)
  | onSegment index command =>
    cases index with
    | none => exact covers.onLast command
    | some i => cases onLast

end Covers

/-! ## Runs -/

/-- The segmentation after running `commands` one after another from `g`. -/
def performAll : List Command → Segmentation → Segmentation
  | [], g => g
  | c :: rest, g => performAll rest (perform c g).2

/-- A run of commands that fit keeps the segments bounded, whatever segments it acts on. -/
theorem Bounded.performAll {g : Segmentation} (bounded : g.Bounded) (commands : List Command)
    (fits : ∀ c ∈ commands, c.fits = true) : (performAll commands g).Bounded := by
  induction commands generalizing g with
  | nil => exact bounded
  | cons c rest inductionHypothesis =>
    exact inductionHypothesis (bounded.perform c (fits c (by simp)))
      fun c' member => fits c' (List.mem_cons_of_mem c member)

/-- A run of commands that fit and act on the last segment keeps the cover. -/
theorem Covers.performAll {g : Segmentation} (covers : g.Covers) (commands : List Command)
    (fits : ∀ c ∈ commands, c.fits = true) (onLast : ∀ c ∈ commands, c.aimsAtLast = true) :
    (performAll commands g).Covers := by
  induction commands generalizing g with
  | nil => exact covers
  | cons c rest inductionHypothesis =>
    exact inductionHypothesis (covers.perform c (fits c (by simp)) (onLast c (by simp)))
      (fun c' member => fits c' (List.mem_cons_of_mem c member))
      (fun c' member => onLast c' (List.mem_cons_of_mem c member))

/-- Segmentations cover their input. Along every run of commands from the empty segmentation
    whose texts fit in a word, every span runs forward within the length it was opened with,
    and that opened end fits in a word. While segment commands act on the last segment, the
    segments also start at zero, each starts where the one before it ends and within the
    input, and every segment but the last ends within the input. -/
theorem performAll_covers (commands : List Command) (fits : ∀ c ∈ commands, c.fits = true) :
    (∀ s ∈ (performAll commands {}).segments, s.Sound) ∧
    ((∀ c ∈ commands, c.aimsAtLast = true) →
      (performAll commands {}).Covers ∧
      ∀ s ∈ (performAll commands {}).segments.dropLast,
        s.stop ≤ (performAll commands {}).input.utf8ByteSize) := by
  have start : ({} : Segmentation).Covers := covers_start (by decide)
  refine ⟨(start.toBounded.performAll commands fits).sound, fun onLast => ?_⟩
  have covers := start.performAll commands fits onLast
  exact ⟨covers, fun s member => covers.stop_le_of_mem_dropLast member⟩

/-- Two segments grown over a two-letter input, the second from an empty one. -/
theorem covers_two_segments :
    (∀ c ∈ [Command.reset "ab", .addSegment 0 1 [], .forward, .addSegment 1 2 []],
        c.fits = true) ∧
      (∀ s ∈ (performAll [.reset "ab", .addSegment 0 1 [], .forward, .addSegment 1 2 []] {}).segments,
          s.Sound) ∧
      ((∀ c ∈ [Command.reset "ab", .addSegment 0 1 [], .forward, .addSegment 1 2 []],
          c.aimsAtLast = true) →
        (performAll [.reset "ab", .addSegment 0 1 [], .forward, .addSegment 1 2 []] {}).Covers ∧
        ∀ s ∈ (performAll [.reset "ab", .addSegment 0 1 [], .forward,
            .addSegment 1 2 []] {}).segments.dropLast,
          s.stop ≤ (performAll [.reset "ab", .addSegment 0 1 [], .forward,
            .addSegment 1 2 []] {}).input.utf8ByteSize) :=
  ⟨by decide, performAll_covers _ (by decide)⟩

/-- A selection closed at byte 2 of a four-byte span, the input cut to two bytes, and the
    segment reopened: the segment ends at byte 4, past the input, and the segmentation counts
    as finished though no segment ends where the input does. -/
theorem reopen_overruns_amended_input :
    ((performAll [.reset "abcd", .addSegment 0 4 [],
        .onSegment none (.setMenu (Menu.ofStream (.ofList [Candidate.make "test" 0 2 "c0" 0.0]))),
        .onSegment none (.select 0), .onSegment none .close, .amend "ab",
        .onSegment none (.reopen 1)] {}).segments.map fun s => (s.start, s.stop, s.length)) =
        [(0, 4, 4)] ∧
      (performAll [.reset "abcd", .addSegment 0 4 [],
        .onSegment none (.setMenu (Menu.ofStream (.ofList [Candidate.make "test" 0 2 "c0" 0.0]))),
        .onSegment none (.select 0), .onSegment none .close, .amend "ab",
        .onSegment none (.reopen 1)] {}).input.utf8ByteSize = 2 ∧
      (performAll [.reset "abcd", .addSegment 0 4 [],
        .onSegment none (.setMenu (Menu.ofStream (.ofList [Candidate.make "test" 0 2 "c0" 0.0]))),
        .onSegment none (.select 0), .onSegment none .close, .amend "ab",
        .onSegment none (.reopen 1)] {}).finished = true := by
  decide +kernel

end Segmentation

end InputMethod
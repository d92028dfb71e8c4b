import Mathlib
import InputMethod.CodeTable
import InputMethod.Filter.Chain
import InputMethod.Segmentation.Segment
import InputMethod.Proofs.Stream.Playback
import InputMethod.Proofs.Ranking.Debounce
import InputMethod.Proofs.Filter.Simplification

/-! # Spans of the candidates a round offers

A session opens a round at a position of the input and offers the candidates the code table
proposes for the rest of the input, after the filter chain. Whatever a consumer later draws from
that stream, through a menu and its selection, starts where the round starts and ends after it,
within the input. The statement is `Stream.Within`: every candidate a stream yields, however far
it is read, has its span in a given predicate. It holds layer by layer:

* the table's candidates for a code at `offset` start there and end after it, at most at the
  code's end (`CodeTable.within_query`);
* pulling, taking, queueing, concatenating and expanding by an expansion that keeps spans keep
  a stream within;
* the simplifier puts shadows of a candidate in its place, and the ranking filter only reorders
  candidates and rewrites their qualities, so no filter moves a span (`FilterChain.within_apply`);
* a menu caches what its stream yields, so what a segment selects from it is within too
  (`Segment.select_within`).
-/

namespace InputMethod

namespace Candidate

@[simp] theorem start_withQuality (q : Float) (c : Candidate) : (c.withQuality q).start = c.start := by
  cases c <;> rfl

@[simp] theorem stop_withQuality (q : Float) (c : Candidate) : (c.withQuality q).stop = c.stop := by
  cases c <;> rfl

end Candidate

namespace Stream

/-- Every candidate the stream yields, however far a consumer reads it, has its span in `P`. -/
def Within (P : Nat → Nat → Prop) (s : Stream) : Prop :=
  ∀ n, ∀ c ∈ (s.take n).1, P c.start c.stop

variable {P Q : Nat → Nat → Prop}

theorem Within.mono (weaker : ∀ a b, P a b → Q a b) {s : Stream} (within : s.Within P) :
    s.Within Q :=
  fun n c member => weaker _ _ (within n c member)

theorem Within.pull {s s' : Stream} {found : Option Candidate} (within : s.Within P)
    (pulled : s.pull = (found, s')) : (∀ c ∈ found, P c.start c.stop) ∧ s'.Within P := by
  cases found with
  | none =>
    -- a pull that finds nothing leaves the stream exhausted, and then it yields nothing
    refine ⟨fun _ nothing => by simp at nothing, fun n c member => ?_⟩
    rw [take_of_exhausted (exhausted_of_pull_none pulled)] at member
    simp at member
  | some c =>
    refine ⟨fun d found => ?_, fun n d member => ?_⟩
    · rw [Option.mem_def, Option.some.injEq] at found
      subst found
      exact within 1 c (by simp [take_succ_of_pull_some pulled])
    · apply within (n + 1) d
      rw [take_succ_of_pull_some pulled]
      exact List.mem_cons_of_mem c member

theorem Within.take {s : Stream} (within : s.Within P) (m : Nat) : (s.take m).2.Within P :=
  fun n c member => within (m + n) c (by rw [take_add]; exact List.mem_append_right _ member)

theorem within_ofList {cs : List Candidate} (spans : ∀ c ∈ cs, P c.start c.stop) :
    (ofList cs).Within P := by
  intro n c member
  rw [ofList, take_queue] at member
  exact spans c (List.mem_of_mem_take (by simpa using member))

theorem Within.concat_pair {first second : Stream} (firstWithin : first.Within P)
    (secondWithin : second.Within P) : (concat [first, second]).Within P := by
  intro n c member
  rw [take_concat_pair] at member
  rcases List.mem_append.mp member with early | late
  · exact firstWithin n c early
  · exact secondWithin _ c late

theorem Within.expandWith {source : Stream} (expansion : Expansion)
    (keeps : ∀ before c, P c.start c.stop → ∀ d ∈ expansion.forms before c, P d.start d.stop)
    (within : source.Within P) : (expandWith expansion source).Within P := by
  intro n d member
  rw [take_expandWith] at member
  obtain ⟨c, taken, before, formed⟩ := Expansion.mem_play (List.mem_of_mem_take member)
  exact keeps before c (within n c taken) d formed

end Stream

/-! ## The table's candidates -/

namespace CodeTable

@[simp] theorem start_entryCandidate (kind : String) (start stop : Nat) (comment : String)
    (e : TableEntry) : (entryCandidate kind start stop comment e).start = start := rfl

@[simp] theorem stop_entryCandidate (kind : String) (start stop : Nat) (comment : String)
    (e : TableEntry) : (entryCandidate kind start stop comment e).stop = stop := rfl

theorem size_of_mem_properPrefixes {code p : String} (member : p ∈ properPrefixes code) :
    0 < p.utf8ByteSize ∧ p.utf8ByteSize ≤ code.utf8ByteSize := by
  obtain ⟨n, counted, rfl⟩ := List.mem_map.mp member
  simp only [List.mem_reverse, List.mem_drop_iff_getElem, List.getElem_range] at counted
  have bounds : 1 ≤ n ∧ n < code.length := by
    obtain ⟨j, short, rfl⟩ := counted
    simp only [List.length_range] at short
    omega
  rw [String.utf8ByteSize_ofList, ← String.utf8Len_toList]
  constructor
  · -- a prefix of at least one character has at least that character's bytes
    rw [← String.length_toList] at bounds
    cases h : code.toList with
    | nil => simp [h] at bounds
    | cons x xs =>
      obtain ⟨m, rfl⟩ : ∃ m, n = m + 1 := ⟨n - 1, by omega⟩
      rw [List.take_succ_cons, String.utf8Len_cons]
      have := Char.utf8Size_pos x
      omega
  · rw [← List.take_append_drop n code.toList, String.utf8Len_append, List.take_append_drop]
    omega

theorem spans_candidates (t : CodeTable) (code : String) (offset : Nat) :
    ∀ c ∈ t.candidates code offset,
      c.start = offset ∧ offset < c.stop ∧ c.stop ≤ offset + code.utf8ByteSize := by
  intro c member
  unfold candidates at member
  split at member
  · simp at member
  · next nonEmpty =>
    have whole : 0 < code.utf8ByteSize := by
      apply Nat.pos_of_ne_zero
      intro zero
      exact nonEmpty (String.isEmpty_iff.mpr (String.utf8ByteSize_eq_zero_iff.mp zero))
    simp only [List.mem_append, List.mem_flatMap, List.mem_map] at member
    rcases member with (⟨e, _, rfl⟩ | completion) | ⟨p, prefixed, e, _, rfl⟩
    · simpa using whole
    · -- a completion answers for the whole code, like the code's own entries
      obtain ⟨_, _, listed⟩ := List.mem_flatMap.mp (List.mem_of_mem_take completion)
      obtain ⟨e, _, rfl⟩ := List.mem_map.mp listed
      simpa using whole
    · have sized := size_of_mem_properPrefixes prefixed
      simp only [start_entryCandidate, stop_entryCandidate, true_and]
      omega

theorem within_query (t : CodeTable) (code : String) (offset : Nat) :
    (t.query code offset).Within
      (fun a b => a = offset ∧ offset < b ∧ b ≤ offset + code.utf8ByteSize) :=
  Stream.within_ofList (spans_candidates t code offset)

end CodeTable

/-! ## Filters -/

namespace Simplifier

theorem spans_forms (sf : Simplifier) (e : Engine) (fs : Files) (before : List Candidate)
    (c : Candidate) :
    ∀ d ∈ (sf.expansion e fs).forms before c, d.start = c.start ∧ d.stop = c.stop := by
  intro d member
  rw [forms_expansion] at member
  rcases mem_forms sf _ fs c d member with rfl | ⟨text, comment, inherit, quality, rfl⟩
  · exact ⟨rfl, rfl⟩
  · exact ⟨rfl, rfl⟩

end Simplifier

namespace Ranker

theorem collect_take (left right : String) (n : Nat) (g : Grammar) (queries : List Query)
    (s : Stream) :
    (collect left right n g queries s).1.map Prod.fst = (s.take n).1 ∧
      (collect left right n g queries s).2.2.2 = (s.take n).2 := by
  induction n generalizing g queries s with
  | zero => exact ⟨rfl, rfl⟩
  | succ n inductionHypothesis =>
    by_cases exhausted : s.exhausted = true
    · simp [collect, exhausted, Stream.take_of_exhausted exhausted]
    rcases pulled : s.pull with ⟨_ | c, s'⟩
    · simp [collect, exhausted, pulled, Stream.take_succ_of_pull_none pulled]
    · simp only [collect, exhausted, Bool.false_eq_true, if_false, pulled,
        Stream.take_succ_of_pull_some pulled]
      exact ⟨by simp [(inductionHypothesis _ _ _).1], (inductionHypothesis _ _ _).2⟩

theorem spans_arrange (scored : List (Candidate × Float)) :
    ∀ d ∈ arrange scored, ∃ entry ∈ scored, d.start = entry.1.start ∧ d.stop = entry.1.stop := by
  intro d member
  unfold arrange at member
  split at member
  · obtain ⟨entry, listed, rfl⟩ := List.mem_map.mp member
    exact ⟨entry, listed, rfl, rfl⟩
  · -- sorting permutes the entries, and a new quality leaves the span alone
    obtain ⟨entry, sorted, rfl⟩ := List.mem_map.mp member
    exact ⟨entry, List.mem_mergeSort.mp sorted, by simp, by simp⟩

variable {P : Nat → Nat → Prop}

/-- The ranking filter plays candidates of its stream, reordered and rescored, and then the
    rest of the stream, so it keeps the stream within. -/
theorem within_apply (r : Ranker) {s : Stream} (ctx : Option Context) (now : Nat)
    (within : s.Within P) : (r.apply s ctx now).1.stream.Within P := by
  rcases apply_cases r s ctx now with ⟨_, closed⟩ | ⟨_, _, waiting⟩ |
    ⟨g, c, hasGrammar, rfl, _, enabled, live, longEnough, settled, aroundCaret, _⟩
  · rw [closed]
    exact within
  · rw [waiting]
    exact within
  · rw [(apply_of_gates r g s c now hasGrammar enabled live longEnough settled aroundCaret).1]
    have taken := collect_take (leftText c) c.following r.options.maxCandidates g [] s
    generalize collect (leftText c) c.following r.options.maxCandidates g [] s = collected
      at taken ⊢
    obtain ⟨scored, grammar, queries, rest⟩ := collected
    obtain ⟨heads, after⟩ := taken
    simp only at heads after
    have restWithin : rest.Within P := after ▸ within.take _
    split
    · exact restWithin
    · -- every collected candidate was taken off the stream
      refine Stream.Within.concat_pair (Stream.within_ofList fun d member => ?_) restWithin
      obtain ⟨entry, collected, start, stop⟩ := spans_arrange scored d member
      rw [start, stop]
      exact within _ entry.1 (heads ▸ List.mem_map_of_mem collected)

end Ranker

namespace Filter

variable {P : Nat → Nat → Prop}

theorem within_apply (f : Filter) (reg : Registry) (fs : Files) {s : Stream}
    (ctx : Option Context) (now : Nat) (within : s.Within P) :
    (f.apply reg fs s ctx now).1.stream.Within P := by
  cases f with
  | simplifier sf =>
    dsimp only [apply]
    split
    · next on _ =>
      unfold Simplifier.apply
      dsimp only
      rw [if_pos on]
      refine within.expandWith _ fun before c spans d formed => ?_
      obtain ⟨start, stop⟩ := sf.spans_forms _ fs before c d formed
      rw [start, stop]
      exact spans
    · exact within
  | ranking r =>
    have ranked := r.within_apply ctx now within
    dsimp only [apply]
    rcases applied : r.apply s ctx now with ⟨out, r'⟩
    rw [applied] at ranked
    exact ranked

end Filter

namespace FilterChain

variable {P : Nat → Nat → Prop}

theorem within_applyStages (reg : Registry) (fs : Files) (ctx : Option Context) (now : Nat)
    (stages : List (String × Filter)) {acc : Filtered} (within : acc.stream.Within P) :
    (applyStages reg fs ctx now stages acc).2.1.stream.Within P := by
  induction stages generalizing reg acc with
  | nil => exact within
  | cons stage rest inductionHypothesis =>
    obtain ⟨name, f⟩ := stage
    exact inductionHypothesis _ (f.within_apply reg fs ctx now within)

/-- No filter of a chain moves a span. -/
theorem within_apply (c : FilterChain) (reg : Registry) (fs : Files) {s : Stream}
    (ctx : Option Context) (now : Nat) (within : s.Within P) :
    (c.apply reg fs s ctx now).1.stream.Within P :=
  within_applyStages reg fs ctx now c.stages within

end FilterChain

/-! ## Menus and selections -/

namespace Menu

/-- What a menu has cached and what its stream will yield all have their spans in `P`. -/
def Within (P : Nat → Nat → Prop) (m : Menu) : Prop :=
  (∀ c ∈ m.cached, P c.start c.stop) ∧ ∀ s ∈ m.source, s.Within P

variable {P : Nat → Nat → Prop}

theorem within_fill : ∀ (wanted : Nat) (cached : List Candidate) (source : Option Stream),
    (∀ c ∈ cached, P c.start c.stop) → (∀ s ∈ source, s.Within P) →
      (∀ c ∈ (fill wanted cached source).1, P c.start c.stop) ∧
        ∀ s ∈ (fill wanted cached source).2, s.Within P
  | 0, _, _, spans, within => ⟨spans, within⟩
  | _ + 1, _, none, spans, _ => ⟨spans, by simp [fill]⟩
  | wanted + 1, cached, some s, spans, within => by
    rcases pulled : s.pull with ⟨_ | c, s'⟩
    · simp only [fill, pulled]
      exact ⟨spans, by simp⟩
    · -- the pulled candidate joins the cache, and the stream goes on from where it was left
      obtain ⟨found, rest⟩ := (within s rfl).pull pulled
      simp only [fill, pulled]
      refine within_fill wanted (cached ++ [c]) (some s') (fun d member => ?_) (fun t same => ?_)
      · rcases List.mem_append.mp member with old | new
        · exact spans d old
        · rw [List.mem_singleton.mp new]
          exact found c rfl
      · cases same
        exact rest

theorem Within.prepare {m : Menu} (within : m.Within P) (count : Nat) :
    (m.prepare count).2.Within P :=
  within_fill _ _ _ within.1 within.2

theorem Within.mem_some {m : Menu} (within : m.Within P) : ∀ m' ∈ some m, m'.Within P := by
  intro m' same
  rw [Option.mem_def, Option.some.injEq] at same
  exact same ▸ within

theorem within_ofStream {s : Stream} (within : s.Within P) : (ofStream s).Within P :=
  ⟨by simp [ofStream], fun t same => by cases same; exact within⟩

end Menu

namespace Segment

variable {P : Nat → Nat → Prop}

/-- A selection keeps the segment's menu within, and what it selects is within. -/
theorem select_within {seg : Segment} (within : ∀ m ∈ seg.menu, m.Within P) (index : Nat) :
    (∀ m ∈ (seg.select index).2.menu, m.Within P) ∧
      ((seg.select index).1 = true → ∃ c, (seg.select index).2.selected = some c ∧ P c.start c.stop) := by
  unfold select
  split
  · exact ⟨within, by simp⟩
  · next m menu =>
    dsimp only
    split
    · exact ⟨within, by simp⟩
    · have prepared := (within m menu).prepare (index + 1)
      split
      · exact ⟨prepared.mem_some, by simp⟩
      · next enough =>
        -- the menu has a candidate at the index, and it is one it cached
        refine ⟨prepared.mem_some, fun _ => ?_⟩
        have present : index < (m.prepare (index + 1)).2.cached.length := Nat.lt_of_not_le enough
        refine ⟨_, ?_, prepared.1 _ (List.getElem_mem present)⟩
        simp [selected, candidateAt, Menu.candidateAt, List.getElem?_eq_getElem present]

end Segment

end InputMethod

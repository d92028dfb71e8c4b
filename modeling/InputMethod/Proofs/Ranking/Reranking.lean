import InputMethod.Filter.Ranking
import InputMethod.Proofs.Stream.Playback

/-! # The re-ranking law

A call of the ranking filter that passes every gate takes the first `maxCandidates`
candidates off its stream, scores each against the text around the caret, and plays them,
re-ordered when there are enough of them, ahead of the rest of the stream. The main statement,
`apply_reranks_head`, says what a consumer then draws, for every stream and every limit: the
head, stably sorted by total under the total order of floats with each total written into its
candidate (or left as it is below `minCandidatesToSort`), followed by the candidates the stream
had after the head, in their order.

Three facts carry it. The scores are the grammar's answers: a grammar that only remembers
answers its model computes (`Grammar.Coherent`) answers every question as its model does and
stays so (`Grammar.query_fst`). The collecting loop reads the stream exactly as a consumer
does (`collect_eq`), so the head is `take maxCandidates` and the rest is what that take
leaves. And merge sort by a key, highest first, is stable (`mergeSort_stablyDescending`).
-/

namespace InputMethod

/-! ## Grammars that remember only true answers -/

namespace Cache

theorem get?_entries {cache cache' : Cache} {q : Query} {answer : Option Float}
    (looked : cache.get? q = (answer, cache')) :
    (∀ v ∈ answer, (q, v) ∈ cache.entries) ∧ ∀ entry ∈ cache'.entries, entry ∈ cache.entries := by
  unfold Cache.get? at looked
  split at looked
  · next key v found =>
    simp only [Prod.mk.injEq] at looked
    obtain ⟨rfl, rfl⟩ := looked
    have sameKey : key = q := by simpa using List.find?_some found
    subst sameKey
    have member : (key, v) ∈ cache.entries := List.mem_of_find?_eq_some found
    refine ⟨by simpa using member, ?_⟩
    intro entry kept
    simp only [List.mem_cons, List.mem_filter] at kept
    rcases kept with rfl | ⟨kept, -⟩
    · exact member
    · exact kept
  · simp only [Prod.mk.injEq] at looked
    obtain ⟨rfl, rfl⟩ := looked
    simp

theorem mem_put_entries {cache : Cache} {q : Query} {v : Float} {entry : Query × Float}
    (member : entry ∈ (cache.put q v).entries) : entry = (q, v) ∨ entry ∈ cache.entries := by
  simp only [put, List.mem_cons] at member
  rcases member with rfl | member
  · exact .inl rfl
  · right
    split at member
    · exact (List.mem_filter.mp (List.mem_of_mem_take member)).1
    · exact (List.mem_filter.mp member).1

end Cache

namespace Scorer

/-- Every answer the scorer remembers is the one its model computes. -/
def Coherent (s : Scorer) : Prop :=
  ∀ cache ∈ s.cache, ∀ entry ∈ cache.entries, entry.2 = s.score entry.1.1 entry.1.2.1 entry.1.2.2

/-- The score does not read the cache. -/
@[simp] theorem score_withCacheField (s : Scorer) (cache : Option Cache) :
    ({ s with cache } : Scorer).score = s.score :=
  rfl

theorem coherent_withCache (s : Scorer) (capacity : Nat) : (s.withCache capacity).Coherent := by
  intro cache fresh entry member
  simp only [withCache] at fresh
  split at fresh
  · simp at fresh
  · simp only [Option.mem_def, Option.some.injEq] at fresh
    subst fresh
    simp at member

/-- A coherent scorer answers what its model computes. -/
theorem query_fst {s : Scorer} (coherent : s.Coherent) (context word : String) (rear : Bool) :
    (s.query context word rear).1 = s.score context word rear := by
  unfold query
  cases remembered : s.cache with
  | none => rfl
  | some cache =>
    rcases looked : cache.get? (context, word, rear) with ⟨_ | v, cache'⟩
    · simp only [looked]
    · simp only [looked]
      exact coherent cache remembered _ ((Cache.get?_entries looked).1 v rfl)

/-- Asking a scorer changes only what it remembers. -/
@[simp] theorem score_query (s : Scorer) (context word : String) (rear : Bool) :
    (s.query context word rear).2.score = s.score := by
  unfold query
  cases s.cache with
  | none => rfl
  | some cache =>
    rcases looked : cache.get? (context, word, rear) with ⟨_ | v, cache'⟩ <;> simp only [looked] <;> rfl

theorem coherent_query {s : Scorer} (coherent : s.Coherent) (context word : String) (rear : Bool) :
    (s.query context word rear).2.Coherent := by
  unfold query
  cases remembered : s.cache with
  | none => exact coherent
  | some cache =>
    have old := coherent cache remembered
    rcases looked : cache.get? (context, word, rear) with ⟨_ | v, cache'⟩
    · simp only [looked]
      intro cache'' fresh entry member
      simp only [Option.mem_def, Option.some.injEq] at fresh
      subst fresh
      rcases Cache.mem_put_entries member with rfl | member
      · rfl
      · exact old entry ((Cache.get?_entries looked).2 entry member)
    · simp only [looked]
      intro cache'' fresh entry member
      simp only [Option.mem_def, Option.some.injEq] at fresh
      subst fresh
      exact old entry ((Cache.get?_entries looked).2 entry member)

end Scorer

namespace Grammar

def answer : Grammar → String → String → Bool → Float
  | .bigram s => s.score
  | .fixed rows => fun context word rear =>
    ((rows.find? (·.1 == (context, word, rear))).map Prod.snd).getD 0.0

/-- Every answer the grammar remembers is the one its model computes. -/
def Coherent : Grammar → Prop
  | .bigram s => s.Coherent
  | .fixed _ => True

/-- A coherent grammar answers every question as its model does. -/
theorem query_fst {g : Grammar} (coherent : g.Coherent) (context word : String) (rear : Bool) :
    (g.query context word rear).1 = g.answer context word rear := by
  cases g with
  | bigram s => exact Scorer.query_fst coherent context word rear
  | fixed rows => rfl

theorem coherent_query {g : Grammar} (coherent : g.Coherent) (context word : String)
    (rear : Bool) : (g.query context word rear).2.Coherent := by
  cases g with
  | bigram s => exact Scorer.coherent_query coherent context word rear
  | fixed rows => trivial

@[simp] theorem answer_query (g : Grammar) (context word : String) (rear : Bool) :
    (g.query context word rear).2.answer = g.answer := by
  cases g with
  | bigram s => exact Scorer.score_query s context word rear
  | fixed rows => rfl

end Grammar

/-! ## Stable sorting, highest first -/

def StablyDescending {α : Type} (key : α → Nat) (l sorted : List α) : Prop :=
  sorted.Pairwise (fun a b => key b ≤ key a) ∧
    ∀ k, sorted.filter (fun a => key a == k) = l.filter (fun a => key a == k)

/-- Merge sort by a key, highest first, is a stable sort. -/
theorem mergeSort_stablyDescending {α : Type} (key : α → Nat) (l : List α) :
    StablyDescending key l (l.mergeSort fun a b => decide (key b ≤ key a)) := by
  have transitive : ∀ a b c : α, decide (key b ≤ key a) = true →
      decide (key c ≤ key b) = true → decide (key c ≤ key a) = true := by
    intro a b c first second
    simp only [decide_eq_true_eq] at first second ⊢
    omega
  have total : ∀ a b : α, (decide (key b ≤ key a) || decide (key a ≤ key b)) = true := by
    intro a b
    simp only [Bool.or_eq_true, decide_eq_true_eq]
    omega
  refine ⟨by simpa using List.pairwise_mergeSort transitive total l, ?_⟩
  intro k
  -- the entries of key `k` are sorted already, so merge sort keeps them as a sublist
  have tied : (l.filter fun a => key a == k).Pairwise
      (fun a b => decide (key b ≤ key a) = true) := by
    apply List.pairwise_of_forall_mem_list
    intro a first b second
    simp only [List.mem_filter, beq_iff_eq] at first second
    simp [first.2, second.2]
  have kept := List.sublist_mergeSort transitive total tied List.filter_sublist
  have keptFiltered : List.Sublist (l.filter fun a => key a == k)
      ((l.mergeSort fun a b => decide (key b ≤ key a)).filter (fun a => key a == k)) := by
    simpa [List.filter_filter] using kept.filter (fun a => key a == k)
  have permuted := (List.mergeSort_perm l fun a b => decide (key b ≤ key a)).filter
    (fun a => key a == k)
  exact (keptFiltered.eq_of_length permuted.length_eq.symm).symm

theorem sortByTotal_stablyDescending (scored : List (Candidate × Float)) :
    StablyDescending (fun entry => Decimal.totalKey entry.2) scored (Ranker.sortByTotal scored) :=
  mergeSort_stablyDescending _ scored

namespace Ranker

def leftText (c : Context) : String :=
  if c.preceding.isEmpty then c.internalPreceding else c.preceding

def total (g : Grammar) (left right : String) (c : Candidate) : Float :=
  c.quality + (if left.isEmpty then 0.0 else g.answer left c.text false) +
    (if right.isEmpty then 0.0 else g.answer c.text right true)

theorem total_congr {g g' : Grammar} (sameAnswers : g'.answer = g.answer) (left right : String) :
    total g' left right = total g left right := by
  unfold total
  rw [sameAnswers]

theorem side_score {g : Grammar} (coherent : g.Coherent) (skip : Bool) (context word : String)
    (rear : Bool) (queries asked : List Query) :
    (if skip = true then (0.0, g, queries)
      else ((g.query context word rear).1, (g.query context word rear).2, queries ++ asked)).1 =
        (if skip = true then 0.0 else g.answer context word rear) ∧
    (if skip = true then (0.0, g, queries)
      else ((g.query context word rear).1, (g.query context word rear).2, queries ++ asked)).2.1.Coherent ∧
    (if skip = true then (0.0, g, queries)
      else ((g.query context word rear).1, (g.query context word rear).2, queries ++ asked)).2.1.answer =
        g.answer := by
  cases skip with
  | true => exact ⟨rfl, coherent, rfl⟩
  | false =>
    exact ⟨Grammar.query_fst coherent context word rear,
      Grammar.coherent_query coherent context word rear, Grammar.answer_query g context word rear⟩

/-- The collecting loop reads the stream as a consumer does: it scores the candidates that
    `take` yields, leaves the stream where that take leaves it, and keeps the grammar coherent
    with the same answers. -/
theorem collect_eq {g : Grammar} (coherent : g.Coherent) (left right : String) (n : Nat)
    (queries : List Query) (s : Stream) :
    (collect left right n g queries s).1 = (s.take n).1.map (fun c => (c, total g left right c)) ∧
      (collect left right n g queries s).2.2.2 = (s.take n).2 ∧
      (collect left right n g queries s).2.1.Coherent ∧
      (collect left right n g queries s).2.1.answer = g.answer := by
  induction n generalizing g queries s with
  | zero => exact ⟨rfl, rfl, coherent, rfl⟩
  | succ n inductionHypothesis =>
    by_cases exhausted : s.exhausted = true
    · simpa [collect, exhausted, Stream.take_of_exhausted exhausted] using coherent
    rcases pulled : s.pull with ⟨_ | c, s'⟩
    · simpa [collect, exhausted, pulled, Stream.take_succ_of_pull_none pulled] using coherent
    · simp only [collect, exhausted, Bool.false_eq_true, if_false, pulled,
        Stream.take_succ_of_pull_some pulled]
      -- the grammar is asked about the text before the caret, then about the text after it
      obtain ⟨leftScore, leftCoherent, leftAnswers⟩ := side_score coherent left.isEmpty left c.text
        false queries [(left, c.text, false)]
      generalize (if left.isEmpty = true then (0.0, g, queries)
        else ((g.query left c.text false).1, (g.query left c.text false).2,
          queries ++ [(left, c.text, false)])) = before at leftScore leftCoherent leftAnswers ⊢
      obtain ⟨rightScore, rightCoherent, rightAnswers⟩ := side_score leftCoherent right.isEmpty
        c.text right true before.2.2 [(c.text, right, true)]
      generalize (if right.isEmpty = true then (0.0, before.2.1, before.2.2)
        else ((before.2.1.query c.text right true).1, (before.2.1.query c.text right true).2,
          before.2.2 ++ [(c.text, right, true)])) = after at rightScore rightCoherent rightAnswers ⊢
      obtain ⟨scored, rest, stillCoherent, sameAnswers⟩ :=
        inductionHypothesis rightCoherent after.2.2 s'
      have sameTotals : total after.2.1 left right = total g left right :=
        total_congr (rightAnswers.trans leftAnswers) left right
      refine ⟨?_, rest, stillCoherent, sameAnswers.trans (rightAnswers.trans leftAnswers)⟩
      rw [scored, sameTotals, List.map_cons, leftScore, rightScore, leftAnswers]
      rfl

def arrange (scored : List (Candidate × Float)) : List Candidate :=
  if scored.length < minCandidatesToSort then scored.map Prod.fst
  else (sortByTotal scored).map fun entry => entry.1.withQuality entry.2

@[simp] theorem length_arrange (scored : List (Candidate × Float)) :
    (arrange scored).length = scored.length := by
  unfold arrange
  split <;> simp [sortByTotal]

theorem apply_of_gates (r : Ranker) (g : Grammar) (s : Stream) (c : Context) (now : Nat)
    (hasGrammar : r.grammar = some g) (enabled : r.options.enabled = true)
    (live : s.exhausted = false) (longEnough : r.options.minInputLength ≤ c.input.utf8ByteSize)
    (settled : r.options.debounceMs ≤ now - r.lastGate)
    (aroundCaret : leftText c ≠ "" ∨ c.following ≠ "") :
    (r.apply s (some c) now).1.stream =
        (if (collect (leftText c) c.following r.options.maxCandidates g [] s).1.isEmpty then
          (collect (leftText c) c.following r.options.maxCandidates g [] s).2.2.2
        else Stream.concat [.ofList (arrange (collect (leftText c) c.following
          r.options.maxCandidates g [] s).1),
            (collect (leftText c) c.following r.options.maxCandidates g [] s).2.2.2]) ∧
      (r.apply s (some c) now).1.rescored =
        (if (collect (leftText c) c.following r.options.maxCandidates g [] s).1.length <
          minCandidatesToSort then []
        else arrange (collect (leftText c) c.following r.options.maxCandidates g [] s).1) := by
  have quiet : (!r.options.enabled || s.exhausted ||
      decide (c.input.utf8ByteSize < r.options.minInputLength)) = false := by
    simp [enabled, live, longEnough]
  have awake : (decide (now - r.lastGate < r.options.debounceMs) ||
      ((leftText c).isEmpty && c.following.isEmpty)) = false := by
    simp only [Bool.or_eq_false_iff, decide_eq_false_iff_not, Nat.not_lt, Bool.and_eq_false_iff,
      String.isEmpty_eq_false_iff]
    exact ⟨settled, aroundCaret⟩
  unfold leftText at awake ⊢
  simp only [apply, hasGrammar, quiet, awake, Bool.false_eq_true, if_false]
  generalize collect (if c.preceding.isEmpty = true then c.internalPreceding else c.preceding)
    c.following r.options.maxCandidates g [] s = collected
  obtain ⟨scored, grammar, queries, rest⟩ := collected
  by_cases nothing : scored.isEmpty = true
  · have few : scored.length < minCandidatesToSort := by
      simp [List.isEmpty_iff.mp nothing, minCandidatesToSort]
    simp only [nothing, few, if_true]
    exact ⟨trivial, trivial⟩
  · by_cases few : scored.length < minCandidatesToSort
    · simp only [nothing, few, arrange, Bool.false_eq_true, if_false, if_true]
      exact ⟨trivial, trivial⟩
    · simp only [nothing, few, arrange, Bool.false_eq_true, if_false]
      exact ⟨trivial, trivial⟩

def RerankingLaw (g : Grammar) (left right : String) (cap : Nat) (s : Stream) (ranked : Ranked) :
    Prop :=
  ∃ arranged : List Candidate,
    ((s.take cap).1.length < minCandidatesToSort →
      arranged = (s.take cap).1 ∧ ranked.rescored = []) ∧
    (minCandidatesToSort ≤ (s.take cap).1.length →
      ∃ sorted, StablyDescending (fun entry => Decimal.totalKey entry.2)
          ((s.take cap).1.map fun cand => (cand, total g left right cand)) sorted ∧
        arranged = sorted.map (fun entry => entry.1.withQuality entry.2) ∧
        ranked.rescored = arranged) ∧
    ∀ limit, (ranked.stream.take limit).1 =
      (arranged ++ (s.take ((s.take cap).1.length + limit)).1.drop (s.take cap).1.length).take limit

theorem coherent_apply (r : Ranker) (s : Stream) (ctx : Option Context) (now : Nat)
    (coherent : ∀ g, r.grammar = some g → g.Coherent) :
    ∀ g, (r.apply s ctx now).2.grammar = some g → g.Coherent := by
  intro g' held
  cases hasGrammar : r.grammar with
  | none => simp [apply, hasGrammar] at held
  | some g =>
    cases ctx with
    | none =>
      simp only [apply, hasGrammar, Option.some.injEq] at held
      exact held ▸ coherent g hasGrammar
    | some c =>
      have collected := (collect_eq (coherent g hasGrammar)
        (if c.preceding.isEmpty = true then c.internalPreceding else c.preceding) c.following
        r.options.maxCandidates [] s).2.2.1
      simp only [apply, hasGrammar] at held
      generalize collect (if c.preceding.isEmpty = true then c.internalPreceding else c.preceding)
        c.following r.options.maxCandidates g [] s = result at held collected
      -- a call keeps the ranker's grammar, or takes the one the collecting loop left
      repeat' split at held
      all_goals
        simp only [Option.some.injEq] at held
        first
          | exact held ▸ collected
          | exact held ▸ coherent g hasGrammar
          | exact coherent g' held

/-- Every call that passes every gate re-ranks its stream as the re-ranking law says, for every
    stream, whatever its empty slots, finite or endless. -/
theorem apply_reranks_head (r : Ranker) (g : Grammar) (s : Stream) (c : Context) (now : Nat)
    (hasGrammar : r.grammar = some g) (coherent : g.Coherent) (enabled : r.options.enabled = true)
    (live : s.exhausted = false) (longEnough : r.options.minInputLength ≤ c.input.utf8ByteSize)
    (settled : r.options.debounceMs ≤ now - r.lastGate)
    (aroundCaret : leftText c ≠ "" ∨ c.following ≠ "") :
    RerankingLaw g (leftText c) c.following r.options.maxCandidates s (r.apply s (some c) now).1 := by
  obtain ⟨streamEq, rescoredEq⟩ :=
    apply_of_gates r g s c now hasGrammar enabled live longEnough settled aroundCaret
  obtain ⟨scored, rest, -, -⟩ :=
    collect_eq coherent (leftText c) c.following r.options.maxCandidates [] s
  rw [scored, rest] at streamEq
  rw [scored] at rescoredEq
  refine ⟨arrange ((s.take r.options.maxCandidates).1.map fun cand =>
    (cand, total g (leftText c) c.following cand)), ?_, ?_, ?_⟩
  · intro few
    have few' : ((s.take r.options.maxCandidates).1.map fun cand =>
        (cand, total g (leftText c) c.following cand)).length < minCandidatesToSort := by
      simpa using few
    refine ⟨?_, by rw [rescoredEq, if_pos few']⟩
    simp [arrange, few, Function.comp_def]
  · intro many
    have many' : ¬((s.take r.options.maxCandidates).1.map fun cand =>
        (cand, total g (leftText c) c.following cand)).length < minCandidatesToSort := by
      simpa using many
    refine ⟨_, sortByTotal_stablyDescending _, by simp [arrange, Nat.not_lt.mpr many], ?_⟩
    rw [rescoredEq, if_neg many']
  · intro limit
    rw [streamEq]
    split
    · next nothing =>
      have noHead : (s.take r.options.maxCandidates).1 = [] := by simpa using nothing
      simp only [noHead, List.map_nil, List.length_nil, arrange, minCandidatesToSort]
      rw [Stream.take_after, noHead]
      simp [List.take_of_length_le (Stream.length_take_le limit s)]
    · exact Stream.take_concat_ofList_after _ _ limit s (by simp)

/-- Three phrases ranked against the text before the caret, where the grammar prefers `b`:
    every gate is open, so the law applies. -/
theorem reranks_three_phrases :
    ({ grammar := some (.fixed [(("x", "b", false), 1.0)]) } : Ranker).grammar =
        some (.fixed [(("x", "b", false), 1.0)]) ∧
      (Grammar.fixed [(("x", "b", false), 1.0)]).Coherent ∧
      ({ grammar := some (.fixed [(("x", "b", false), 1.0)]) } : Ranker).options.enabled = true ∧
      (Stream.ofList [.make "phrase" 0 2 "a" 0.0, .make "phrase" 0 2 "b" 0.0,
        .make "phrase" 0 2 "c" 0.0]).exhausted = false ∧
      ({ grammar := some (.fixed [(("x", "b", false), 1.0)]) } : Ranker).options.minInputLength ≤
        ({ input := "ab", preceding := "x" } : Context).input.utf8ByteSize ∧
      ({ grammar := some (.fixed [(("x", "b", false), 1.0)]) } : Ranker).options.debounceMs ≤
        100 - ({ grammar := some (.fixed [(("x", "b", false), 1.0)]) } : Ranker).lastGate ∧
      (leftText { input := "ab", preceding := "x" } ≠ "" ∨
        ({ input := "ab", preceding := "x" } : Context).following ≠ "") ∧
      RerankingLaw (.fixed [(("x", "b", false), 1.0)]) (leftText { input := "ab", preceding := "x" })
        ({ input := "ab", preceding := "x" } : Context).following
        ({ grammar := some (.fixed [(("x", "b", false), 1.0)]) } : Ranker).options.maxCandidates
        (Stream.ofList [.make "phrase" 0 2 "a" 0.0, .make "phrase" 0 2 "b" 0.0,
          .make "phrase" 0 2 "c" 0.0])
        (({ grammar := some (.fixed [(("x", "b", false), 1.0)]) } : Ranker).apply
          (Stream.ofList [.make "phrase" 0 2 "a" 0.0, .make "phrase" 0 2 "b" 0.0,
            .make "phrase" 0 2 "c" 0.0])
          (some { input := "ab", preceding := "x" }) 100).1 :=
  ⟨rfl, trivial, rfl, rfl, by decide, by decide, .inl (by decide),
    apply_reranks_head _ _ _ _ _ rfl trivial rfl rfl (by decide) (by decide) (.inl (by decide))⟩

end Ranker

end InputMethod

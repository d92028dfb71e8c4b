import Mathlib
import InputMethod.Proofs.KeyedLists

/-! # Counts of a bigram model

A bigram model is built by adding observations one after another: `addBigram head word n` adds
`n` to the count of `word` after `head` and to the head's total, each sum saturating at
`countMax`. Along every sequence of observations with 32-bit counts (`Counts`):

* the heads that have followers are the heads that have totals, in the same order;
* a head's followers are the words observed after it, each once;
* the count of a pair is the sum of its observed counts, saturated; a head's total is the sum of
  its followers' counts, saturated, and equally the sum of all counts observed after it,
  saturated.

So every count is at most its head's total, and `probability` answers the float quotient of a
pair's count by its head's total, whose exact value lies in `(0, 1]`, or zero when the count is
zero (`Answers`). When the counts observed after a head stay within `countMax` and are not all
zero, the exact quotients of its followers add up to one. A head observed only with zero counts
has total zero, so its followers' probabilities add up to zero (`zero_count_head_sums_to_zero`).

Counts and totals saturate separately. That they stay in step rests on one identity of clamped
sums, `min (min s M + n) M = min (s + n) M`, used for the pair and for the head.
-/

namespace InputMethod

namespace Bigram

/-- That `word` was seen after `head`, `count` times. -/
structure Observation where
  head : String
  word : String
  count : Nat

def observedCount (obs : List Observation) (head word : String) : Nat :=
  ((obs.filter fun o => o.head = head ∧ o.word = word).map Observation.count).sum

def observedTotal (obs : List Observation) (head : String) : Nat :=
  ((obs.filter fun o => o.head = head).map Observation.count).sum

namespace Model

def ofObservations (obs : List Observation) : Model :=
  obs.foldl (fun m o => m.addBigram o.head o.word o.count) {}

def countIn (fs : List Follower) (word : String) : Nat :=
  ((fs.find? (·.word == word)).map Follower.count).getD 0

def count (m : Model) (head word : String) : Nat := countIn (m.followers head) word

def total (m : Model) (head : String) : Nat := (m.total? head).getD 0

def sumCounts (fs : List Follower) : Nat := (fs.map Follower.count).sum

def bump (word : String) (n : Nat) (fs : List Follower) : List Follower :=
  Keyed.update Follower.word word (fun f => { f with count := addCount f.count n }) ⟨word, n⟩ fs

theorem addBigram_eq (m : Model) (head word : String) (n : Nat) :
    m.addBigram head word n =
      { heads := setAt head (fun fs => bump word n (fs.getD [])) m.heads
        totals := setAt head (fun t => addCount (t.getD 0) n) m.totals } := rfl

/-! ## One observation -/

theorem followers_addBigram (m : Model) (head word : String) (n : Nat) (h : String) :
    (m.addBigram head word n).followers h =
      if head = h then bump word n (m.followers head) else m.followers h := by
  unfold followers
  rw [addBigram_eq, find?_setAt]
  split <;> rfl

theorem total?_addBigram (m : Model) (head word : String) (n : Nat) (h : String) :
    (m.addBigram head word n).total? h =
      if head = h then some (addCount ((m.total? head).getD 0) n) else m.total? h := by
  unfold total?
  rw [addBigram_eq, find?_setAt]

theorem any_fst_eq {α : Type} (xs : List (String × α)) (k : String) :
    xs.any (·.1 == k) = (xs.map Prod.fst).any (· == k) := by
  rw [List.any_map]
  rfl

theorem keys_addBigram {m : Model} (sameKeys : m.heads.map Prod.fst = m.totals.map Prod.fst)
    (head word : String) (n : Nat) :
    (m.addBigram head word n).heads.map Prod.fst = (m.addBigram head word n).totals.map Prod.fst := by
  rw [addBigram_eq]
  simp only [keys_setAt, any_fst_eq m.heads, any_fst_eq m.totals, sameKeys]

/-! ## A head's followers -/

theorem countIn_bump {n : Nat} (fits : n ≤ countMax) (word : String) (fs : List Follower)
    (w : String) :
    countIn (bump word n fs) w = if word = w then addCount (countIn fs word) n else countIn fs w := by
  unfold countIn bump
  rw [Keyed.find?_update Follower.word (k := word) (g := fun f => { f with count := addCount f.count n })
    (y := ⟨word, n⟩) (fun _ own => own) rfl]
  by_cases same : word = w
  · have fresh : addCount 0 n = n := by unfold addCount; omega
    cases fs.find? (·.word == word) <;> simp [same, fresh]
  · simp [same]

theorem words_bump (word : String) (n : Nat) (fs : List Follower) :
    (bump word n fs).map Follower.word =
      if fs.any (·.word == word) then fs.map Follower.word else fs.map Follower.word ++ [word] :=
  Keyed.keys_update Follower.word (k := word) (g := fun f => { f with count := addCount f.count n })
    (y := ⟨word, n⟩) (fun _ own => own) rfl fs

theorem nodup_words_bump (word : String) (n : Nat) {fs : List Follower}
    (distinct : (fs.map Follower.word).Nodup) : ((bump word n fs).map Follower.word).Nodup := by
  rw [words_bump]
  split
  · exact distinct
  · next absent =>
    refine List.nodup_append.mpr ⟨distinct, List.nodup_singleton _, ?_⟩
    intro w member added single
    rw [List.mem_singleton] at single
    subst single
    rintro rfl
    obtain ⟨f, inFs, own⟩ := List.mem_map.mp member
    exact absent (List.any_eq_true.mpr ⟨f, inFs, by simp [own]⟩)

theorem mem_words_bump (word : String) (n : Nat) (fs : List Follower) (w : String) :
    w ∈ (bump word n fs).map Follower.word ↔ w ∈ fs.map Follower.word ∨ w = word := by
  rw [words_bump]
  split
  · next present =>
    -- the bumped word is one of the old ones already
    obtain ⟨f, inFs, own⟩ := List.any_eq_true.mp present
    simp only [beq_iff_eq] at own
    constructor
    · exact .inl
    · rintro (member | rfl)
      · exact member
      · rw [← own]
        exact List.mem_map_of_mem inFs
  · rw [List.mem_append, List.mem_singleton]

theorem bump_ne_nil (word : String) (n : Nat) (fs : List Follower) : bump word n fs ≠ [] := by
  intro empty
  have words := words_bump word n fs
  rw [empty, List.map_nil] at words
  split at words
  · next present =>
    have none : fs = [] := List.map_eq_nil_iff.mp words.symm
    simp [none] at present
  · simp at words

theorem countIn_cons (f : Follower) (fs : List Follower) (w : String) :
    countIn (f :: fs) w = if f.word = w then f.count else countIn fs w := by
  by_cases same : f.word = w <;> simp [countIn, same]

theorem countIn_le_sumCounts (fs : List Follower) (w : String) : countIn fs w ≤ sumCounts fs := by
  induction fs with
  | nil => simp [countIn]
  | cons f fs inductionHypothesis =>
    rw [countIn_cons]
    simp only [sumCounts, List.map_cons, List.sum_cons] at inductionHypothesis ⊢
    split <;> omega

theorem sumCounts_map_raise {n : Nat} {w : String} {fs : List Follower}
    (distinct : (fs.map Follower.word).Nodup) (present : w ∈ fs.map Follower.word) :
    sumCounts (fs.map fun f => if f.word == w then { f with count := addCount f.count n } else f) +
        countIn fs w = sumCounts fs + addCount (countIn fs w) n := by
  induction fs with
  | nil => simp at present
  | cons f fs inductionHypothesis =>
    rw [List.map_cons, List.nodup_cons] at distinct
    rw [countIn_cons]
    simp only [sumCounts, List.map_cons, List.sum_cons] at inductionHypothesis ⊢
    by_cases own : f.word = w
    · -- the word is this follower's, so no later follower changes
      have untouched : (fs.map fun f => if f.word == w then
          { f with count := addCount f.count n } else f) = fs := by
        refine (List.map_congr_left fun later member => ?_).trans (List.map_id' fs)
        have other : ¬ later.word = w := fun eq => distinct.1 (own ▸ eq ▸ List.mem_map_of_mem member)
        simp [other]
      simp only [own, beq_self_eq_true, if_true, untouched]
      omega
    · have later : w ∈ fs.map Follower.word := by simpa [Ne.symm own] using present
      simp only [own, beq_iff_eq, if_false]
      have step := inductionHypothesis distinct.2 later
      simp only [beq_iff_eq] at step
      omega

theorem sumCounts_bump {n : Nat} (fits : n ≤ countMax) (word : String) {fs : List Follower}
    (distinct : (fs.map Follower.word).Nodup) :
    sumCounts (bump word n fs) + countIn fs word = sumCounts fs + countIn (bump word n fs) word := by
  rw [countIn_bump fits, if_pos rfl]
  unfold bump Keyed.update
  split
  · next present =>
    have member : word ∈ fs.map Follower.word := by
      obtain ⟨f, inFs, own⟩ := List.any_eq_true.mp present
      simp only [beq_iff_eq] at own
      exact own ▸ List.mem_map_of_mem inFs
    exact sumCounts_map_raise distinct member
  · next absent =>
    have none : countIn fs word = 0 := by
      have missed : fs.find? (·.word == word) = none :=
        List.find?_eq_none.mpr fun f inFs own => absent (List.any_eq_true.mpr ⟨f, inFs, own⟩)
      simp [countIn, missed]
    simp only [sumCounts, List.map_append, List.sum_append, none] at *
    unfold addCount
    simp
    omega

/-! ## Observations -/

theorem observedCount_append_singleton (obs : List Observation) (o : Observation)
    (head word : String) :
    observedCount (obs ++ [o]) head word =
      observedCount obs head word + if o.head = head ∧ o.word = word then o.count else 0 := by
  unfold observedCount
  by_cases matching : o.head = head ∧ o.word = word <;> simp [List.filter_append, matching]

theorem observedTotal_append_singleton (obs : List Observation) (o : Observation) (head : String) :
    observedTotal (obs ++ [o]) head = observedTotal obs head + if o.head = head then o.count else 0 := by
  unfold observedTotal
  by_cases matching : o.head = head <;> simp [List.filter_append, matching]

end Model

/-! ## The invariant -/

open Model

/-- What a model built from observations `obs` holds. -/
structure Counts (obs : List Observation) (m : Model) : Prop where
  sameKeys : m.heads.map Prod.fst = m.totals.map Prod.fst
  distinct : ∀ head, ((m.followers head).map Follower.word).Nodup
  observed : ∀ head word, word ∈ (m.followers head).map Follower.word ↔ ∃ n, ⟨head, word, n⟩ ∈ obs
  count : ∀ head word, m.count head word = min countMax (observedCount obs head word)
  total : ∀ head, m.total? head =
    if m.followers head = [] then none else some (min countMax (sumCounts (m.followers head)))
  totalObserved : ∀ head, m.total head = min countMax (observedTotal obs head)
  sumCounts_le : ∀ head, sumCounts (m.followers head) ≤ observedTotal obs head

theorem counts_empty : Counts [] {} where
  sameKeys := rfl
  distinct _ := List.nodup_nil
  observed _ _ := by simp [followers]
  count _ _ := by simp [count, countIn, followers, observedCount]
  total _ := by simp [total?, followers]
  totalObserved _ := by simp [total, total?, observedTotal]
  sumCounts_le _ := by simp [followers, sumCounts]

theorem Counts.total_eq {obs : List Observation} {m : Model} (counts : Counts obs m)
    (head : String) : m.total head = min countMax (sumCounts (m.followers head)) := by
  unfold Model.total
  rw [counts.total head]
  split
  · next none => simp [none, sumCounts]
  · rfl

theorem Counts.count_le_countMax {obs : List Observation} {m : Model} (counts : Counts obs m)
    (head word : String) : m.count head word ≤ countMax := by
  rw [counts.count]
  exact Nat.min_le_left _ _

theorem Counts.observe {obs : List Observation} {m : Model} (counts : Counts obs m)
    (o : Observation) (fits : o.count ≤ countMax) :
    Counts (obs ++ [o]) (m.addBigram o.head o.word o.count) where
  sameKeys := keys_addBigram counts.sameKeys o.head o.word o.count
  distinct head := by
    rw [followers_addBigram]
    split
    · next same =>
      subst same
      exact nodup_words_bump o.word o.count (counts.distinct o.head)
    · exact counts.distinct head
  observed head word := by
    rw [followers_addBigram]
    simp only [List.mem_append, List.mem_singleton]
    split
    · next same =>
      subst same
      rw [mem_words_bump, counts.observed o.head word]
      -- an observation after this head is an earlier one or the one made now
      constructor
      · rintro (⟨n, seen⟩ | rfl)
        · exact ⟨n, .inl seen⟩
        · exact ⟨o.count, .inr rfl⟩
      · rintro ⟨n, seen | same⟩
        · exact .inl ⟨n, seen⟩
        · exact .inr (congrArg Observation.word same)
    · next other =>
      rw [counts.observed head word]
      constructor
      · rintro ⟨n, seen⟩
        exact ⟨n, .inl seen⟩
      · rintro ⟨n, seen | same⟩
        · exact ⟨n, seen⟩
        · exact absurd (congrArg Observation.head same).symm other
  count head word := by
    unfold Model.count
    rw [followers_addBigram, observedCount_append_singleton]
    split
    · next same =>
      subst same
      rw [countIn_bump fits]
      have before := counts.count o.head
      unfold Model.count at before
      split
      · next own =>
        subst own
        rw [before, if_pos ⟨rfl, rfl⟩]
        unfold addCount
        omega
      · next other =>
        rw [before, if_neg fun matching => other matching.2]
        rfl
    · next other =>
      rw [if_neg fun matching => other matching.1, Nat.add_zero]
      exact counts.count head word
  total head := by
    rw [total?_addBigram, followers_addBigram]
    split
    · next same =>
      subst same
      rw [if_neg (bump_ne_nil _ _ _)]
      -- the head's total and its followers' sum both grow by the raised count, clamped
      have before : (m.total? o.head).getD 0 = min countMax (sumCounts (m.followers o.head)) :=
        counts.total_eq o.head
      have raised := sumCounts_bump fits o.word (counts.distinct o.head)
      have within := countIn_le_sumCounts (m.followers o.head) o.word
      have bounded := counts.count_le_countMax o.head o.word
      rw [countIn_bump fits, if_pos rfl] at raised
      unfold Model.count at bounded
      rw [before]
      unfold addCount at raised ⊢
      congr 1
      omega
    · exact counts.total head
  totalObserved head := by
    unfold Model.total
    rw [total?_addBigram, observedTotal_append_singleton]
    split
    · next same =>
      subst same
      have before := counts.totalObserved o.head
      unfold Model.total at before
      rw [before]
      unfold addCount
      simp only [Option.getD_some]
      omega
    · next other =>
      rw [Nat.add_zero]
      exact counts.totalObserved head
  sumCounts_le head := by
    rw [followers_addBigram, observedTotal_append_singleton]
    split
    · next same =>
      subst same
      have raised := sumCounts_bump fits o.word (counts.distinct o.head)
      have before := counts.sumCounts_le o.head
      rw [countIn_bump fits, if_pos rfl] at raised
      unfold addCount at raised
      omega
    · next other =>
      rw [Nat.add_zero]
      exact counts.sumCounts_le head

theorem counts_ofObservations (obs : List Observation) (fits : ∀ o ∈ obs, o.count ≤ countMax) :
    Counts obs (ofObservations obs) := by
  induction obs using List.reverseRecOn with
  | nil => exact counts_empty
  | append_singleton obs o inductionHypothesis =>
    have earlier := inductionHypothesis fun o' member => fits o' (List.mem_append_left _ member)
    simp only [ofObservations, List.foldl_append, List.foldl_cons, List.foldl_nil] at earlier ⊢
    exact earlier.observe o (fits o (by simp))

/-! ## Probabilities -/

/-- What `probability` answers for a pair: the float quotient of its count by its head's total
    when the count is positive, else zero, where the exact quotient lies in `(0, 1]`. -/
structure Answers (m : Model) (head word : String) : Prop where
  count_le_total : m.count head word ≤ m.total head
  probability_eq : m.probability head word =
    if 0 < m.count head word then Float.ofNat (m.count head word) / Float.ofNat (m.total head)
    else 0.0
  quotient_pos : 0 < m.count head word → 0 < (m.count head word : ℚ) / m.total head
  quotient_le_one : (m.count head word : ℚ) / m.total head ≤ 1

theorem Counts.count_le_total {obs : List Observation} {m : Model} (counts : Counts obs m)
    (head word : String) : m.count head word ≤ m.total head := by
  rw [counts.total_eq]
  exact Nat.le_min.mpr ⟨counts.count_le_countMax head word, countIn_le_sumCounts _ _⟩

theorem Counts.answers {obs : List Observation} {m : Model} (counts : Counts obs m)
    (head word : String) : Answers m head word := by
  have bounded := counts.count_le_total head word
  refine ⟨bounded, ?_, fun positive => ?_, ?_⟩
  · unfold probability
    by_cases positive : 0 < m.count head word
    · -- a positive count has a follower, so its head has a total
      have followed : m.followers head ≠ [] := by
        intro none
        simp [Model.count, none, countIn] at positive
      have totalEq : m.total? head = some (m.total head) := by
        rw [counts.total_eq, counts.total head, if_neg followed]
      have reads : (((m.followers head).find? (·.word == word)).map Follower.count).getD 0 =
          m.count head word := rfl
      simp only [reads, totalEq, positive, if_true]
      rw [if_pos (by simp; omega)]
    · have zero : m.count head word = 0 := by omega
      have reads : (((m.followers head).find? (·.word == word)).map Follower.count).getD 0 = 0 :=
        zero
      simp only [reads, zero, Nat.lt_irrefl, decide_false, Bool.and_false, if_false]
      split <;> rfl
  · have totalPositive : (0 : ℚ) < m.total head := by exact_mod_cast positive.trans_le bounded
    exact div_pos (by exact_mod_cast positive) totalPositive
  · exact div_le_one_of_le₀ (by exact_mod_cast bounded) (Nat.cast_nonneg _)

theorem Counts.quotients_sum_eq_one {obs : List Observation} {m : Model} (counts : Counts obs m)
    {head : String} (unsaturated : observedTotal obs head ≤ countMax) (positive : 0 < m.total head) :
    ((m.followers head).map fun f => (f.count : ℚ) / m.total head).sum = 1 := by
  have observedEq := counts.totalObserved head
  have summedEq := counts.total_eq head
  have within := counts.sumCounts_le head
  -- nothing saturated, so the total is the followers' sum
  have exact : m.total head = sumCounts (m.followers head) := by omega
  have castSum : ((m.followers head).map fun f => (f.count : ℚ)).sum =
      (sumCounts (m.followers head) : ℚ) := by
    unfold sumCounts
    rw [Nat.cast_list_sum, List.map_map]
    rfl
  simp only [div_eq_mul_inv, List.sum_map_mul_right]
  rw [castSum, ← exact]
  exact mul_inv_cancel₀ (by exact_mod_cast positive.ne')

/-- Along every sequence of observations of 32-bit counts from the empty model, the model holds
    the invariant, `probability` answers every pair as the quotient of its count by its head's
    total, and the exact quotients of the followers of a head whose observed counts stay within
    `countMax` and are not all zero add up to one. -/
theorem ofObservations_counts (obs : List Observation) (fits : ∀ o ∈ obs, o.count ≤ countMax) :
    Counts obs (ofObservations obs) ∧ (∀ head word, Answers (ofObservations obs) head word) ∧
      ∀ head, observedTotal obs head ≤ countMax → 0 < (ofObservations obs).total head →
        (((ofObservations obs).followers head).map fun f =>
          (f.count : ℚ) / (ofObservations obs).total head).sum = 1 :=
  have counts := counts_ofObservations obs fits
  ⟨counts, counts.answers, fun _ => counts.quotients_sum_eq_one⟩

/-- Two pairs after one head, one of them seen twice. -/
theorem ofObservations_counts_two_pairs :
    (∀ o ∈ [Observation.mk "吃" "饭" 10, ⟨"吃", "面", 3⟩, ⟨"吃", "饭", 5⟩], o.count ≤ countMax) ∧
      (Counts [⟨"吃", "饭", 10⟩, ⟨"吃", "面", 3⟩, ⟨"吃", "饭", 5⟩]
          (ofObservations [⟨"吃", "饭", 10⟩, ⟨"吃", "面", 3⟩, ⟨"吃", "饭", 5⟩]) ∧
        (∀ head word,
          Answers (ofObservations [⟨"吃", "饭", 10⟩, ⟨"吃", "面", 3⟩, ⟨"吃", "饭", 5⟩]) head word) ∧
        ∀ head, observedTotal [⟨"吃", "饭", 10⟩, ⟨"吃", "面", 3⟩, ⟨"吃", "饭", 5⟩] head ≤ countMax →
          0 < (ofObservations [⟨"吃", "饭", 10⟩, ⟨"吃", "面", 3⟩, ⟨"吃", "饭", 5⟩]).total head →
          (((ofObservations [⟨"吃", "饭", 10⟩, ⟨"吃", "面", 3⟩, ⟨"吃", "饭", 5⟩]).followers head).map
            fun f => (f.count : ℚ) /
              (ofObservations [⟨"吃", "饭", 10⟩, ⟨"吃", "面", 3⟩, ⟨"吃", "饭", 5⟩]).total head).sum = 1) :=
  ⟨by decide, ofObservations_counts _ (by decide)⟩

/-- A head observed once, with a zero count, never saturates; yet its total is zero, its one
    follower has probability zero, and the quotients of its followers add up to zero, not one. -/
theorem zero_count_head_sums_to_zero :
    observedTotal [⟨"a", "b", 0⟩] "a" ≤ countMax ∧
      ((ofObservations [⟨"a", "b", 0⟩]).followers "a").map Follower.word = ["b"] ∧
      (ofObservations [⟨"a", "b", 0⟩]).probability "a" "b" = 0.0 ∧
      (((ofObservations [⟨"a", "b", 0⟩]).followers "a").map fun f =>
        (f.count : ℚ) / (ofObservations [⟨"a", "b", 0⟩]).total "a").sum ≠ 1 := by
  refine ⟨by decide, by decide, rfl, ?_⟩
  have followersEq : (ofObservations [⟨"a", "b", 0⟩]).followers "a" = [⟨"b", 0⟩] := rfl
  rw [followersEq]
  simp

end Bigram

end InputMethod

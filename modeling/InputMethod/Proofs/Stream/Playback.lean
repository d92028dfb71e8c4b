import InputMethod.Stream.Basic

/-! # Playing a stream back

A consumer reads a stream through `Stream.take n`: it pulls candidates one after another and
stops after `n` of them or when the stream runs dry. Streams may be endless, so what a stream
*yields* is read off these finite prefixes. The laws below make that reading usable:

* a stream that reports exhaustion yields nothing and is left as it is, and a pull that finds
  nothing leaves the stream exhausted (`pull_of_exhausted`, `exhausted_of_pull_none`);
* taking `m + n` candidates is taking `m` and then `n` more from what is left (`take_add`),
  so shorter takes are prefixes of longer ones (`take_prefix`);
* a union plays its first part and then the others (`take_union_cons`), whatever its drained
  flag says (`take_union_drained`), and a queue plays its candidates in order (`take_queue`);
* an expanding stream plays its cache and then the expansions of its source's candidates, one
  after another, each expanded after the ones before it (`take_expand`), pulling from the
  source only as far as that needs (`take_expand_source`).

The non-trivial ingredient is the last one: the cache of an expanding stream runs ahead of the
consumer, so a prefix of `n` outputs is compared with the expansions of a prefix of `n` source
candidates, and every expansion holds at least one candidate.
-/

namespace InputMethod

namespace Expansion

/-- The candidates an expansion puts in place of `c` after the candidates `before`, first one
    first. -/
def forms (expansion : Expansion) (before : List Candidate) (c : Candidate) : List Candidate :=
  (expansion before c).1 :: (expansion before c).2

theorem forms_ne_nil (expansion : Expansion) (before : List Candidate) (c : Candidate) :
    expansion.forms before c ≠ [] := by
  simp [forms]

def after (expansion : Expansion) (cs : List Candidate) : Expansion :=
  fun before => expansion (cs ++ before)

def play (expansion : Expansion) : List Candidate → List Candidate
  | [] => []
  | c :: cs => expansion.forms [] c ++ (expansion.past c).play cs

@[simp] theorem after_nil (expansion : Expansion) : expansion.after [] = expansion := rfl

theorem after_cons (expansion : Expansion) (c : Candidate) (cs : List Candidate) :
    expansion.after (c :: cs) = (expansion.past c).after cs := rfl

@[simp] theorem play_nil (expansion : Expansion) : expansion.play [] = [] := rfl

theorem play_cons (expansion : Expansion) (c : Candidate) (cs : List Candidate) :
    expansion.play (c :: cs) = expansion.forms [] c ++ (expansion.past c).play cs := rfl

theorem play_append (expansion : Expansion) (xs ys : List Candidate) :
    expansion.play (xs ++ ys) = expansion.play xs ++ (expansion.after xs).play ys := by
  induction xs generalizing expansion with
  | nil => rfl
  | cons c xs inductionHypothesis =>
    rw [List.cons_append, play_cons, play_cons, inductionHypothesis, List.append_assoc,
      after_cons]

theorem length_le_length_play (expansion : Expansion) (cs : List Candidate) :
    cs.length ≤ (expansion.play cs).length := by
  induction cs generalizing expansion with
  | nil => simp
  | cons c cs inductionHypothesis =>
    have := inductionHypothesis (expansion.past c)
    simp only [play_cons, forms, List.length_append, List.length_cons]
    omega

theorem mem_play {expansion : Expansion} {cs : List Candidate} {d : Candidate}
    (member : d ∈ expansion.play cs) : ∃ c ∈ cs, ∃ before, d ∈ expansion.forms before c := by
  induction cs generalizing expansion with
  | nil => cases member
  | cons c cs inductionHypothesis =>
    rcases List.mem_append.mp member with first | later
    · exact ⟨c, List.mem_cons_self, [], first⟩
    · obtain ⟨c', held, before, formed⟩ := inductionHypothesis later
      exact ⟨c', List.mem_cons_of_mem _ held, c :: before, formed⟩

end Expansion

namespace Stream

/-! ## Pulling -/

theorem pullSlots_none {pending rest : List (Option Candidate)}
    (found : pullSlots pending = (none, rest)) : rest = [] := by
  induction pending with
  | nil => simp only [pullSlots, Prod.mk.injEq] at found; exact found.2.symm
  | cons slot pending inductionHypothesis =>
    cases slot with
    | none => exact inductionHypothesis found
    | some c => simp [pullSlots] at found

theorem pullParts_none {parts parts' : List Stream} {drained drained' : Bool}
    (found : pullParts parts drained = (none, parts', drained')) : parts' = [] := by
  induction parts generalizing drained with
  | nil => simp only [pullParts, Prod.mk.injEq] at found; exact found.2.1.symm
  | cons part parts inductionHypothesis =>
    rw [pullParts] at found
    split at found
    · split at found <;> simp at found
    · exact inductionHypothesis found

theorem pullParts_drained (parts : List Stream) (drained drained' : Bool) :
    (pullParts parts drained).1 = (pullParts parts drained').1 ∧
      (pullParts parts drained).2.1 = (pullParts parts drained').2.1 := by
  induction parts generalizing drained drained' with
  | nil => simp [pullParts]
  | cons part parts inductionHypothesis =>
    simp only [pullParts]
    split
    · split <;> simp
    · exact inductionHypothesis _ _

/-- An exhausted stream yields nothing and stays as it is. -/
theorem pull_of_exhausted {s : Stream} (exhausted : s.exhausted = true) : s.pull = (none, s) := by
  cases s with
  | queue pending drained =>
    simp only [Stream.exhausted, Bool.or_eq_true, List.isEmpty_iff] at exhausted
    rcases exhausted with rfl | rfl
    · simp [pull]
    · cases drained <;> simp [pull]
  | slots pending =>
    simp only [Stream.exhausted, List.isEmpty_iff] at exhausted
    subst exhausted
    rfl
  | generate make index => simp [Stream.exhausted] at exhausted
  | union parts drained =>
    simp only [Stream.exhausted, List.isEmpty_iff] at exhausted
    subst exhausted
    rfl
  | expand cache expansion done source =>
    simp only [Stream.exhausted] at exhausted
    simp [pull, exhausted]

/-- A pull that finds nothing leaves the stream exhausted. -/
theorem exhausted_of_pull_none {s s' : Stream} (found : s.pull = (none, s')) :
    s'.exhausted = true := by
  cases s with
  | queue pending drained =>
    simp only [pull] at found
    split at found
    · simp at found
    · next notNext =>
      simp only [Prod.mk.injEq] at found
      rw [← found.2]
      cases drained with
      | true => rfl
      | false =>
        cases pending with
        | nil => rfl
        | cons c rest => exact (notNext c rest rfl rfl).elim
  | slots pending =>
    rcases pulled : pullSlots pending with ⟨c, rest⟩
    simp only [pull, pulled, Prod.mk.injEq] at found
    obtain ⟨rfl, rfl⟩ := found
    simp [Stream.exhausted, pullSlots_none pulled]
  | generate make index => simp [pull] at found
  | union parts drained =>
    rcases pulled : pullParts parts drained with ⟨c, parts', drained'⟩
    simp only [pull, pulled, Prod.mk.injEq] at found
    obtain ⟨rfl, rfl⟩ := found
    simp [Stream.exhausted, pullParts_none pulled]
  | expand cache expansion done source =>
    cases done with
    | true =>
      simp only [pull, if_true, Prod.mk.injEq] at found
      rw [← found.2]
      rfl
    | false =>
      cases cache with
      | cons c rest => simp [pull] at found
      | nil =>
        rcases pulled : source.pull with ⟨_ | c, source'⟩
        · simp only [pull, pulled, Bool.false_eq_true, if_false, Prod.mk.injEq] at found
          rw [← found.2]
          rfl
        · simp [pull, pulled] at found

/-! ## Taking -/

@[simp] theorem take_zero (s : Stream) : s.take 0 = ([], s) := rfl

theorem take_succ_of_pull_some {s s' : Stream} {c : Candidate} (pulled : s.pull = (some c, s'))
    (n : Nat) : s.take (n + 1) = (c :: (s'.take n).1, (s'.take n).2) := by
  simp [take, pulled]

theorem take_succ_of_pull_none {s s' : Stream} (pulled : s.pull = (none, s')) (n : Nat) :
    s.take (n + 1) = ([], s') := by
  simp [take, pulled]

theorem take_succ_congr {s t : Stream} (samePull : s.pull = t.pull) (n : Nat) :
    s.take (n + 1) = t.take (n + 1) := by
  simp only [take, samePull]

theorem take_of_exhausted {s : Stream} (exhausted : s.exhausted = true) (n : Nat) :
    s.take n = ([], s) := by
  cases n with
  | zero => rfl
  | succ n => exact take_succ_of_pull_none (pull_of_exhausted exhausted) n

/-- Taking `m + n` candidates is taking `m`, then `n` more from what is left. -/
theorem take_add (m n : Nat) (s : Stream) :
    s.take (m + n) = ((s.take m).1 ++ ((s.take m).2.take n).1, ((s.take m).2.take n).2) := by
  induction m generalizing s with
  | zero => simp
  | succ m inductionHypothesis =>
    rcases pulled : s.pull with ⟨_ | c, s'⟩
    · rw [Nat.add_right_comm, take_succ_of_pull_none pulled, take_succ_of_pull_none pulled,
        take_of_exhausted (exhausted_of_pull_none pulled)]
      simp
    · rw [Nat.add_right_comm, take_succ_of_pull_some pulled, take_succ_of_pull_some pulled,
        inductionHypothesis]
      simp

/-- A shorter take yields a prefix of what a longer one yields. -/
theorem take_prefix (m n : Nat) (s : Stream) : (s.take m).1 <+: (s.take (m + n)).1 := by
  rw [take_add]
  exact List.prefix_append _ _

theorem length_take_le (n : Nat) (s : Stream) : (s.take n).1.length ≤ n := by
  induction n generalizing s with
  | zero => simp
  | succ n inductionHypothesis =>
    rcases pulled : s.pull with ⟨_ | c, s'⟩
    · simp [take_succ_of_pull_none pulled]
    · simpa [take_succ_of_pull_some pulled] using inductionHypothesis s'

theorem exhausted_of_length_take_lt {n : Nat} {s : Stream} (short : (s.take n).1.length < n) :
    (s.take n).2.exhausted = true := by
  induction n generalizing s with
  | zero => simp at short
  | succ n inductionHypothesis =>
    rcases pulled : s.pull with ⟨_ | c, s'⟩
    · rw [take_succ_of_pull_none pulled]
      exact exhausted_of_pull_none pulled
    · rw [take_succ_of_pull_some pulled] at short ⊢
      simp only [List.length_cons, Nat.add_lt_add_iff_right] at short
      exact inductionHypothesis short

theorem take_add_of_length_lt {m : Nat} {s : Stream} (short : (s.take m).1.length < m) (n : Nat) :
    (s.take (m + n)).1 = (s.take m).1 := by
  rw [take_add, take_of_exhausted (exhausted_of_length_take_lt short)]
  simp

theorem take_fst_take {m n : Nat} (le : m ≤ n) (s : Stream) : (s.take n).1.take m = (s.take m).1 := by
  obtain ⟨more, rfl⟩ := Nat.exists_eq_add_of_le le
  rw [take_add]
  by_cases full : (s.take m).1.length = m
  · rw [List.take_append_of_le_length (by omega), List.take_of_length_le (by omega)]
  · have short : (s.take m).1.length < m := by
      have := length_take_le m s
      omega
    rw [take_of_exhausted (exhausted_of_length_take_lt short)]
    simp [List.take_of_length_le (Nat.le_of_lt short)]

theorem take_after (m n : Nat) (s : Stream) :
    ((s.take m).2.take n).1 = (s.take ((s.take m).1.length + n)).1.drop (s.take m).1.length := by
  by_cases full : (s.take m).1.length = m
  · rw [full, take_add, List.drop_left' full]
  · have short : (s.take m).1.length < m := by
      have := length_take_le m s
      omega
    rw [take_of_exhausted (exhausted_of_length_take_lt short)]
    -- the stream ran dry after the candidates taken, so no longer take yields more of them
    have bounded : (s.take ((s.take m).1.length + n)).1.length ≤ (s.take m).1.length := by
      have longer := take_prefix ((s.take m).1.length + n) m s
      rw [Nat.add_comm _ m, take_add_of_length_lt short] at longer
      exact longer.length_le
    simp [List.drop_eq_nil_of_le bounded]

/-! ## Unions -/

theorem pull_union (parts : List Stream) (drained : Bool) :
    (union parts drained).pull =
      ((pullParts parts drained).1, union (pullParts parts drained).2.1 (pullParts parts drained).2.2) :=
  rfl

/-- What a union yields does not depend on its drained flag. -/
theorem take_union_drained (n : Nat) (parts : List Stream) (drained drained' : Bool) :
    (take n (union parts drained)).1 = (take n (union parts drained')).1 := by
  induction n generalizing parts drained drained' with
  | zero => rfl
  | succ n inductionHypothesis =>
    obtain ⟨sameCandidate, sameParts⟩ := pullParts_drained parts drained drained'
    rcases pulled : pullParts parts drained with ⟨_ | c, parts', flag⟩
    · rw [pulled] at sameCandidate
      rcases pulled' : pullParts parts drained' with ⟨c', parts'', flag'⟩
      rw [pulled'] at sameCandidate
      subst sameCandidate
      rw [take_succ_of_pull_none (by rw [pull_union, pulled]),
        take_succ_of_pull_none (by rw [pull_union, pulled'])]
    · rw [pulled] at sameCandidate sameParts
      rcases pulled' : pullParts parts drained' with ⟨c', parts'', flag'⟩
      rw [pulled'] at sameCandidate sameParts
      subst sameCandidate sameParts
      rw [take_succ_of_pull_some (by rw [pull_union, pulled]),
        take_succ_of_pull_some (by rw [pull_union, pulled']), inductionHypothesis _ flag flag']

theorem pull_union_cons_of_pull_none {part part' : Stream} (parts : List Stream) (drained : Bool)
    (pulled : part.pull = (none, part')) :
    (union (part :: parts) drained).pull = (union parts (drained || parts.isEmpty)).pull := by
  simp [pull, pullParts, pulled]

theorem pull_union_cons_of_pull_some {part part' : Stream} {c : Candidate} (parts : List Stream)
    (drained : Bool) (pulled : part.pull = (some c, part')) :
    (union (part :: parts) drained).pull =
      (some c, if part'.exhausted then union parts (drained || parts.isEmpty)
        else union (part' :: parts) drained) := by
  simp only [pull, pullParts, pulled]
  split <;> rfl

/-- A union plays its first part to the end and then the other parts. -/
theorem take_union_cons (n : Nat) (part : Stream) (parts : List Stream) (drained drained' : Bool) :
    (take n (union (part :: parts) drained)).1 =
      (part.take n).1 ++ (take (n - (part.take n).1.length) (union parts drained')).1 := by
  induction n generalizing part drained with
  | zero => simp
  | succ n inductionHypothesis =>
    rcases pulled : part.pull with ⟨_ | c, part'⟩
    · rw [take_succ_congr (pull_union_cons_of_pull_none parts drained pulled),
        take_succ_of_pull_none pulled]
      simpa using take_union_drained _ parts _ drained'
    · rw [take_succ_of_pull_some (pull_union_cons_of_pull_some parts drained pulled),
        take_succ_of_pull_some pulled]
      by_cases exhausted : part'.exhausted = true
      · simp only [exhausted, if_true, take_of_exhausted exhausted, List.length_cons,
          List.length_nil, List.cons_append, List.nil_append, Nat.zero_add]
        rw [Nat.add_sub_cancel, take_union_drained n parts _ drained']
      · simp only [exhausted, Bool.false_eq_true, if_false, List.length_cons, List.cons_append,
          inductionHypothesis, Nat.add_sub_add_right]

theorem take_union_nil (n : Nat) (drained : Bool) : (take n (union [] drained)).1 = [] := by
  rw [take_of_exhausted (s := union [] drained) rfl]

/-- A queue plays its candidates in order, until it has been drained. -/
theorem take_queue (n : Nat) (pending : List Candidate) (drained : Bool) :
    (take n (queue pending drained)).1 = if drained then [] else pending.take n := by
  cases drained with
  | true => simp [take_of_exhausted (s := queue pending true) rfl]
  | false =>
    induction pending generalizing n with
    | nil => simp [take_of_exhausted (s := queue [] false) rfl]
    | cons c rest inductionHypothesis =>
      cases n with
      | zero => rfl
      | succ n =>
        rw [take_succ_of_pull_some
          (show (queue (c :: rest) false).pull = (some c, queue rest rest.isEmpty) by simp [pull])]
        cases rest with
        | nil => simp [take_of_exhausted (s := queue [] true) rfl]
        | cons c' rest' => simpa using inductionHypothesis n

theorem take_concat_pair (n : Nat) (first second : Stream) :
    (take n (concat [first, second])).1 =
      (first.take n).1 ++ (second.take (n - (first.take n).1.length)).1 := by
  have single : ∀ (s : Stream) (k : Nat), (take k (union [s] false)).1 = (s.take k).1 := by
    intro s k
    rw [take_union_cons k s [] false false, take_union_nil, List.append_nil]
  by_cases firstDone : first.exhausted = true <;> by_cases secondDone : second.exhausted = true
  · simp [concat, push, firstDone, secondDone, take_union_nil, take_of_exhausted firstDone,
      take_of_exhausted secondDone]
  · simp [concat, push, firstDone, secondDone, single, take_of_exhausted firstDone]
  · simp [concat, push, firstDone, secondDone, single, take_of_exhausted secondDone]
  · simp [concat, push, firstDone, secondDone, take_union_cons n first [second] false false,
      single]

theorem take_concat_ofList_after (front : List Candidate) (m limit : Nat) (s : Stream)
    (sameLength : front.length = (s.take m).1.length) :
    (take limit (concat [ofList front, (s.take m).2])).1 =
      (front ++ (s.take ((s.take m).1.length + limit)).1.drop (s.take m).1.length).take limit := by
  rw [take_concat_pair, ofList, take_queue, if_neg Bool.false_ne_true, take_after,
    List.take_append, List.length_take]
  congr 1
  rw [← sameLength]
  by_cases within : limit ≤ front.length
  · rw [Nat.min_eq_left within, Nat.sub_self, Nat.sub_eq_zero_of_le within, Nat.add_zero,
      List.drop_eq_nil_of_le (length_take_le _ s), List.take_zero]
  · rw [Nat.min_eq_right (by omega), ← List.drop_take, take_fst_take (by omega),
      Nat.add_sub_cancel' (by omega)]

/-! ## Expanding streams

An expanding stream is *settled* when it is done only with its cache and its source used up;
`expandWith` builds settled streams and every pull keeps them so. -/

section Pulls

variable (expansion : Expansion)

theorem pull_expand_done (cache : List Candidate) (source : Stream) :
    (expand cache expansion true source).pull = (none, expand cache expansion true source) := by
  simp [pull]

theorem pull_expand_cached (c : Candidate) (rest : List Candidate) (source : Stream) :
    (expand (c :: rest) expansion false source).pull =
      (some c, expand rest expansion (rest.isEmpty && source.exhausted) source) := by
  simp [pull]

theorem pull_expand_drained {source source' : Stream}
    (sourcePulled : source.pull = (none, source')) :
    (expand [] expansion false source).pull = (none, expand [] expansion true source') := by
  simp [pull, sourcePulled]

/-- With its cache empty, an expanding stream answers the first form of the source's next
    candidate, keeps the others, and moves its expansion past that candidate. -/
theorem pull_expand_fresh {source source' : Stream} {c : Candidate}
    (sourcePulled : source.pull = (some c, source')) :
    (expand [] expansion false source).pull =
      (some (expansion [] c).1, expand (expansion [] c).2 (expansion.past c)
        ((expansion [] c).2.isEmpty && source'.exhausted) source') := by
  simp [pull, sourcePulled]

end Pulls

theorem take_append_play_take_add (expansion : Expansion) (cache : List Candidate)
    (n more : Nat) (source : Stream) :
    (cache ++ expansion.play (source.take (n + more)).1).take n =
      (cache ++ expansion.play (source.take n).1).take n := by
  by_cases full : (source.take n).1.length = n
  · have enough : n ≤ (cache ++ expansion.play (source.take n).1).length := by
      have := expansion.length_le_length_play (source.take n).1
      simp only [List.length_append]
      omega
    rw [take_add, Expansion.play_append, ← List.append_assoc,
      List.take_append_of_le_length enough]
  · have short : (source.take n).1.length < n := by
      have := length_take_le n source
      omega
    rw [take_add_of_length_lt short]

/-- A settled expanding stream plays its cache and then the expansions of its source's
    candidates, in order. -/
theorem take_expand (n : Nat) (cache : List Candidate) (expansion : Expansion) (done : Bool)
    (source : Stream) (settled : done = true → cache = [] ∧ source.exhausted = true) :
    (take n (expand cache expansion done source)).1 =
      (cache ++ expansion.play (source.take n).1).take n := by
  induction n generalizing cache expansion done source with
  | zero => simp
  | succ n inductionHypothesis =>
    cases done with
    | true =>
      obtain ⟨rfl, exhausted⟩ := settled rfl
      rw [take_succ_of_pull_none (pull_expand_done expansion [] source),
        take_of_exhausted exhausted]
      simp
    | false =>
      cases cache with
      | cons c rest =>
        have settled' : (rest.isEmpty && source.exhausted) = true →
            rest = [] ∧ source.exhausted = true := by
          simp
        rw [take_succ_of_pull_some (pull_expand_cached expansion c rest source),
          inductionHypothesis rest expansion _ source settled',
          ← take_append_play_take_add expansion rest n 1 source]
        simp
      | nil =>
        rcases sourcePulled : source.pull with ⟨_ | c, source'⟩
        · rw [take_succ_of_pull_none (pull_expand_drained expansion sourcePulled),
            take_succ_of_pull_none sourcePulled]
          simp
        · have settled' : ((expansion [] c).2.isEmpty && source'.exhausted) = true →
              (expansion [] c).2 = [] ∧ source'.exhausted = true := by
            simp
          rw [take_succ_of_pull_some (pull_expand_fresh expansion sourcePulled),
            inductionHypothesis _ _ _ source' settled', take_succ_of_pull_some sourcePulled]
          simp [Expansion.forms, Expansion.play_cons]

/-- An expanding stream pulls from its source only as far as the outputs drawn need: after a
    take, its source stands after `m` pulls, the outputs drawn and the cache left are the cache
    it started with and the expansions of the candidates those pulls found, and when the take
    was served in full, each of those candidates gave at least one of the outputs drawn. -/
theorem take_expand_source (n : Nat) (cache : List Candidate) (expansion : Expansion)
    (done : Bool) (source : Stream) :
    ∃ m cache' done',
      (take n (expand cache expansion done source)).2 =
        expand cache' (expansion.after (source.take m).1) done' (source.take m).2 ∧
      (take n (expand cache expansion done source)).1 ++ cache' =
        cache ++ expansion.play (source.take m).1 ∧
      ((take n (expand cache expansion done source)).1.length = n →
        ∀ k < m, cache.length + (expansion.play (source.take k).1).length < n) := by
  induction n generalizing cache expansion done source with
  | zero => exact ⟨0, cache, done, by simp⟩
  | succ n inductionHypothesis =>
    cases done with
    | true =>
      refine ⟨0, cache, true, ?_⟩
      rw [take_succ_of_pull_none (pull_expand_done expansion cache source)]
      simp
    | false =>
      cases cache with
      | cons c rest =>
        have pulled := pull_expand_cached expansion c rest source
        obtain ⟨m, cache', done', after, drawn, needed⟩ :=
          inductionHypothesis rest expansion (rest.isEmpty && source.exhausted) source
        refine ⟨m, cache', done', ?_, ?_, ?_⟩
        · rw [take_succ_of_pull_some pulled, after]
        · rw [take_succ_of_pull_some pulled, List.cons_append, drawn, List.cons_append]
        · rw [take_succ_of_pull_some pulled]
          intro full k before
          have := needed (by simpa using full) k before
          simp only [List.length_cons]
          omega
      | nil =>
        rcases sourcePulled : source.pull with ⟨_ | c, source'⟩
        · refine ⟨1, [], true, ?_⟩
          rw [take_succ_of_pull_none (pull_expand_drained expansion sourcePulled),
            take_succ_of_pull_none sourcePulled]
          simp
        · have pulled := pull_expand_fresh expansion sourcePulled
          obtain ⟨m, cache', done', after, drawn, needed⟩ :=
            inductionHypothesis (expansion [] c).2 (expansion.past c)
              ((expansion [] c).2.isEmpty && source'.exhausted) source'
          refine ⟨m + 1, cache', done', ?_, ?_, ?_⟩
          · rw [take_succ_of_pull_some pulled, after, take_succ_of_pull_some sourcePulled,
              Expansion.after_cons]
          · rw [take_succ_of_pull_some pulled, take_succ_of_pull_some sourcePulled,
              List.cons_append, drawn]
            simp [Expansion.forms, Expansion.play_cons]
          · rw [take_succ_of_pull_some pulled]
            intro full k before
            cases k with
            | zero => simp
            | succ k =>
              have := needed (by simpa using full) k (by omega)
              rw [take_succ_of_pull_some sourcePulled]
              simp only [List.length_nil, Nat.zero_add, Expansion.play_cons, List.length_append,
                Expansion.forms, List.length_cons] at this ⊢
              omega

theorem take_expandWith (n : Nat) (expansion : Expansion) (source : Stream) :
    (take n (expandWith expansion source)).1 = (expansion.play (source.take n).1).take n := by
  rw [expandWith, take_expand n [] expansion source.exhausted source
    (fun exhausted => ⟨rfl, exhausted⟩), List.nil_append]

theorem peek_expandWith (expansion : Expansion) (source : Stream) :
    (peek (expandWith expansion source)).1 = (expansion.play (source.take 1).1).head? := by
  unfold expandWith
  by_cases exhausted : source.exhausted = true
  · simp [peek, exhausted, take_of_exhausted exhausted]
  · rcases pulled : source.pull with ⟨_ | c, source'⟩
    · simp [peek, exhausted, pulled, take_succ_of_pull_none pulled]
    · simp [peek, exhausted, pulled, take_succ_of_pull_some pulled, Expansion.forms,
        Expansion.play_cons]

/-- What a consumer that draws `limit` candidates sees of `result`, a stream that expands
    `upstream` through `expansion`, the candidates of which are replaced as `plays` says. -/
structure PlaysExpansion (plays : List Candidate → List Candidate) (expansion : Expansion)
    (upstream result : Stream) (limit : Nat) : Prop where
  drawn : (result.take limit).1 = (plays (upstream.take limit).1).take limit
  head : (result.peek).1 = (plays (upstream.take 1).1).head?
  lazy : ∃ m cache done,
    (result.take limit).2 =
      .expand cache (expansion.after (upstream.take m).1) done (upstream.take m).2 ∧
    (result.take limit).1 ++ cache = plays (upstream.take m).1 ∧
    ((result.take limit).1.length = limit →
      ∀ k < m, (plays (upstream.take k).1).length < limit)
  dry : (result.take limit).1.length < limit → (result.take limit).2.exhausted = true

/-- A stream that expands every candidate of `source` plays the expansions of its source's
    candidates, each after the ones before it. -/
theorem expandWith_playsExpansion (expansion : Expansion) (source : Stream) (limit : Nat) :
    PlaysExpansion expansion.play expansion source (expandWith expansion source) limit where
  drawn := take_expandWith limit expansion source
  head := peek_expandWith expansion source
  lazy := by
    obtain ⟨m, cache, done, after, drawn, needed⟩ :=
      take_expand_source limit [] expansion source.exhausted source
    rw [List.nil_append] at drawn
    simp only [List.length_nil, Nat.zero_add] at needed
    exact ⟨m, cache, done, after, drawn, needed⟩
  dry := exhausted_of_length_take_lt

end Stream

end InputMethod

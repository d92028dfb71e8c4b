import InputMethod.Proofs.Session.Steps

/-! # Auto context keeps the right tail

With auto context on, a session gathers what it commits and hands the tail of it, at most
`autoContextBytes` bytes cut at a character boundary, to the context as the host's text before
the caret. The session keeps only the tail, trimming it again after every commit; over every run
the buffer is nevertheless the tail of everything committed with auto context on since the last
`clear context` (`executeAll_gathers_tail`), and right after each such commit the context's text
before the caret is that buffer, its text after the caret unchanged.

The one fact about tails is that trimming first loses nothing a later tail would keep
(`keepTail_append`): the longest short enough suffix of `keepTail a ++ b` is that of `a ++ b`,
because a suffix reaching back into the part of `a` that was cut is too long already.
-/

namespace InputMethod

/-! ## Tails of a text -/

/-- `tail` is the longest suffix of `text` of at most `limit` bytes that starts at a character
    boundary. -/
structure IsTail (limit : Nat) (text tail : String) : Prop where
  suffix : tail.toList <:+ text.toList
  fits : tail.utf8ByteSize ≤ limit
  longest : ∀ u : List Char, u <:+ text.toList → String.utf8Len u ≤ limit → u.length ≤ tail.length

theorem foldl_utf8Size (cs : List Char) (n : Nat) :
    (cs.map Char.utf8Size).foldl (· + ·) n = n + String.utf8Len cs := by
  induction cs generalizing n with
  | nil => simp
  | cons c cs inductionHypothesis =>
    rw [List.map_cons, List.foldl_cons, inductionHypothesis, String.utf8Len_cons]
    omega

theorem keepTail_cons (limit : Nat) (c : Char) (cs : List Char) :
    keepTail limit (c :: cs) =
      if String.utf8Len (c :: cs) ≤ limit then c :: cs else keepTail limit cs := by
  rw [keepTail, foldl_utf8Size, Nat.zero_add]

theorem keepTail_suffix (limit : Nat) (cs : List Char) : keepTail limit cs <:+ cs := by
  induction cs with
  | nil => exact List.suffix_refl []
  | cons c cs inductionHypothesis =>
    rw [keepTail_cons]
    split
    · exact List.suffix_refl _
    · exact inductionHypothesis.trans (List.suffix_cons c cs)

theorem utf8Len_keepTail_le (limit : Nat) (cs : List Char) :
    String.utf8Len (keepTail limit cs) ≤ limit := by
  induction cs with
  | nil => simp [keepTail]
  | cons c cs inductionHypothesis =>
    rw [keepTail_cons]
    split
    · assumption
    · exact inductionHypothesis

theorem keepTail_longest (limit : Nat) (cs : List Char) {u : List Char} (suffix : u <:+ cs)
    (fits : String.utf8Len u ≤ limit) : u.length ≤ (keepTail limit cs).length := by
  induction cs with
  | nil => simp [List.suffix_nil.mp suffix]
  | cons c cs inductionHypothesis =>
    rw [keepTail_cons]
    split
    · exact suffix.length_le
    · next tooLong =>
      rcases List.suffix_cons_iff.mp suffix with whole | later
      · exact absurd (whole ▸ fits) tooLong
      · exact inductionHypothesis later

/-- Trimming to a tail first keeps the tail of whatever is appended after. -/
theorem keepTail_append (limit : Nat) (a b : List Char) :
    keepTail limit (keepTail limit a ++ b) = keepTail limit (a ++ b) := by
  induction a with
  | nil => simp [keepTail]
  | cons c a inductionHypothesis =>
    rw [keepTail_cons]
    split
    · rfl
    · next tooLong =>
      -- the whole of `c :: a` is too long, so nothing reaching back to `c` is kept either way
      have longer : ¬ String.utf8Len (c :: (a ++ b)) ≤ limit := by
        rw [← List.cons_append, String.utf8Len_append]
        omega
      rw [inductionHypothesis, List.cons_append, keepTail_cons, if_neg longer]

theorem isTail_keepTail (limit : Nat) (text : String) :
    IsTail limit text (String.ofList (keepTail limit text.toList)) where
  suffix := by
    rw [String.toList_ofList]
    exact keepTail_suffix limit text.toList
  fits := by
    rw [String.utf8ByteSize_ofList]
    exact utf8Len_keepTail_le limit text.toList
  longest _ suffix fits := by
    rw [← String.length_toList, String.toList_ofList]
    exact keepTail_longest limit text.toList suffix fits

namespace Session

/-! ## What a line does to the gathered text -/

def addCommitted (auto : Bool) (committed : String) (line : String) (out : List String) : String :=
  match Command.ofLine line with
  | .clearContext => ""
  | _ =>
    match committedBy line out with
    | some text => if auto then committed ++ text else committed
    | none => committed

def committedSinceClear (s : Session) (committed : String) : List (String × Nat) → String
  | [] => committed
  | (line, now) :: rest =>
    (s.execute line now).2.committedSinceClear
      (addCommitted s.autoContext committed line (s.execute line now).1) rest

theorem gathered_compose (s : Session) (input : String) (now : Nat) :
    (s.compose input now).2.gathered = s.gathered :=
  ((resegments_openRound _ now).trans (resegments_listCandidates _ _)).gathered

theorem gathered_execute {s : Session} {committed : String}
    (tail : s.gathered.toList = keepTail autoContextBytes committed.toList) (line : String)
    (now : Nat) :
    (s.execute line now).2.gathered.toList =
      keepTail autoContextBytes (addCommitted s.autoContext committed line (s.execute line now).1).toList := by
  unfold execute addCommitted committedBy
  cases Command.ofLine line with
  | select index =>
    rcases select_cases s index now with ⟨unchanged, silent⟩ | ⟨s', r, committing⟩
    · simp only [perform, silent, unchanged.gathered, tail]
    · -- the commit appends its text to the buffer and trims it again
      simp only [perform, committing, commit_fst, committedReport_commit, gathered_commit,
        r.autoContext, r.gathered]
      split
      · rw [String.toList_ofList, String.toList_append, tail, keepTail_append,
          ← String.toList_append]
      · exact tail
  | clearContext => simp [perform, keepTail]
  | compose input => simpa only [perform, gathered_compose] using tail
  | listAll => simpa only [perform, (resegments_listCandidates s _).gathered] using tail
  | blank | badNumber _ | setOption _ _ | setContext _ _ | showContext | autoContext _ =>
    simpa only [perform] using tail

theorem gathered_executeAll {s : Session} {committed : String}
    (tail : s.gathered.toList = keepTail autoContextBytes committed.toList)
    (lines : List (String × Nat)) :
    (s.executeAll lines).gathered =
      String.ofList (keepTail autoContextBytes (s.committedSinceClear committed lines).toList) := by
  induction lines generalizing s committed with
  | nil => rw [executeAll, committedSinceClear, ← tail, String.ofList_toList]
  | cons step rest inductionHypothesis =>
    obtain ⟨line, now⟩ := step
    rw [executeAll, committedSinceClear]
    exact inductionHypothesis (gathered_execute tail line now)

theorem hostText_execute {s : Session} (auto : s.autoContext = true) {line : String} {now : Nat}
    (committing : (committedBy line (s.execute line now).1).isSome) :
    (s.execute line now).2.context.preceding = (s.execute line now).2.gathered ∧
      (s.execute line now).2.context.following = s.context.following := by
  unfold committedBy at committing
  unfold execute at committing ⊢
  cases h : Command.ofLine line with
  | select index =>
    rw [h] at committing
    rcases select_cases s index now with ⟨_, silent⟩ | ⟨s', r, committed⟩
    · simp [perform, silent] at committing
    · obtain ⟨_, _, _, rfl⟩ := r
      simp only [perform, committed]
      exact hostText_commit auto
  | _ => simp [h] at committing

/-- Along every run of command lines from a new session, the gathered buffer is the longest
    tail, of at most `autoContextBytes` bytes and cut at a character boundary, of the texts
    committed with auto context on since the last `clear context`; and right after each such
    commit the context's text before the caret is that buffer, its text after the caret
    unchanged. -/
theorem executeAll_gathers_tail (table : CodeTable) (chain : FilterChain) (registry : Registry)
    (files : Files) (pageSize : Nat) (lines : List (String × Nat)) :
    IsTail autoContextBytes ((create table chain registry files pageSize).committedSinceClear "" lines)
        ((create table chain registry files pageSize).executeAll lines).gathered ∧
      ∀ line now, ((create table chain registry files pageSize).executeAll lines).autoContext = true →
        (committedBy line
          (((create table chain registry files pageSize).executeAll lines).execute line now).1).isSome →
        (((create table chain registry files pageSize).executeAll lines).execute line now).2.context.preceding =
            (((create table chain registry files pageSize).executeAll lines).execute line now).2.gathered ∧
          (((create table chain registry files pageSize).executeAll lines).execute line now).2.context.following =
            ((create table chain registry files pageSize).executeAll lines).context.following := by
  refine ⟨?_, fun line now auto committing => hostText_execute auto committing⟩
  have fresh : (create table chain registry files pageSize).gathered.toList =
      keepTail autoContextBytes ("" : String).toList := by
    simp [create, keepTail]
  rw [gathered_executeAll fresh lines]
  exact isTail_keepTail _ _

/-- A session that switches auto context on, types `chi` and picks its one candidate commits
    with auto context on, so the law's second half applies to that line. -/
theorem autoContext_commit_of_chi :
    ((create { buckets := [("chi", [⟨"吃", 0⟩])] } {} {} {} 5).executeAll
        [("auto context on", 0), ("chi", 0)]).autoContext = true ∧
      (committedBy "select candidate 1"
        (((create { buckets := [("chi", [⟨"吃", 0⟩])] } {} {} {} 5).executeAll
          [("auto context on", 0), ("chi", 0)]).execute "select candidate 1" 0).1).isSome ∧
      (((create { buckets := [("chi", [⟨"吃", 0⟩])] } {} {} {} 5).executeAll
            [("auto context on", 0), ("chi", 0)]).execute "select candidate 1" 0).2.context.preceding =
          (((create { buckets := [("chi", [⟨"吃", 0⟩])] } {} {} {} 5).executeAll
            [("auto context on", 0), ("chi", 0)]).execute "select candidate 1" 0).2.gathered ∧
        (((create { buckets := [("chi", [⟨"吃", 0⟩])] } {} {} {} 5).executeAll
            [("auto context on", 0), ("chi", 0)]).execute "select candidate 1" 0).2.context.following =
          ((create { buckets := [("chi", [⟨"吃", 0⟩])] } {} {} {} 5).executeAll
            [("auto context on", 0), ("chi", 0)]).context.following :=
  have auto : ((create { buckets := [("chi", [⟨"吃", 0⟩])] } {} {} {} 5).executeAll
      [("auto context on", 0), ("chi", 0)]).autoContext = true := by decide +kernel
  have committing : (committedBy "select candidate 1"
      (((create { buckets := [("chi", [⟨"吃", 0⟩])] } {} {} {} 5).executeAll
        [("auto context on", 0), ("chi", 0)]).execute "select candidate 1" 0).1).isSome := by
    decide +kernel
  ⟨auto, committing, (executeAll_gathers_tail _ _ _ _ _ _).2 _ _ auto committing⟩

end Session

end InputMethod

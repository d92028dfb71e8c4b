import InputMethod.Proofs.Ranking.Reranking
import InputMethod.Proofs.Conversion.Lookup

/-! # Bigram scores, said declaratively

A bigram scorer answers `query context word rear` by looking up a head and a follower and
scoring the pair. The main statement, `query_scores`, says which pair, without the search that
finds it: the head is the longest non-empty suffix of `context` that the model knows as a head
(`IsHeadOf`); the follower is `word` itself, or for a query about the text after the caret the
longest non-empty follower of the head that begins `word` (`IsRearFollower`). The answer is
`weight · (ln P - logFloor)` when the log probability of the pair lies above the floor, and zero
when it does not or when there is no such pair. This holds for every model, weight and cache
capacity, after any history of earlier queries: a cached answer is the computed one.

The search reads the suffixes longest first and keeps the first head it meets, so that head is
the longest. The follower search keeps the last of the byte-longest candidates; all candidates
begin the same word, so they are ordered as prefixes, and two of one length are one text
(`eq_of_isPrefix_of_length`): the longest is unique, whichever the search keeps.
-/

namespace InputMethod

namespace Scorer

/-! ## The head -/

theorem mem_tailsOf {α : Type} {l t : List α} : t ∈ tailsOf l ↔ t ≠ [] ∧ t <:+ l := by
  induction l with
  | nil => simp [tailsOf]
  | cons a rest inductionHypothesis =>
    rw [tailsOf, List.mem_cons, inductionHypothesis, List.suffix_cons_iff]
    constructor
    · rintro (rfl | ⟨nonempty, later⟩)
      · exact ⟨List.cons_ne_nil a rest, .inl rfl⟩
      · exact ⟨nonempty, .inr later⟩
    · rintro ⟨nonempty, rfl | later⟩
      · exact .inl rfl
      · exact .inr ⟨nonempty, later⟩

theorem pairwise_tailsOf {α : Type} (l : List α) :
    (tailsOf l).Pairwise fun t u => u.length < t.length := by
  induction l with
  | nil => exact List.Pairwise.nil
  | cons a rest inductionHypothesis =>
    refine List.pairwise_cons.mpr ⟨fun u member => ?_, inductionHypothesis⟩
    have shorter := (mem_tailsOf.mp member).2.length_le
    simp only [List.length_cons]
    omega

theorem mem_suffixes {context t : String} :
    t ∈ suffixes context ↔ t ≠ "" ∧ t.toList <:+ context.toList := by
  simp only [suffixes, List.mem_map, mem_tailsOf]
  constructor
  · rintro ⟨u, ⟨nonempty, later⟩, rfl⟩
    refine ⟨fun empty => nonempty ?_, by rwa [String.toList_ofList]⟩
    simpa using congrArg String.toList empty
  · rintro ⟨nonempty, later⟩
    exact ⟨t.toList, ⟨fun empty => nonempty (String.toList_eq_nil_iff.mp empty), later⟩,
      String.ofList_toList⟩

/-- `h` is the longest non-empty suffix of `context` that `m` knows as a head. -/
def IsHeadOf (m : Bigram.Model) (context h : String) : Prop :=
  h ≠ "" ∧ h.toList <:+ context.toList ∧ m.containsHead h = true ∧
    ∀ h', h' ≠ "" → h'.toList <:+ context.toList → m.containsHead h' = true →
      h'.length ≤ h.length

/-- Two longest heads are one head. -/
theorem IsHeadOf.unique {m : Bigram.Model} {context h h' : String} (first : IsHeadOf m context h)
    (second : IsHeadOf m context h') : h = h' := by
  have sameLength : h.toList.length = h'.toList.length := by
    have := first.2.2.2 h' second.1 second.2.1 second.2.2.1
    have := second.2.2.2 h first.1 first.2.1 first.2.2.1
    simp only [String.length_toList]
    omega
  rcases List.suffix_or_suffix_of_suffix first.2.1 second.2.1 with shorter | longer
  · exact String.toList_injective (shorter.eq_of_length sameLength)
  · exact (String.toList_injective (longer.eq_of_length sameLength.symm)).symm

theorem head?_eq_some {m : Bigram.Model} {context h : String} (found : head? m context = some h) :
    IsHeadOf m context h := by
  obtain ⟨known, before, after, split, skipped⟩ := List.find?_eq_some_iff_append.mp found
  have member : h ∈ suffixes context := by simp [split]
  obtain ⟨nonempty, ending⟩ := mem_suffixes.mp member
  refine ⟨nonempty, ending, known, fun h' nonempty' ending' known' => ?_⟩
  have member' : h' ∈ suffixes context := mem_suffixes.mpr ⟨nonempty', ending'⟩
  -- a known suffix is not skipped, so it is `h` or comes after it, and is shorter then
  have ordered : (suffixes context).Pairwise fun a b : String => b.length < a.length := by
    rw [suffixes, List.pairwise_map]
    exact (pairwise_tailsOf context.toList).imp fun shorter => by
      simpa [String.length_ofList] using shorter
  rw [split, List.pairwise_append, List.pairwise_cons] at ordered
  rw [split, List.mem_append, List.mem_cons] at member'
  rcases member' with early | rfl | later
  · have unknown := skipped h' early
    simp [known'] at unknown
  · exact Nat.le_refl _
  · exact Nat.le_of_lt (ordered.2.1.1 h' later)

theorem head?_eq_none {m : Bigram.Model} {context : String} (missing : head? m context = none) :
    ∀ h, ¬ IsHeadOf m context h := by
  rintro h ⟨nonempty, ending, known, -⟩
  have unseen := List.find?_eq_none.mp missing h (mem_suffixes.mpr ⟨nonempty, ending⟩)
  simp [known] at unseen

/-! ## The follower after the caret -/

/-- `f` is the longest non-empty follower of `head` that begins `word`. -/
def IsRearFollower (m : Bigram.Model) (head word f : String) : Prop :=
  f ∈ (m.followers head).map (·.word) ∧ f ≠ "" ∧ f.toList <+: word.toList ∧
    ∀ g ∈ (m.followers head).map (·.word), g ≠ "" → g.toList <+: word.toList →
      g.length ≤ f.length

/-- Two texts that begin one word, with as many characters, are one text. -/
theorem eq_of_isPrefix_of_length {f g word : String} (first : f.toList <+: word.toList)
    (second : g.toList <+: word.toList) (sameLength : f.length = g.length) : f = g := by
  rw [← String.length_toList, ← String.length_toList] at sameLength
  rcases List.prefix_or_prefix_of_prefix first second with shorter | longer
  · exact String.toList_injective (shorter.eq_of_length sameLength)
  · exact (String.toList_injective (longer.eq_of_length sameLength.symm)).symm

theorem IsRearFollower.unique {m : Bigram.Model} {head word f g : String}
    (first : IsRearFollower m head word f) (second : IsRearFollower m head word g) : f = g := by
  have le := second.2.2.2 f first.1 first.2.1 first.2.2.1
  have ge := first.2.2.2 g second.1 second.2.1 second.2.2.1
  exact eq_of_isPrefix_of_length first.2.2.1 second.2.2.1 (by omega)

theorem length_le_of_utf8ByteSize_le {f g word : String} (first : f.toList <+: word.toList)
    (second : g.toList <+: word.toList) (fewer : f.utf8ByteSize ≤ g.utf8ByteSize) :
    f.length ≤ g.length := by
  rw [← String.length_toList, ← String.length_toList]
  rcases List.prefix_or_prefix_of_prefix first second with shorter | longer
  · exact shorter.length_le
  · -- `g` begins `f` and has at least its bytes, so it is `f`
    have bounds := Entry.keyLength_le_of_isPrefixOf (e := ⟨g, []⟩) (w := f)
      (String.startsWith_string_iff.mpr longer)
    have same : g = f := bounds.2 (Nat.le_antisymm bounds.1 fewer)
    subst same
    exact Nat.le_refl _

def keepLonger (best : Option String) (f : Bigram.Follower) : Option String :=
  match best with
  | some b => if b.utf8ByteSize ≤ f.word.utf8ByteSize then some f.word else some b
  | none => some f.word

theorem rearFollower?_eq (m : Bigram.Model) (head word : String) :
    rearFollower? m head word =
      ((m.followers head).filter fun f => !f.word.isEmpty && f.word.isPrefixOf word).foldl
        keepLonger none :=
  rfl

theorem keepLonger_cases (best : Option String) (f : Bigram.Follower) :
    (keepLonger best f = some f.word ∧ ∀ b ∈ best, b.utf8ByteSize ≤ f.word.utf8ByteSize) ∨
      ∃ b, best = some b ∧ keepLonger best f = some b ∧ f.word.utf8ByteSize < b.utf8ByteSize := by
  cases best with
  | none => exact .inl ⟨rfl, by simp⟩
  | some b =>
    by_cases shorter : b.utf8ByteSize ≤ f.word.utf8ByteSize
    · exact .inl ⟨by simp [keepLonger, shorter], by simpa using shorter⟩
    · exact .inr ⟨b, rfl, by simp [keepLonger, shorter], by omega⟩

theorem foldl_keepLonger : ∀ (candidates : List Bigram.Follower) (best : Option String) (r : String),
    candidates.foldl keepLonger best = some r →
      (r ∈ candidates.map (·.word) ∨ best = some r) ∧
        (∀ g ∈ candidates.map (·.word), g.utf8ByteSize ≤ r.utf8ByteSize) ∧
        ∀ b ∈ best, b.utf8ByteSize ≤ r.utf8ByteSize
  | [], best, r, kept => by
    simp only [List.foldl_nil] at kept
    subst kept
    simp
  | f :: rest, best, r, kept => by
    rw [List.foldl_cons] at kept
    obtain ⟨whence, longest, overStep⟩ := foldl_keepLonger rest (keepLonger best f) r kept
    rcases keepLonger_cases best f with ⟨taken, overBest⟩ | ⟨b, rfl, kept, longer⟩
    · rw [taken] at whence overStep
      have reached := overStep f.word rfl
      refine ⟨?_, fun g member => ?_, fun b held => Nat.le_trans (overBest b held) reached⟩
      · rcases whence with later | same
        · exact .inl (List.mem_cons_of_mem _ later)
        · exact .inl (Option.some.inj same ▸ List.mem_cons_self)
      · rcases List.mem_cons.mp member with rfl | later
        · exact reached
        · exact longest g later
    · rw [kept] at whence overStep
      have reached := overStep b rfl
      refine ⟨whence.imp (List.mem_cons_of_mem _) id, fun g member => ?_, fun b' held => ?_⟩
      · simp only [List.map_cons, List.mem_cons] at member
        rcases member with rfl | later
        · omega
        · exact longest g later
      · cases held
        exact reached

theorem foldl_keepLonger_none : ∀ (candidates : List Bigram.Follower) {best : Option String},
    candidates.foldl keepLonger best = none → candidates = []
  | [], _, _ => rfl
  | f :: rest, best, missing => by
    rw [List.foldl_cons] at missing
    have kept := foldl_keepLonger_none rest missing
    subst kept
    rcases keepLonger_cases best f with ⟨taken, -⟩ | ⟨b, -, taken, -⟩ <;>
      simp [taken] at missing

theorem rearFollower?_eq_some {m : Bigram.Model} {head word f : String}
    (found : rearFollower? m head word = some f) : IsRearFollower m head word f := by
  rw [rearFollower?_eq] at found
  obtain ⟨whence, longest, -⟩ := foldl_keepLonger _ none f found
  simp only [List.mem_map, List.mem_filter, Bool.and_eq_true, Bool.not_eq_true',
    String.isEmpty_eq_false_iff] at whence longest
  rcases whence with ⟨g, ⟨listed, nonempty, begins⟩, rfl⟩ | never
  · have begins' : g.word.toList <+: word.toList := String.startsWith_string_iff.mp begins
    refine ⟨List.mem_map_of_mem listed, nonempty, begins', fun g' member nonempty' begins'' => ?_⟩
    obtain ⟨h, listed', rfl⟩ := List.mem_map.mp member
    exact length_le_of_utf8ByteSize_le begins'' begins'
      (longest _ ⟨h, ⟨listed', nonempty', String.startsWith_string_iff.mpr begins''⟩, rfl⟩)
  · cases never

theorem rearFollower?_eq_none {m : Bigram.Model} {head word : String}
    (missing : rearFollower? m head word = none) : ∀ f, ¬ IsRearFollower m head word f := by
  rintro f ⟨member, nonempty, begins, -⟩
  rw [rearFollower?_eq] at missing
  have nothing := foldl_keepLonger_none _ missing
  obtain ⟨g, listed, rfl⟩ := List.mem_map.mp member
  have kept : g ∈ (m.followers head).filter fun f => !f.word.isEmpty && f.word.isPrefixOf word := by
    simp only [List.mem_filter, Bool.and_eq_true, Bool.not_eq_true', String.isEmpty_eq_false_iff]
    exact ⟨listed, nonempty, String.startsWith_string_iff.mpr begins⟩
  simp [nothing] at kept

/-! ## The score -/

def IsScoredPair (m : Bigram.Model) (context word : String) (rear : Bool) (h f : String) : Prop :=
  IsHeadOf m context h ∧ if rear then IsRearFollower m h word f else f = word

theorem score_of_isScoredPair {s : Scorer} {context word : String} {rear : Bool} {h f : String}
    (scored : IsScoredPair s.model context word rear h f) :
    s.score context word rear =
      if s.model.logProbability h f ≤ Bigram.logFloor then 0.0
      else s.weight * (s.model.logProbability h f - Bigram.logFloor) := by
  obtain ⟨head, follower⟩ := scored
  unfold score
  cases found : head? s.model context with
  | none => exact absurd head (head?_eq_none found h)
  | some h' =>
    obtain rfl := (head?_eq_some found).unique head
    cases rear with
    | false =>
      simp only [Bool.false_eq_true, ite_false] at follower ⊢
      rw [follower]
    | true =>
      simp only [ite_true] at follower ⊢
      cases searched : rearFollower? s.model h' word with
      | none => exact absurd follower (rearFollower?_eq_none searched f)
      | some f' => obtain rfl := (rearFollower?_eq_some searched).unique follower; rfl

theorem score_of_not_isScoredPair {s : Scorer} {context word : String} {rear : Bool}
    (unscored : ∀ h f, ¬ IsScoredPair s.model context word rear h f) :
    s.score context word rear = 0.0 := by
  unfold score
  cases found : head? s.model context with
  | none => rfl
  | some h =>
    have head := head?_eq_some found
    cases rear with
    | false => exact absurd ⟨head, rfl⟩ (unscored h word)
    | true =>
      simp only [ite_true]
      cases searched : rearFollower? s.model h word with
      | none => rfl
      | some f => exact absurd ⟨head, rearFollower?_eq_some searched⟩ (unscored h f)

/-! ## Through the cache -/

theorem coherent_foldl_query {s : Scorer} (coherent : s.Coherent) (history : List Query) :
    (history.foldl (fun s q => (s.query q.1 q.2.1 q.2.2).2) s).Coherent ∧
      (history.foldl (fun s q => (s.query q.1 q.2.1 q.2.2).2) s).score = s.score := by
  induction history generalizing s with
  | nil => exact ⟨coherent, rfl⟩
  | cons q rest inductionHypothesis =>
    obtain ⟨stays, same⟩ := inductionHypothesis (coherent_query coherent q.1 q.2.1 q.2.2)
    exact ⟨stays, same.trans (score_query s q.1 q.2.1 q.2.2)⟩

/-- Bigram scores are the declarative ones, with or without a cache and after any history of
    questions. The log probability above the floor is written `¬ (logP ≤ logFloor)`, as the
    scorer tests it. -/
theorem query_scores (m : Bigram.Model) (weight : Float) (capacity : Nat) (history : List Query)
    (context word : String) (rear : Bool) :
    let s := history.foldl (fun s q => (s.query q.1 q.2.1 q.2.2).2)
      (({ model := m, weight } : Scorer).withCache capacity)
    (∀ h f, IsScoredPair m context word rear h f →
      (s.query context word rear).1 =
        if m.logProbability h f ≤ Bigram.logFloor then 0.0
        else weight * (m.logProbability h f - Bigram.logFloor)) ∧
    ((∀ h f, ¬ IsScoredPair m context word rear h f) → (s.query context word rear).1 = 0.0) := by
  intro s
  obtain ⟨coherent, sameScore⟩ :=
    coherent_foldl_query (coherent_withCache { model := m, weight } capacity) history
  have answered : (s.query context word rear).1 = ({ model := m, weight } : Scorer).score context word rear := by
    rw [query_fst coherent, sameScore, withCache, score_withCacheField]
  rw [answered]
  exact ⟨fun h f scored => score_of_isScoredPair scored, fun unscored => score_of_not_isScoredPair unscored⟩

/-- After `ab`, a model that knows only `b` reads `b` as the head; for the text `cde` after the
    caret it reads the follower `cd` rather than `c`, also when the question was cached before. -/
theorem scores_longest_rear_follower :
    let m : Bigram.Model := { heads := [("b", [⟨"cd", 1⟩, ⟨"c", 1⟩])], totals := [("b", 2)] }
    IsScoredPair m "ab" "cde" true "b" "cd" ∧
      (((({ model := m, weight := 2.0 } : Scorer).withCache 4).query "ab" "cde" true).2.query
          "ab" "cde" true).1 =
        if m.logProbability "b" "cd" ≤ Bigram.logFloor then 0.0
        else 2.0 * (m.logProbability "b" "cd" - Bigram.logFloor) := by
  intro m
  have pair : IsScoredPair m "ab" "cde" true "b" "cd" :=
    ⟨head?_eq_some (by decide), rearFollower?_eq_some (by decide +kernel)⟩
  exact ⟨pair, (query_scores m 2.0 4 [("ab", "cde", true)] "ab" "cde" true).1 "b" "cd" pair⟩

end Scorer

end InputMethod

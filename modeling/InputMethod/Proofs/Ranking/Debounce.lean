import Mathlib.Data.List.Induction
import InputMethod.Proofs.Ranking.Reranking

/-! # The gates of the ranking filter over a run

A host calls the ranking filter again and again, with clock readings of its own that need not
increase. Each call goes one of three ways (`apply_cases`): it is stopped by one of the first
gates (no grammar, ranking disabled, an exhausted stream, no context, a short input) and leaves
the filter as it was; or it gets to the debounce gate, moves the filter's clock to its reading,
and is stopped there or by the lack of text around the caret; or it passes every gate and
re-ranks its stream.

Over a run (`applyAll`), the filter's clock is the reading of the latest call that got to the
debounce gate (`lastReading`), and the gates a call meets depend on the filter only through
what the run keeps of it (`Keeps`): its options, whether it has a grammar, and the grammar's
answers. `applyAll_debounces` puts these together: every call, after any history, re-ranks by
the re-ranking law exactly when it gets to the debounce gate late enough with text around the
caret, and otherwise returns its stream as it came.
-/

namespace InputMethod

namespace Ranker

/-- A call of the ranking filter: the stream to rank, the context and the clock reading. -/
structure Call where
  stream : Stream
  context : Option Context
  now : Nat

/-- Calls one after another, each meeting the filter the one before left: what the calls
    answered, in order, and the filter after the last. -/
def applyAll (r : Ranker) (calls : List Call) : List Ranked × Ranker :=
  calls.foldl (fun run c =>
    let (out, r') := run.2.apply c.stream c.context c.now
    (run.1 ++ [out], r')) ([], r)

theorem applyAll_append_singleton (r : Ranker) (calls : List Call) (c : Call) :
    r.applyAll (calls ++ [c]) =
      ((r.applyAll calls).1 ++ [((r.applyAll calls).2.apply c.stream c.context c.now).1],
        ((r.applyAll calls).2.apply c.stream c.context c.now).2) := by
  simp only [applyAll, List.foldl_append, List.foldl_cons, List.foldl_nil]

def opens (r : Ranker) (s : Stream) (ctx : Option Context) : Bool :=
  match r.grammar, ctx with
  | some _, some c =>
    r.options.enabled && !s.exhausted && decide (r.options.minInputLength ≤ c.input.utf8ByteSize)
  | _, _ => false

/-- The clock reading of the latest call of `history` that got to the debounce gate of a filter
    set up as `r`, or `start` when none did. -/
def lastReading (r : Ranker) (start : Nat) (history : List Call) : Nat :=
  history.foldl (fun t c => if r.opens c.stream c.context then c.now else t) start

theorem lastReading_append_singleton (r : Ranker) (start : Nat) (history : List Call) (c : Call) :
    lastReading r start (history ++ [c]) =
      if r.opens c.stream c.context then c.now else lastReading r start history := by
  simp [lastReading, List.foldl_append]

/-! ## One call -/

theorem firstGates_eq {r : Ranker} {g : Grammar} (hasGrammar : r.grammar = some g) (s : Stream)
    (c : Context) :
    (!r.options.enabled || s.exhausted ||
      decide (c.input.utf8ByteSize < r.options.minInputLength)) = !r.opens s (some c) := by
  simp only [opens, hasGrammar]
  by_cases longEnough : r.options.minInputLength ≤ c.input.utf8ByteSize
  · simp [longEnough, Nat.not_lt.mpr longEnough]
  · simp [longEnough, Nat.lt_of_not_le longEnough]

theorem opens_eq_true {r : Ranker} {s : Stream} {ctx : Option Context} :
    r.opens s ctx = true ↔ ∃ g c, r.grammar = some g ∧ ctx = some c ∧
      r.options.enabled = true ∧ s.exhausted = false ∧
      r.options.minInputLength ≤ c.input.utf8ByteSize := by
  cases hasGrammar : r.grammar <;> cases ctx <;> simp [opens, hasGrammar, and_assoc]

theorem apply_of_closed {r : Ranker} {s : Stream} {ctx : Option Context} (now : Nat)
    (closed : r.opens s ctx = false) : r.apply s ctx now = ({ stream := s }, r) := by
  cases hasGrammar : r.grammar with
  | none => simp [apply, hasGrammar]
  | some g =>
    cases ctx with
    | none => simp [apply, hasGrammar]
    | some c => simp [apply, hasGrammar, firstGates_eq hasGrammar, closed]

theorem apply_of_waiting {r : Ranker} {g : Grammar} {s : Stream} {c : Context} {now : Nat}
    (hasGrammar : r.grammar = some g) (opening : r.opens s (some c) = true)
    (waiting : now - r.lastGate < r.options.debounceMs ∨ (leftText c = "" ∧ c.following = "")) :
    r.apply s (some c) now = ({ stream := s }, { r with lastGate := now }) := by
  have asleep : (decide (now - r.lastGate < r.options.debounceMs) ||
      ((leftText c).isEmpty && c.following.isEmpty)) = true := by
    simpa [String.isEmpty_iff] using waiting
  unfold leftText at asleep
  simp only [apply, hasGrammar, firstGates_eq hasGrammar, opening, Bool.not_true,
    Bool.false_eq_true, if_false, asleep, if_true]

theorem apply_snd_of_gates {r : Ranker} {g : Grammar} {s : Stream} {c : Context} {now : Nat}
    (hasGrammar : r.grammar = some g) (opening : r.opens s (some c) = true)
    (settled : r.options.debounceMs ≤ now - r.lastGate)
    (aroundCaret : leftText c ≠ "" ∨ c.following ≠ "") :
    (r.apply s (some c) now).2 =
      { r with
        lastGate := now
        grammar :=
          some (collect (leftText c) c.following r.options.maxCandidates g [] s).2.1 } := by
  have awake : (decide (now - r.lastGate < r.options.debounceMs) ||
      ((leftText c).isEmpty && c.following.isEmpty)) = false := by
    simp only [Bool.or_eq_false_iff, decide_eq_false_iff_not, Nat.not_lt, Bool.and_eq_false_iff,
      String.isEmpty_eq_false_iff]
    exact ⟨settled, aroundCaret⟩
  unfold leftText at awake ⊢
  simp only [apply, hasGrammar, firstGates_eq hasGrammar, opening, Bool.not_true,
    Bool.false_eq_true, if_false, awake]
  -- whatever the collecting loop found, the filter keeps the grammar it left
  generalize collect (if c.preceding.isEmpty = true then c.internalPreceding else c.preceding)
    c.following r.options.maxCandidates g [] s = collected
  obtain ⟨scored, grammar, queries, rest⟩ := collected
  split
  · rfl
  · split <;> rfl

/-- The three ways a call goes: stopped by one of the first gates, leaving the filter as it
    was; stopped at the debounce gate or for lack of text around the caret, after moving the
    clock to its reading; or through every gate, leaving the grammar the scoring left. -/
theorem apply_cases (r : Ranker) (s : Stream) (ctx : Option Context) (now : Nat) :
    (r.opens s ctx = false ∧ r.apply s ctx now = ({ stream := s }, r)) ∨
    (r.opens s ctx = true ∧
      (∀ c, ctx = some c →
        now - r.lastGate < r.options.debounceMs ∨ (leftText c = "" ∧ c.following = "")) ∧
      r.apply s ctx now = ({ stream := s }, { r with lastGate := now })) ∨
    (∃ g c, r.grammar = some g ∧ ctx = some c ∧ r.opens s ctx = true ∧
      r.options.enabled = true ∧ s.exhausted = false ∧
      r.options.minInputLength ≤ c.input.utf8ByteSize ∧
      r.options.debounceMs ≤ now - r.lastGate ∧ (leftText c ≠ "" ∨ c.following ≠ "") ∧
      (r.apply s ctx now).2 =
        { r with
          lastGate := now
          grammar :=
            some (collect (leftText c) c.following r.options.maxCandidates g [] s).2.1 }) := by
  cases opening : r.opens s ctx with
  | false => exact .inl ⟨rfl, apply_of_closed now opening⟩
  | true =>
    obtain ⟨g, c, hasGrammar, rfl, enabled, live, longEnough⟩ := opens_eq_true.mp opening
    by_cases waiting : now - r.lastGate < r.options.debounceMs ∨
        (leftText c = "" ∧ c.following = "")
    · refine .inr (.inl ⟨rfl, fun c' same => ?_, apply_of_waiting hasGrammar opening waiting⟩)
      cases same
      exact waiting
    · simp only [not_or, Nat.not_lt, Classical.not_and_iff_not_or_not] at waiting
      exact .inr (.inr ⟨g, c, hasGrammar, rfl, rfl, enabled, live, longEnough, waiting.1,
        waiting.2, apply_snd_of_gates hasGrammar opening waiting.1 waiting.2⟩)

/-- What a filter `r'` keeps of a filter `r` with a coherent grammar: the options, a grammar
    exactly when `r` has one, and that grammar coherent and answering as `r`'s does. -/
structure Keeps (r r' : Ranker) : Prop where
  options : r'.options = r.options
  present : r'.grammar.isSome = r.grammar.isSome
  answers : ∀ g', r'.grammar = some g' →
    g'.Coherent ∧ ∃ g, r.grammar = some g ∧ g'.answer = g.answer

theorem keeps_of_same {r r' : Ranker} (coherent : ∀ g, r.grammar = some g → g.Coherent)
    (sameOptions : r'.options = r.options) (sameGrammar : r'.grammar = r.grammar) : Keeps r r' :=
  ⟨sameOptions, by rw [sameGrammar],
    fun g held => ⟨coherent g (sameGrammar ▸ held), g, sameGrammar ▸ held, rfl⟩⟩

theorem Keeps.trans {r r' r'' : Ranker} (first : Keeps r r') (second : Keeps r' r'') :
    Keeps r r'' := by
  refine ⟨second.options.trans first.options, second.present.trans first.present, ?_⟩
  intro g'' held
  obtain ⟨coherent, g', held', sameAnswers⟩ := second.answers g'' held
  obtain ⟨-, g, held'', sameAnswers'⟩ := first.answers g' held'
  exact ⟨coherent, g, held'', sameAnswers.trans sameAnswers'⟩

theorem Keeps.coherent {r r' : Ranker} (keeps : Keeps r r') :
    ∀ g, r'.grammar = some g → g.Coherent :=
  fun g held => (keeps.answers g held).1

theorem Keeps.opens {r r' : Ranker} (keeps : Keeps r r') (s : Stream) (ctx : Option Context) :
    r'.opens s ctx = r.opens s ctx := by
  have present := keeps.present
  cases held : r.grammar <;> cases held' : r'.grammar <;> simp [held, held'] at present <;>
    cases ctx <;> simp [Ranker.opens, held, held', keeps.options]

theorem keeps_apply {r : Ranker} (coherent : ∀ g, r.grammar = some g → g.Coherent) (s : Stream)
    (ctx : Option Context) (now : Nat) : Keeps r (r.apply s ctx now).2 := by
  rcases apply_cases r s ctx now with ⟨-, stopped⟩ | ⟨-, -, stopped⟩ |
    ⟨g, c, hasGrammar, -, -, -, -, -, -, -, after⟩
  · rw [stopped]
    exact keeps_of_same coherent rfl rfl
  · rw [stopped]
    exact keeps_of_same coherent rfl rfl
  · obtain ⟨-, -, stillCoherent, sameAnswers⟩ :=
      collect_eq (coherent g hasGrammar) (leftText c) c.following r.options.maxCandidates [] s
    rw [after]
    refine ⟨rfl, by simp [hasGrammar], fun g' held => ?_⟩
    obtain rfl := Option.some.inj held
    exact ⟨stillCoherent, g, hasGrammar, sameAnswers⟩

theorem lastGate_apply (r : Ranker) (s : Stream) (ctx : Option Context) (now : Nat) :
    (r.apply s ctx now).2.lastGate = if r.opens s ctx then now else r.lastGate := by
  rcases apply_cases r s ctx now with ⟨closed, stopped⟩ | ⟨opening, -, stopped⟩ |
    ⟨g, c, -, -, opening, -, -, -, -, -, after⟩
  · simp [stopped, closed]
  · simp [stopped, opening]
  · simp [after, opening]

/-! ## A run of calls -/

theorem keeps_applyAll {r : Ranker} (coherent : ∀ g, r.grammar = some g → g.Coherent)
    (calls : List Call) : Keeps r (r.applyAll calls).2 := by
  induction calls using List.reverseRecOn with
  | nil => exact keeps_of_same coherent rfl rfl
  | append_singleton calls c inductionHypothesis =>
    rw [applyAll_append_singleton]
    exact inductionHypothesis.trans (keeps_apply inductionHypothesis.coherent _ _ _)

theorem lastGate_applyAll {r : Ranker} (coherent : ∀ g, r.grammar = some g → g.Coherent)
    (calls : List Call) : (r.applyAll calls).2.lastGate = lastReading r r.lastGate calls := by
  induction calls using List.reverseRecOn with
  | nil => rfl
  | append_singleton calls c inductionHypothesis =>
    rw [applyAll_append_singleton, lastGate_apply, (keeps_applyAll coherent calls).opens,
      inductionHypothesis, lastReading_append_singleton]

/-! ## The law of the gates -/

theorem rerankingLaw_of_arranged (g : Grammar) (left right : String) (cap : Nat) (s : Stream)
    (ranked : Ranked)
    (streamEq : ranked.stream =
      if ((s.take cap).1.map fun cand => (cand, total g left right cand)).isEmpty then
        (s.take cap).2
      else Stream.concat [.ofList (arrange ((s.take cap).1.map fun cand =>
        (cand, total g left right cand))), (s.take cap).2])
    (rescoredEq : ranked.rescored =
      if ((s.take cap).1.map fun cand => (cand, total g left right cand)).length <
        minCandidatesToSort then []
      else arrange ((s.take cap).1.map fun cand => (cand, total g left right cand))) :
    RerankingLaw g left right cap s ranked := by
  refine ⟨arrange ((s.take cap).1.map fun cand => (cand, total g left right cand)), ?_, ?_, ?_⟩
  · intro few
    refine ⟨by simp [arrange, few, Function.comp_def], ?_⟩
    rw [rescoredEq, if_pos (by simpa using few)]
  · intro many
    refine ⟨_, sortByTotal_stablyDescending _, by simp [arrange, Nat.not_lt.mpr many], ?_⟩
    rw [rescoredEq, if_neg (by simpa using Nat.not_lt.mpr many)]
  · intro limit
    rw [streamEq]
    split
    · next nothing =>
      -- an empty head: the call plays what the take left, which is the rest of the stream
      have noHead : (s.take cap).1 = [] := by simpa using nothing
      simp only [noHead, List.map_nil, List.length_nil, arrange, minCandidatesToSort]
      rw [Stream.take_after, noHead]
      simp [List.take_of_length_le (Stream.length_take_le limit s)]
    · exact Stream.take_concat_ofList_after _ _ limit s (by simp)

theorem rerankingLaw_of_gates {r : Ranker} {g g' : Grammar} {s : Stream} {c : Context}
    {now : Nat} (hasGrammar : r.grammar = some g') (coherent : g'.Coherent)
    (sameAnswers : g'.answer = g.answer) (enabled : r.options.enabled = true)
    (live : s.exhausted = false) (longEnough : r.options.minInputLength ≤ c.input.utf8ByteSize)
    (settled : r.options.debounceMs ≤ now - r.lastGate)
    (aroundCaret : leftText c ≠ "" ∨ c.following ≠ "") :
    RerankingLaw g (leftText c) c.following r.options.maxCandidates s
      (r.apply s (some c) now).1 := by
  obtain ⟨streamEq, rescoredEq⟩ :=
    apply_of_gates r g' s c now hasGrammar enabled live longEnough settled aroundCaret
  obtain ⟨scored, rest, -, -⟩ :=
    collect_eq coherent (leftText c) c.following r.options.maxCandidates [] s
  rw [scored, rest, total_congr sameAnswers] at streamEq
  rw [scored, total_congr sameAnswers] at rescoredEq
  exact rerankingLaw_of_arranged g _ _ _ s _ streamEq rescoredEq

def DebounceLaw (r : Ranker) (history : List Call) (call : Call) : Prop :=
  let before := (r.applyAll history).2
  let out := before.apply call.stream call.context call.now
  let last := lastReading r r.lastGate history
  let reranks := r.opens call.stream call.context = true ∧
    r.options.debounceMs ≤ call.now - last ∧
    ∃ c, call.context = some c ∧ (leftText c ≠ "" ∨ c.following ≠ "")
  before.lastGate = last ∧
  out.2.lastGate = (if r.opens call.stream call.context then call.now else last) ∧
  (∀ g c, r.grammar = some g → call.context = some c → reranks →
    RerankingLaw g (leftText c) c.following r.options.maxCandidates call.stream out.1) ∧
  (¬ reranks → out.1 = { stream := call.stream })

/-- Every call of every run of the ranking filter, whatever the clock readings, obeys the law of
    the gates. -/
theorem applyAll_debounces (r : Ranker) (coherent : ∀ g, r.grammar = some g → g.Coherent)
    (history : List Call) (call : Call) : DebounceLaw r history call := by
  have keeps := keeps_applyAll coherent history
  have clock := lastGate_applyAll coherent history
  have sameOpens := keeps.opens call.stream call.context
  unfold DebounceLaw
  generalize (r.applyAll history).2 = before at keeps clock sameOpens
  refine ⟨clock, by rw [lastGate_apply, sameOpens, clock], ?_⟩
  rcases apply_cases before call.stream call.context call.now with ⟨closed, stopped⟩ |
    ⟨opening, waiting, stopped⟩ |
    ⟨g', c, held, hasContext, opening, enabled, live, longEnough, settled, aroundCaret, -⟩
  -- stopped by one of the first gates
  · refine ⟨fun g c _ _ reranks => ?_, fun _ => by rw [stopped]⟩
    exact absurd reranks.1 (by simp [← sameOpens, closed])
  -- stopped at the debounce gate or for lack of text around the caret
  · refine ⟨fun g c _ _ reranks => ?_, fun _ => by rw [stopped]⟩
    obtain ⟨-, late, c', hasContext', aroundCaret⟩ := reranks
    rcases waiting c' hasContext' with early | noText
    · rw [clock, keeps.options] at early
      omega
    · simp [noText.1, noText.2] at aroundCaret
  -- through every gate
  · refine ⟨fun g c' hasGrammar hasContext' _ => ?_, fun notReranks => ?_⟩
    · obtain rfl : c' = c := Option.some.inj (hasContext'.symm.trans hasContext)
      obtain ⟨coherent', g'', held', sameAnswers⟩ := keeps.answers g' held
      obtain rfl : g'' = g := Option.some.inj (held'.symm.trans hasGrammar)
      rw [hasContext, ← keeps.options]
      exact rerankingLaw_of_gates held coherent' sameAnswers enabled live longEnough settled
        aroundCaret
    · exact absurd ⟨sameOpens ▸ opening, keeps.options ▸ clock ▸ settled, c, hasContext,
        aroundCaret⟩ notReranks

/-- The law for a call half a debounce delay after one that got to the debounce gate, on a filter
    with a grammar that remembers nothing. -/
theorem debounces_early_call :
    (∀ g, ({ grammar := some (.fixed []) } : Ranker).grammar = some g → g.Coherent) ∧
      DebounceLaw { grammar := some (.fixed []) }
        [⟨.ofList [.make "phrase" 0 2 "a" 0.0], some { input := "ab", preceding := "x" }, 200⟩]
        ⟨.ofList [.make "phrase" 0 2 "b" 0.0], some { input := "ab", preceding := "x" }, 250⟩ :=
  ⟨fun g held => by cases held; trivial,
    applyAll_debounces _ (fun g held => by cases held; trivial) _ _⟩

end Ranker

end InputMethod

import InputMethod.Filter.Simplifier
import InputMethod.Proofs.Stream.Playback
import InputMethod.Proofs.Conversion.WordForms

/-! # The simplifier as a flat map

While its option is on, the simplifier replaces each candidate of its stream by what the
candidate converts to: `Simplifier.forms`, the converted candidates, or the candidate itself
when it does not convert. Conversions go one after another through one engine, which each
conversion may leave changed: loaded, and in random mode with its generator past the draws
made. So a candidate is converted with the engine the conversions of the candidates before it
left (`Simplifier.engineAfter`), and what the stream plays is `formsAlong`, the forms of each
candidate in turn with the engine threaded through them.

The main statement, `apply_playsExpansion`, says that a consumer then draws exactly
`formsAlong` over the upstream's candidates, in order, that a look at the head shows nothing
else, and that the upstream is pulled only as far as the drawn candidates need, the stream
left holding the engine after the candidates pulled.

The stream law itself is `Stream.expandWith_playsExpansion`; what is proved here is that the
simplifier's expansion plays `formsAlong` (`play_expansion`), which needs the one fact that a
conversion never answers an empty list of forms (`convert?_eq_some`): such an answer would
silently drop a candidate.
-/

namespace InputMethod

namespace Simplifier

/-- What takes the place of `c` with engine `e`: the candidates it converts to, or `c` itself
    when it does not convert. -/
def forms (s : Simplifier) (e : Engine) (fs : Files) (c : Candidate) : List Candidate :=
  (s.convert? e fs c).1.getD [c]

/-- What takes the place of `cs`, converted one after another from engine `e`: the forms of each
    candidate with the engine the conversions before it left. -/
def formsAlong (s : Simplifier) (e : Engine) (fs : Files) : List Candidate → List Candidate
  | [] => []
  | c :: cs => s.forms e fs c ++ s.formsAlong (s.convert? e fs c).2 fs cs

theorem forms_of_unconverted (s : Simplifier) (e : Engine) (fs : Files) (c : Candidate)
    (unconverted : c.text = "" ∨ c.kind ∈ s.excludedKinds) : s.forms e fs c = [c] := by
  have skipped : (c.text.isEmpty || s.excludedKinds.contains c.kind) = true := by
    rcases unconverted with empty | excluded
    · simp [empty]
    · simp [excluded]
  simp only [forms, convert?]
  rw [if_pos skipped, Option.getD_none]

/-- What a conversion answers is never empty, and each of its candidates is `c` itself or a
    `simplified` shadow of `c`. -/
theorem convert?_eq_some {s : Simplifier} {e : Engine} {fs : Files} {c : Candidate}
    {converted : List Candidate} (answered : (s.convert? e fs c).1 = some converted) :
    converted ≠ [] ∧ ∀ d ∈ converted, d = c ∨
      ∃ text comment inherit quality, d = .shadow c "simplified" text comment inherit quality := by
  have shadowed : ∀ form, ∃ text comment inherit quality,
      s.presentation.shadow c form = .shadow c "simplified" text comment inherit quality :=
    fun _ => ⟨_, _, _, _, rfl⟩
  -- random mode and the default conversion answer one shadow
  have single : ∀ form, [s.presentation.shadow c form] ≠ [] ∧
      ∀ d ∈ [s.presentation.shadow c form], d = c ∨
        ∃ text comment inherit quality, d = .shadow c "simplified" text comment inherit quality :=
    fun form => ⟨List.cons_ne_nil _ _,
      fun d member => List.mem_singleton.mp member ▸ .inr (shadowed form)⟩
  simp only [convert?] at answered
  split at answered
  · cases answered
  · split at answered
    · obtain ⟨form, -, rfl⟩ := Option.map_eq_some_iff.mp answered
      exact single form
    · split at answered
      · next words _ found =>
        obtain rfl := Option.some.inj answered
        refine ⟨fun empty => Engine.ne_nil_of_convertWord_eq_some (congrArg Prod.fst found)
          (List.map_eq_nil_iff.mp empty), ?_⟩
        intro d member
        obtain ⟨form, -, made⟩ := List.mem_map.mp member
        split at made
        · exact .inl made.symm
        · exact .inr (made ▸ shadowed form)
      · obtain ⟨form, -, rfl⟩ := Option.map_eq_some_iff.mp answered
        exact single form

theorem mem_forms (s : Simplifier) (e : Engine) (fs : Files) (c d : Candidate)
    (member : d ∈ s.forms e fs c) : d = c ∨
      ∃ text comment inherit quality, d = .shadow c "simplified" text comment inherit quality := by
  unfold forms at member
  cases answered : (s.convert? e fs c).1 with
  | none =>
    rw [answered, Option.getD_none, List.mem_singleton] at member
    exact .inl member
  | some converted =>
    rw [answered, Option.getD_some] at member
    exact (convert?_eq_some answered).2 d member

theorem forms_expansion (s : Simplifier) (e : Engine) (fs : Files) (before : List Candidate)
    (c : Candidate) :
    (s.expansion e fs).forms before c = s.forms (s.engineAfter e fs before) fs c := by
  unfold Expansion.forms expansion forms
  cases converted : (s.convert? (s.engineAfter e fs before) fs c).1 with
  | none => rfl
  | some candidates =>
    cases candidates with
    | nil => exact absurd rfl (convert?_eq_some converted).1
    | cons first rest => rfl

theorem expansion_after (s : Simplifier) (e : Engine) (fs : Files) (cs : List Candidate) :
    (s.expansion e fs).after cs = s.expansion (s.engineAfter e fs cs) fs := by
  funext before c
  simp only [Expansion.after, expansion, engineAfter, List.foldl_append]

/-- The simplifier's expansion plays `formsAlong`: the engine is threaded through the
    candidates. -/
theorem play_expansion (s : Simplifier) (fs : Files) (cs : List Candidate) :
    ∀ e, (s.expansion e fs).play cs = s.formsAlong e fs cs := by
  induction cs with
  | nil => intro e; rfl
  | cons c cs inductionHypothesis =>
    intro e
    -- past its first candidate, the expansion is the one of the engine that candidate left
    have past : (s.expansion e fs).past c = s.expansion (s.convert? e fs c).2 fs := rfl
    rw [Expansion.play_cons, past, inductionHypothesis, forms_expansion, formsAlong]
    rfl

/-- The simplifier, switched on, plays `formsAlong` over its upstream. Every candidate is
    replaced, with whatever engine, by at least one candidate, itself or its `simplified`
    shadows, in place, and one with empty text or of an excluded kind by itself alone; the
    engine goes on from candidate to candidate; a consumer that draws `limit` candidates gets
    the first `limit` of the replacements, in the upstream's order, sees the first of them on a
    look at the head, and pulls the upstream only as far as those need. -/
theorem apply_playsExpansion (s : Simplifier) (e : Engine) (fs : Files) (upstream : Stream)
    (ctx : Context) (switchedOn : ctx.getOption s.optionName = true) (limit : Nat) :
    (∀ e' c, s.forms e' fs c ≠ [] ∧
      ((c.text = "" ∨ c.kind ∈ s.excludedKinds) → s.forms e' fs c = [c]) ∧
      ∀ d ∈ s.forms e' fs c,
        d = c ∨ ∃ text comment inherit quality, d = .shadow c "simplified" text comment inherit quality) ∧
    (∀ cs, (s.expansion e fs).after cs = s.expansion (s.engineAfter e fs cs) fs) ∧
    Stream.PlaysExpansion (s.formsAlong e fs) (s.expansion e fs) upstream
      (s.apply e fs upstream (some ctx)) limit := by
  refine ⟨fun e' c => ⟨?_, forms_of_unconverted s e' fs c, mem_forms s e' fs c⟩,
    expansion_after s e fs, ?_⟩
  · have formed : (s.expansion e' fs).forms [] c = s.forms e' fs c := forms_expansion s e' fs [] c
    rw [← formed]
    exact Expansion.forms_ne_nil _ [] c
  · have switched : s.apply e fs upstream (some ctx) = upstream.expandWith (s.expansion e fs) := by
      simp [apply, isOn, switchedOn]
    have played : (s.expansion e fs).play = s.formsAlong e fs := funext fun cs =>
      play_expansion s fs cs e
    rw [switched, ← played]
    exact Stream.expandWith_playsExpansion _ upstream limit

/-- A switched-on simplifier over a two-phrase stream, drawn two at a time. -/
theorem simplifies_two_phrases :
    ({ options := [(defaultSimplifierOption, true)] } : Context).getOption
        ({ engine := 0 } : Simplifier).optionName = true ∧
      Stream.PlaysExpansion (Simplifier.formsAlong { engine := 0 } (Engine.create "t2s.json" 0) {})
        (Simplifier.expansion { engine := 0 } (Engine.create "t2s.json" 0) {})
        (Stream.ofList [.make "phrase" 0 2 "ab" 0.0, .make "phrase" 0 2 "cd" 0.0])
        (Simplifier.apply { engine := 0 } (Engine.create "t2s.json" 0) {}
          (Stream.ofList [.make "phrase" 0 2 "ab" 0.0, .make "phrase" 0 2 "cd" 0.0])
          (some { options := [(defaultSimplifierOption, true)] })) 2 :=
  ⟨rfl, (apply_playsExpansion { engine := 0 } (Engine.create "t2s.json" 0) {}
    (Stream.ofList [.make "phrase" 0 2 "ab" 0.0, .make "phrase" 0 2 "cd" 0.0])
    { options := [(defaultSimplifierOption, true)] } rfl 2).2.2⟩

end Simplifier

end InputMethod

import InputMethod.Proofs.Conversion.Loading
import InputMethod.Proofs.Conversion.Groups

/-! # Conversions that draw their values

An engine converts a text in two ways: by default, writing the first value of each match, and
at random, writing a value drawn from the engine's generator for each match. The two walks have
the same shape and differ only in how a value is picked (`walk` with `Entry.default`, and
`walkDrawing`). Where the stages' dictionaries hold at most one value for every entry, at any
depth of their groups, there is nothing to choose: a draw from one value gives that value,
however the generator stands and whatever its sampler
(`Random.Generator.choose_of_length_le_one`), and nothing is drawn from none. So the random walk
writes what the default walk writes (`walkDrawing_fst`), stage after stage
(`foldl_walkDrawing_fst`), and a ready engine without a segmenting dictionary answers a random
conversion exactly as its default one (`convertRandomly_eq_convertText`), whatever its
generator.
-/

namespace InputMethod

namespace Random.Generator

/-- Choosing from a list of at most one item gives that item: the sampler draws index zero. -/
theorem choose_of_length_le_one {α : Type} (g : Generator) {xs : List α} (short : xs.length ≤ 1) :
    (g.choose xs).1 = xs.head? := by
  cases xs with
  | nil => rfl
  | cons x rest =>
    have alone : rest = [] :=
      List.eq_nil_of_length_eq_zero (by rw [List.length_cons] at short; omega)
    subst alone
    rcases drawn : g.sampler.below (keystream g.key) g.next 1 with ⟨i, next⟩
    have first : i = 0 := by simpa [drawn] using g.sampler.below_one (keystream g.key) g.next
    simp [choose, below, drawn, first]

end Random.Generator

namespace Conversion

theorem walk_cons_of_step_some {c : Conversion} {pick : Entry → Option String} {ch : Char}
    {cs : List Char} {e : Entry} {v : String} (stepped : c.step pick (ch :: cs) = some (e, v)) :
    c.walk pick (ch :: cs) = v ++ c.walk pick (cs.drop (e.key.length - 1)) := by
  rw [walk, stepped]

theorem walk_cons_of_step_none {c : Conversion} {pick : Entry → Option String} {ch : Char}
    {cs : List Char} (stepped : c.step pick (ch :: cs) = none) :
    c.walk pick (ch :: cs) = ch.toString ++ c.walk pick cs := by
  rw [walk, stepped]

theorem step_of_matchPrefix {c : Conversion} {pick : Entry → Option String} {rest : List Char}
    {e : Entry} (found : c.dict.matchPrefix (String.ofList rest) = some e) :
    c.step pick rest = if 0 < e.keyLength then (pick e).map (e, ·) else none := by
  rw [step, found]

theorem step_of_matchPrefix_none {c : Conversion} {pick : Entry → Option String}
    {rest : List Char} (missing : c.dict.matchPrefix (String.ofList rest) = none) :
    c.step pick rest = none := by
  rw [step, missing]

theorem choose_values_of_matchPrefix {c : Conversion}
    (single : ∀ x ∈ c.dict.allEntries, x.values.length ≤ 1) {t : String} {e : Entry}
    (found : c.dict.matchPrefix t = some e) (g : Random.Generator) :
    (g.choose e.values).1 = e.default := by
  have member := (Dictionary.matchPrefix_longest _ c.dict e found).1
  rw [Random.Generator.choose_of_length_le_one g (single e member), Entry.default]

/-- Drawing values from a dictionary whose entries have at most one value writes what the
    default walk writes. The induction follows the drawing walk; at a match, the draw gives the
    entry's first value when it has one and nothing when it has none, as the default pick does. -/
theorem walkDrawing_fst (c : Conversion) (single : ∀ x ∈ c.dict.allEntries, x.values.length ≤ 1)
    (rest : List Char) (g : Random.Generator) :
    (c.walkDrawing rest g).1 = c.walk Entry.default rest := by
  fun_induction c.walkDrawing rest g with
  | case1 => rw [walk]
  | case2 ch cs g e found positive v g' drawn out g'' walked inductionHypothesis =>
    have first : e.default = some v := by
      rw [← choose_values_of_matchPrefix single found g, drawn]
    have stepped : c.step Entry.default (ch :: cs) = some (e, v) := by
      rw [step_of_matchPrefix found, if_pos positive, first, Option.map_some]
    rw [walk_cons_of_step_some stepped, ← inductionHypothesis, walked]
  | case3 ch cs g e found positive g' drawn out g'' walked inductionHypothesis =>
    have nothing : e.default = none := by
      rw [← choose_values_of_matchPrefix single found g, drawn]
    have stepped : c.step Entry.default (ch :: cs) = none := by
      rw [step_of_matchPrefix found, if_pos positive, nothing, Option.map_none]
    rw [walk_cons_of_step_none stepped, ← inductionHypothesis, walked]
  | case4 ch cs g e found empty out g' walked inductionHypothesis =>
    have stepped : c.step Entry.default (ch :: cs) = none := by
      rw [step_of_matchPrefix found, if_neg empty]
    rw [walk_cons_of_step_none stepped, ← inductionHypothesis, walked]
  | case5 ch cs g found out g' walked inductionHypothesis =>
    have stepped : c.step Entry.default (ch :: cs) = none := step_of_matchPrefix_none found
    rw [walk_cons_of_step_none stepped, ← inductionHypothesis, walked]

/-- Stage after stage, drawing values from single-valued dictionaries converts as the stages'
    default conversions do, whichever generator the drawing starts from. -/
theorem foldl_walkDrawing_fst (stages : List Conversion)
    (single : ∀ stage ∈ stages, ∀ x ∈ stage.dict.allEntries, x.values.length ≤ 1) :
    ∀ (text : String) (g : Random.Generator),
      (stages.foldl (fun (acc : String × Random.Generator) stage =>
          stage.walkDrawing acc.1.toList acc.2) (text, g)).1 =
        stages.foldl (fun t c => c.convert t) text := by
  induction stages with
  | nil => intro text g; rfl
  | cons stage rest inductionHypothesis =>
    intro text g
    have drawn := walkDrawing_fst stage (single stage List.mem_cons_self) text.toList g
    rcases walked : stage.walkDrawing text.toList g with ⟨out, g'⟩
    rw [walked] at drawn
    simp only [List.foldl_cons, walked]
    have later : ∀ stage ∈ rest, ∀ x ∈ stage.dict.allEntries, x.values.length ≤ 1 :=
      fun stage member => single stage (List.mem_cons_of_mem _ member)
    rw [inductionHypothesis later out g']
    rw [show out = stage.convert text from drawn]

end Conversion

namespace Engine

/-- Random conversion without choices is the default conversion: a ready engine without a
    segmenting dictionary, whose stages' dictionaries give every entry at most one value,
    answers a random conversion of any text exactly as its default conversion, whatever its
    generator. -/
theorem convertRandomly_eq_convertText (e : Engine) (fs : Files) (text : String) {cv : Converter}
    (ready : e.converter = some cv) (unsegmented : cv.segmenter = none)
    (single : ∀ stage ∈ cv.stages, ∀ x ∈ stage.dict.allEntries, x.values.length ≤ 1) :
    (e.convertRandomly fs text).1 = (e.convertText fs text).1 := by
  unfold convertRandomly convertText
  split
  · rfl
  · simp only [loaded_of_ready ready, Converter.convert, unsegmented, Converter.chain]
    rw [Conversion.foldl_walkDrawing_fst cv.stages single]

/-- A one-stage engine with two single-valued entries and one without values converts a text
    that meets all three alike at random and by default. -/
theorem converts_single_values_alike :
    let e : Engine :=
      { configPath := "s2t.json", generator := Random.Generator.ofSeed 7,
        converter := some { stages := [⟨.text [⟨"头", ["頭"]⟩, ⟨"发", ["發"]⟩, ⟨"空", []⟩]⟩] } }
    (∃ cv, e.converter = some cv ∧ cv.segmenter = none ∧
      ∀ stage ∈ cv.stages, ∀ x ∈ stage.dict.allEntries, x.values.length ≤ 1) ∧
      (e.convertRandomly {} "空头发").1 = (e.convertText {} "空头发").1 := by
  intro e
  have single : ∀ stage ∈ [(⟨.text [⟨"头", ["頭"]⟩, ⟨"发", ["發"]⟩, ⟨"空", []⟩]⟩ : Conversion)],
      ∀ x ∈ stage.dict.allEntries, x.values.length ≤ 1 := by
    decide
  exact ⟨⟨_, rfl, rfl, single⟩, convertRandomly_eq_convertText e {} "空头发" rfl rfl single⟩

end Engine
end InputMethod

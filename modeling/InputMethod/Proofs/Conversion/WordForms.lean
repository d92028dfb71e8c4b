import InputMethod.Conversion.Engine
import InputMethod.Proofs.Conversion.Lookup

/-! # Word forms and the default conversion

`Converter.forms` and `Converter.chain` are two ways through the same stages. `forms` keeps a
working set of words and replaces each word, stage by stage, by all values of an entry that
holds the word as a whole key (when it has some), or else by its default conversion, keeping
each form where it is first seen; `chain` walks the text once per stage and writes the default
value of the longest key found at each place.

The main statement, `Engine.convertWord_head_eq_chain`, says that they agree: a word has forms
exactly when some stage holds a word of its working set as a whole key with values, and then
the forms are a non-empty list without repeats whose first element is the chained default
conversion, which is therefore also what `convertText` answers when it changes the text.
The agreement is one fact per stage: the first form of a word is its default conversion
(`Conversion.head?_wordForms`), since a whole-key hit is also the longest-prefix hit
(`Dictionary.matchWord_eq_filter`); the first word of the working set then stays the first.
-/

namespace InputMethod

/-! ## Keeping the first of each form -/

theorem nodup_addNew {acc : List String} (distinct : acc.Nodup) (v : String) :
    (addNew acc v).Nodup := by
  unfold addNew
  split
  · exact distinct
  · next absent =>
    rw [List.nodup_append]
    refine ⟨distinct, List.nodup_cons.mpr ⟨List.not_mem_nil, List.nodup_nil⟩, ?_⟩
    intro a member b single same
    rw [List.mem_singleton.mp single] at same
    exact absent (List.elem_iff.mpr (same ▸ member))

theorem nodup_foldl_addNew (forms : List String) {acc : List String} (distinct : acc.Nodup) :
    (forms.foldl addNew acc).Nodup := by
  induction forms generalizing acc with
  | nil => exact distinct
  | cons v rest inductionHypothesis => exact inductionHypothesis (nodup_addNew distinct v)

theorem head?_foldl_addNew (forms acc : List String) :
    (forms.foldl addNew acc).head? = (acc ++ forms).head? := by
  induction forms generalizing acc with
  | nil => simp
  | cons v rest inductionHypothesis =>
    rw [List.foldl_cons, inductionHypothesis]
    unfold addNew
    split
    -- a form already there leaves the list non-empty and its head in place
    · next present =>
      have nonempty : acc ≠ [] := fun empty => by simp [empty] at present
      obtain ⟨first, rest', rfl⟩ := List.exists_cons_of_ne_nil nonempty
      rfl
    · simp

namespace Conversion

/-! ## One stage -/

def wordForms (stage : Conversion) (w : String) : List String :=
  match stage.dict.matchWord w with
  | some e => if e.values.isEmpty then [stage.convert w] else e.values
  | none => [stage.convert w]

def holds (stage : Conversion) (w : String) : Bool :=
  match stage.dict.matchWord w with
  | some e => !e.values.isEmpty
  | none => false

def nextWords (stage : Conversion) (words : List String) : List String :=
  (words.flatMap stage.wordForms).foldl addNew []

/-- The first form of a word is its default conversion. -/
theorem head?_wordForms (stage : Conversion) (w : String) :
    (stage.wordForms w).head? = some (stage.convert w) := by
  unfold wordForms
  cases held : stage.dict.matchWord w with
  | none => rfl
  | some e =>
    cases values : e.values with
    | nil => simp [values]
    | cons v vs =>
      simp only [values, List.isEmpty_cons, Bool.false_eq_true, if_false, List.head?_cons]
      rw [convert_of_matchWord held values]

theorem holds_iff (stage : Conversion) (w : String) :
    stage.holds w = true ↔ ∃ e, stage.dict.matchWord w = some e ∧ e.values ≠ [] := by
  unfold holds
  cases stage.dict.matchWord w <;> simp

theorem head?_nextWords (stage : Conversion) (words : List String) :
    (stage.nextWords words).head? = words.head?.map stage.convert := by
  unfold nextWords
  rw [head?_foldl_addNew, List.nil_append]
  cases words with
  | nil => rfl
  | cons w rest =>
    rw [List.flatMap_cons, List.head?_append, head?_wordForms]
    rfl

theorem nodup_nextWords (stage : Conversion) (words : List String) :
    (stage.nextWords words).Nodup :=
  nodup_foldl_addNew _ List.nodup_nil

end Conversion

namespace Converter

/-! ## All stages -/

def rounds : List Conversion → List String → List (Conversion × List String)
  | [], _ => []
  | stage :: rest, words => (stage, words) :: rounds rest (stage.nextWords words)

def finalWords (stages : List Conversion) (words : List String) : List String :=
  stages.foldl (fun words stage => stage.nextWords words) words

theorem head?_finalWords (stages : List Conversion) (words : List String) :
    (finalWords stages words).head? =
      words.head?.map fun t => stages.foldl (fun t stage => stage.convert t) t := by
  induction stages generalizing words with
  | nil => simp [finalWords]
  | cons stage rest inductionHypothesis =>
    rw [finalWords, List.foldl_cons, ← finalWords, inductionHypothesis,
      Conversion.head?_nextWords, Option.map_map]
    rfl

theorem nodup_finalWords (stages : List Conversion) {words : List String}
    (distinct : words.Nodup) : (finalWords stages words).Nodup := by
  induction stages generalizing words with
  | nil => exact distinct
  | cons stage rest inductionHypothesis =>
    exact inductionHypothesis (Conversion.nodup_nextWords stage words)

theorem foldl_rounds (step : List String × Bool → Conversion → List String × Bool)
    (stepSpec : ∀ acc stage, step acc stage =
      (stage.nextWords acc.1, acc.2 || acc.1.any stage.holds))
    (stages : List Conversion) (words : List String) (found : Bool) :
    stages.foldl step (words, found) =
      (finalWords stages words,
        found || (rounds stages words).any fun round => round.2.any round.1.holds) := by
  induction stages generalizing words found with
  | nil => simp [finalWords, rounds]
  | cons stage rest inductionHypothesis =>
    rw [List.foldl_cons, stepSpec, inductionHypothesis]
    simp [finalWords, rounds, Bool.or_assoc]

theorem foldl_stage (stage : Conversion)
    (step : List String × Bool → String → List String × Bool)
    (stepSpec : ∀ inner w, step inner w =
      ((stage.wordForms w).foldl addNew inner.1, inner.2 || stage.holds w))
    (words acc : List String) (found : Bool) :
    words.foldl step (acc, found) =
      ((words.flatMap stage.wordForms).foldl addNew acc, found || words.any stage.holds) := by
  induction words generalizing acc found with
  | nil => simp
  | cons w rest inductionHypothesis =>
    rw [List.foldl_cons, stepSpec, inductionHypothesis]
    simp [List.foldl_append, Bool.or_assoc]

theorem forms_eq (cv : Converter) (text : String) :
    cv.forms text =
      if (rounds cv.stages [text]).any (fun round => round.2.any round.1.holds) then
        some (finalWords cv.stages [text])
      else none := by
  unfold forms
  rw [foldl_rounds]
  · -- the working set is never empty: its first word is the chained conversion
    have nonempty : finalWords cv.stages [text] ≠ [] := by
      intro empty
      simpa [empty] using head?_finalWords cv.stages [text]
    simp only [List.isEmpty_eq_false_iff.mpr nonempty, Bool.false_or, Bool.not_false,
      Bool.and_true]
  · intro acc stage
    rw [foldl_stage stage]
    · rfl
    · intro inner w
      unfold Conversion.wordForms Conversion.holds
      cases stage.dict.matchWord w with
      | none => simp [addNew]
      | some e =>
        cases values : e.values.isEmpty <;> simp [values]

theorem eq_finalWords_of_forms_eq_some {cv : Converter} {text : String} {words : List String}
    (found : cv.forms text = some words) :
    words = finalWords cv.stages [text] ∧
      (rounds cv.stages [text]).any (fun round => round.2.any round.1.holds) = true := by
  rw [forms_eq] at found
  split at found
  · next held => exact ⟨(Option.some.inj found).symm, held⟩
  · cases found

theorem ne_nil_of_forms_eq_some {cv : Converter} {text : String} {words : List String}
    (found : cv.forms text = some words) : words ≠ [] := by
  intro empty
  have head := head?_finalWords cv.stages [text]
  rw [← (eq_finalWords_of_forms_eq_some found).1, empty] at head
  cases head

theorem convert_of_segmenter_none {cv : Converter} (unsegmented : cv.segmenter = none)
    (text : String) : cv.convert text = cv.chain text := by
  simp [convert, unsegmented]

end Converter

namespace Engine

/-! ## Engines -/

section Loaded

variable {e : Engine} {fs : Files} {cv : Converter} {text : String}

theorem convertWord_fst (loadedAs : (e.loaded fs).1 = some cv) (nonempty : text ≠ "") :
    (e.convertWord fs text).1 = cv.forms text := by
  have present : text.isEmpty = false := by simpa [String.isEmpty_iff] using nonempty
  unfold convertWord
  simp only [present, Bool.false_eq_true, if_false]
  generalize e.loaded fs = result at loadedAs ⊢
  obtain ⟨loaded, e'⟩ := result
  obtain rfl : loaded = some cv := loadedAs
  rfl

theorem convertText_fst (loadedAs : (e.loaded fs).1 = some cv) (nonempty : text ≠ "") :
    (e.convertText fs text).1 = if cv.convert text == text then none else some (cv.convert text) := by
  have present : text.isEmpty = false := by simpa [String.isEmpty_iff] using nonempty
  unfold convertText
  simp only [present, Bool.false_eq_true, if_false]
  generalize e.loaded fs = result at loadedAs ⊢
  obtain ⟨loaded, e'⟩ := result
  obtain rfl : loaded = some cv := loadedAs
  rfl

end Loaded

theorem ne_nil_of_convertWord_eq_some {e : Engine} {fs : Files} {text : String}
    {words : List String} (found : (e.convertWord fs text).1 = some words) : words ≠ [] := by
  unfold convertWord at found
  split at found
  · cases found
  · split at found
    · exact Converter.ne_nil_of_forms_eq_some found
    · cases found

/-- Word forms agree with the default conversion. For a loaded engine and a non-empty word,
    forms are answered exactly when some stage holds a word of its working set as a whole key
    with at least one value; they are then a non-empty list without repeats whose first element
    is the stages' chained default conversion, which a converter without a segmenting
    dictionary also answers as the text's conversion when it changes the text. -/
theorem convertWord_head_eq_chain (e : Engine) (fs : Files) (cv : Converter) (text : String)
    (loadedAs : (e.loaded fs).1 = some cv) (nonempty : text ≠ "") :
    ((e.convertWord fs text).1.isSome = true ↔
      ∃ round ∈ Converter.rounds cv.stages [text], ∃ w ∈ round.2,
        ∃ entry, round.1.dict.matchWord w = some entry ∧ entry.values ≠ []) ∧
    ∀ words, (e.convertWord fs text).1 = some words →
      words ≠ [] ∧ words.Nodup ∧ words.head? = some (cv.chain text) ∧
      (cv.segmenter = none → cv.chain text ≠ text →
        (e.convertText fs text).1 = some (cv.chain text)) := by
  rw [convertWord_fst loadedAs nonempty]
  constructor
  · rw [Converter.forms_eq]
    split
    · next held =>
      simpa [List.any_eq_true, Conversion.holds_iff] using held
    · next notHeld =>
      simpa [List.any_eq_true, Conversion.holds_iff] using notHeld
  · intro words found
    obtain ⟨rfl, -⟩ := Converter.eq_finalWords_of_forms_eq_some found
    refine ⟨Converter.ne_nil_of_forms_eq_some found,
      Converter.nodup_finalWords _ (List.nodup_cons.mpr ⟨List.not_mem_nil, List.nodup_nil⟩),
      by simpa [Converter.chain] using Converter.head?_finalWords cv.stages [text], ?_⟩
    intro unsegmented changed
    rw [convertText_fst loadedAs nonempty, Converter.convert_of_segmenter_none unsegmented]
    simp [changed]

/-- An engine loaded with one stage that holds `ab` with two values. -/
theorem convertWord_two_values :
    (({ Engine.create "t2s.json" 0 with
        converter := some { stages := [⟨.text [⟨"ab", ["x", "y"]⟩]⟩] } } : Engine).loaded {}).1 =
        some { stages := [⟨.text [⟨"ab", ["x", "y"]⟩]⟩] } ∧
      "ab" ≠ "" ∧
      (((({ Engine.create "t2s.json" 0 with
          converter := some { stages := [⟨.text [⟨"ab", ["x", "y"]⟩]⟩] } } : Engine).convertWord
            {} "ab").1.isSome = true ↔
        ∃ round ∈ Converter.rounds [⟨.text [⟨"ab", ["x", "y"]⟩]⟩] ["ab"], ∃ w ∈ round.2,
          ∃ entry, round.1.dict.matchWord w = some entry ∧ entry.values ≠ []) ∧
      ∀ words, (({ Engine.create "t2s.json" 0 with
          converter := some { stages := [⟨.text [⟨"ab", ["x", "y"]⟩]⟩] } } : Engine).convertWord
            {} "ab").1 = some words →
        words ≠ [] ∧ words.Nodup ∧
          words.head? = some (({ stages := [⟨.text [⟨"ab", ["x", "y"]⟩]⟩] } : Converter).chain "ab") ∧
          ((({ stages := [⟨.text [⟨"ab", ["x", "y"]⟩]⟩] } : Converter).segmenter = none →
            ({ stages := [⟨.text [⟨"ab", ["x", "y"]⟩]⟩] } : Converter).chain "ab" ≠ "ab" →
            (({ Engine.create "t2s.json" 0 with
              converter := some { stages := [⟨.text [⟨"ab", ["x", "y"]⟩]⟩] } } : Engine).convertText
                {} "ab").1 =
              some (({ stages := [⟨.text [⟨"ab", ["x", "y"]⟩]⟩] } : Converter).chain "ab")))) :=
  ⟨rfl, by decide, convertWord_head_eq_chain _ {} { stages := [⟨.text [⟨"ab", ["x", "y"]⟩]⟩] } "ab"
    rfl (by decide)⟩

end Engine

end InputMethod

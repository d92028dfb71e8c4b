import InputMethod.Filter.Simplifier

/-! # How a simplified candidate is presented

The simplifier wraps each converted text `v` of a candidate `c` with text `s` in a shadow
(`Presentation.shadow`). The main statement, `shadow_presents`, says what that shadow shows,
case by case. Its text is `s` with `showInComment` and `v` without. Its comment is its tip
when that is not empty, else `c`'s comment when it inherits comments, else nothing. The tip is
empty unless tips are shown: `s` holds no U+FFFD and tips are on for all candidates, or for
those of one character and `s` is one. A shown tip is the comment format applied to `v` with
`showInComment`. Without it, the tip is the format applied to `s` when some formula of the
format changes the text it is given (`Projection.Changes`), and `s` between 〔 and 〕 when none
does.

The formatter reports whether a formula changed the text, not whether the final text differs
from `s`. The two differ for formulas that undo each other, and then the formatted text is
shown although it is `s` again. What makes the flag a statement about texts is that each
formula reports a change exactly when its output differs from its input
(`Calculation.apply_snd_iff`).
-/

namespace InputMethod

/-! ## Formulas report exactly the changes they make -/

namespace Calculation

def transliterated (pairs : List (Char × Char)) (c : Char) : Char :=
  match pairs.reverse.find? (·.1 == c) with
  | some (_, target) => target
  | none => c

theorem foldl_transliterate (pairs : List (Char × Char))
    {step : List Char × Bool → Char → List Char × Bool}
    (maps : ∀ acc c, step acc c =
      (transliterated pairs c :: acc.1, acc.2 || transliterated pairs c != c)) :
    ∀ (l acc : List Char) (modified : Bool),
      l.foldl step (acc, modified) =
        ((l.map (transliterated pairs)).reverse ++ acc,
          modified || l.any fun c => transliterated pairs c != c)
  | [], acc, modified => by simp
  | c :: rest, acc, modified => by
    rw [List.foldl_cons, maps, foldl_transliterate pairs maps rest]
    simp [Bool.or_assoc]

theorem map_ne_self_of_moved {f : Char → Char} {l : List Char} (moved : ∃ x ∈ l, f x ≠ x) :
    l.map f ≠ l := by
  intro same
  obtain ⟨x, member, differs⟩ := moved
  have fixed := List.map_eq_map_iff.mp (same.trans (List.map_id l).symm) x member
  exact differs fixed

/-- A formula reports a change exactly when its output differs from its input. -/
theorem apply_snd_iff (c : Calculation) (text : String) :
    (c.apply text).2 = true ↔ (c.apply text).1 ≠ text := by
  cases c with
  | transform pattern replacement =>
    simp only [apply]
    split
    · simp
    · next differs => simpa using differs
  | transliterate pairs =>
    simp only [apply]
    rw [foldl_transliterate pairs ?maps text.toList [] false]
    case maps =>
      intro acc c
      cases found : pairs.reverse.find? (·.1 == c) <;> simp [transliterated, found]
    simp only [List.append_nil, Bool.false_or, List.reverse_reverse]
    split
    · next moved =>
      simp only [List.any_eq_true, bne_iff_ne, ne_eq] at moved
      have differs := map_ne_self_of_moved moved
      refine iff_of_true rfl fun same => differs ?_
      simpa using congrArg String.toList same
    · simp
  | erase pattern =>
    simp only [apply]
    split
    · simp
    · next matched =>
      simp only [Bool.or_eq_true, String.isEmpty_iff, Bool.not_eq_true', not_or] at matched
      exact iff_of_true rfl fun empty => matched.1 empty.symm

theorem apply_of_unchanged {c : Calculation} {text : String} (unchanged : (c.apply text).1 = text) :
    c.apply text = (text, false) := by
  have quiet : (c.apply text).2 = false := by
    cases flag : (c.apply text).2
    · rfl
    · exact absurd unchanged ((apply_snd_iff c text).mp flag)
  exact Prod.ext unchanged quiet

end Calculation

/-! ## What the comment format reports -/

namespace Projection

def steps : List Calculation → String → List (Calculation × String)
  | [], _ => []
  | c :: rest, text => (c, text) :: steps rest (c.apply text).1

/-- Some formula of the projection changes the text it is given. -/
def Changes (p : Projection) (text : String) : Prop :=
  ∃ step ∈ steps p.calculations text, (step.1.apply step.2).1 ≠ step.2

instance (p : Projection) (text : String) : Decidable (p.Changes text) :=
  inferInstanceAs (Decidable (∃ step ∈ steps p.calculations text, _))

def step (acc : String × Bool) (c : Calculation) : String × Bool :=
  ((c.apply acc.1).1, acc.2 || (c.apply acc.1).2)

theorem apply_eq_foldl (p : Projection) (text : String) :
    p.apply text = p.calculations.foldl step (text, false) :=
  rfl

theorem foldl_step_snd : ∀ (calculations : List Calculation) (text : String) (modified : Bool),
    (calculations.foldl step (text, modified)).2 = true ↔
      modified = true ∨ ∃ s ∈ steps calculations text, (s.1.apply s.2).1 ≠ s.2
  | [], text, modified => by simp [steps]
  | c :: rest, text, modified => by
    rw [List.foldl_cons, step, foldl_step_snd rest]
    simp only [steps, List.mem_cons, exists_eq_or_imp, Bool.or_eq_true,
      Calculation.apply_snd_iff, or_assoc]

/-- The formatter reports a change exactly when some formula changes the text it is given. -/
theorem apply_snd_iff (p : Projection) (text : String) :
    (p.apply text).2 = true ↔ p.Changes text := by
  rw [apply_eq_foldl, foldl_step_snd]
  simp [Changes]

theorem foldl_step_of_unchanged : ∀ (calculations : List Calculation) (text : String)
    (modified : Bool), (∀ s ∈ steps calculations text, (s.1.apply s.2).1 = s.2) →
    calculations.foldl step (text, modified) = (text, modified)
  | [], _, _, _ => rfl
  | c :: rest, text, modified, unchanged => by
    have first := Calculation.apply_of_unchanged (unchanged (c, text) List.mem_cons_self)
    have later : ∀ s ∈ steps rest text, (s.1.apply s.2).1 = s.2 := by
      intro s member
      apply unchanged s
      rw [steps, first]
      exact List.mem_cons_of_mem _ member
    rw [List.foldl_cons, step, first]
    simp only [Bool.or_false]
    exact foldl_step_of_unchanged rest text modified later

theorem apply_of_not_changes {p : Projection} {text : String} (unchanged : ¬ p.Changes text) :
    p.apply text = (text, false) := by
  simp only [Changes, not_exists, not_and, Classical.not_not] at unchanged
  rw [apply_eq_foldl]
  exact foldl_step_of_unchanged p.calculations text false fun s member => unchanged s member

end Projection

/-! ## The shadow -/

deriving instance DecidableEq for TipsLevel

namespace Presentation

theorem showsTip_iff (p : Presentation) (s : String) :
    p.showsTip s = true ↔ '�' ∉ s.toList ∧ (p.tips = .all ∨ p.tips = .char ∧ s.length = 1) := by
  cases tips : p.tips <;> simp [showsTip, tips]

theorem tip_eq (p : Presentation) (s v : String) :
    p.tip s v =
      if p.showsTip s then
        if p.showInComment then (p.commentFormat.apply v).1
        else if p.commentFormat.Changes s then (p.commentFormat.apply s).1
        else "〔" ++ s ++ "〕"
      else "" := by
  unfold tip
  cases p.showsTip s
  · rfl
  · cases p.showInComment
    · have flagged := p.commentFormat.apply_snd_iff s
      rcases applied : p.commentFormat.apply s with ⟨formatted, flag⟩
      rw [applied] at flagged
      cases flag
      · simp [← flagged]
      · simp [← flagged]
    · rfl

theorem text_shadow (p : Presentation) (c : Candidate) (v : String) :
    (p.shadow c v).text = if p.showInComment || v.isEmpty then c.text else v := by
  cases inComment : p.showInComment <;> simp [shadow, Candidate.shadowOf, Candidate.text, inComment]

theorem comment_shadow (p : Presentation) (c : Candidate) (v : String) :
    (p.shadow c v).comment =
      if p.tip c.text v = "" then (if p.inheritComment then c.comment else "")
      else p.tip c.text v := by
  simp only [shadow, Candidate.shadowOf, Candidate.comment]
  split <;> simp_all

/-- What the shadow of a non-empty conversion presents. Conversions are never empty; an empty
    one would show the candidate's own text, as every shadow with empty text does. -/
theorem shadow_presents (p : Presentation) (c : Candidate) (v : String) (converted : v ≠ "") :
    let s := c.text
    let tip :=
      if '�' ∉ s.toList ∧ (p.tips = .all ∨ p.tips = .char ∧ s.length = 1) then
        if p.showInComment then (p.commentFormat.apply v).1
        else if p.commentFormat.Changes s then (p.commentFormat.apply s).1
        else "〔" ++ s ++ "〕"
      else ""
    (p.shadow c v).text = (if p.showInComment then s else v) ∧
      (p.shadow c v).comment = if tip ≠ "" then tip else if p.inheritComment then c.comment else "" := by
  intro s tip
  have sameTip : p.tip s v = tip := by
    simp only [tip, tip_eq, ← showsTip_iff]
  refine ⟨?_, ?_⟩
  · rw [text_shadow]
    simp [s, String.isEmpty_iff, converted]
  · rw [comment_shadow, sameTip]
    by_cases empty : tip = "" <;> simp [empty]

/-- Two transliterations that undo each other change the text each is given: the tip of `a` is
    the formatted `a`, not `〔a〕`, although formatting gives `a` back. -/
theorem presents_undone_format :
    let swap : Calculation := .transliterate [('a', 'b'), ('b', 'a')]
    let p : Presentation := { tips := .all, commentFormat := { calculations := [swap, swap] } }
    let c := Candidate.make "phrase" 0 1 "a" 0.0
    (p.shadow c "A").text = "A" ∧ (p.shadow c "A").comment = "a" := by
  intro swap p c
  obtain ⟨shown, commented⟩ := shadow_presents p c "A" (by decide)
  exact ⟨shown, commented.trans (by decide +kernel)⟩

end Presentation

end InputMethod

import InputMethod.Proofs.Filter.Presentation
import InputMethod.Proofs.Text.Splitting
import Mathlib.Data.List.Forall2
import Mathlib.Data.List.TakeWhile

/-! # The grammar of projection formulas

A formula is an operator of lowercase ASCII letters, a separator, which is any other character,
and fields joined by the separator, none of which holds it. `Calculation.Layout` says this as a
rule over the text alone. Every formula with a character that is not a lowercase letter has a
layout (`exists_layout`), since its operator is the longest run of lowercase letters it starts
with; a formula without one has no separator (`parse_of_lower`).

Reading a formula with a layout reads its fields for its operator (`parse_of_layout`), check by
check in the order `ofArguments` makes them: an unknown operator, too few fields, sides of a
transliteration of different lengths, and a pattern that does not compile. Loading a list of
formulas reads them in order and stops at the first that fails (`load_eq_error_iff`).

A loaded transliteration maps each character to the right-hand character at the last place the
left side holds it, and leaves other characters alone (`transliterate_maps`).

The main statement, `load_follows_grammar`, gathers these.
-/

namespace InputMethod

open Pattern

/-! ## Reading a list in order -/

theorem mapM_eq_ok_iff {α β ε : Type} (f : α → Except ε β) :
    ∀ (xs : List α) (ys : List β), xs.mapM f = .ok ys ↔ List.Forall₂ (fun x y => f x = .ok y) xs ys
  | [], ys => by cases ys <;> simp [pure, Except.pure]
  | x :: xs, ys => by
    rw [List.mapM_cons]
    cases parsed : f x with
    | error e => cases ys <;> simp [bind, Except.bind, parsed]
    | ok y =>
      cases rest : xs.mapM f with
      | error e => cases ys <;> simp [bind, Except.bind, ← mapM_eq_ok_iff f xs, rest, parsed]
      | ok zs =>
        cases ys <;>
          simp [bind, Except.bind, pure, Except.pure, ← mapM_eq_ok_iff f xs, rest, parsed]

theorem mapM_eq_error_iff {α β ε : Type} (f : α → Except ε β) :
    ∀ (xs : List α) (e : ε), xs.mapM f = .error e ↔
      ∃ pre x post, xs = pre ++ x :: post ∧ (∀ y ∈ pre, ∃ b, f y = .ok b) ∧ f x = .error e
  | [], e => by simp [pure, Except.pure]
  | x :: xs, e => by
    rw [List.mapM_cons]
    cases parsed : f x with
    | error e' =>
      simp only [bind, Except.bind, Except.error.injEq]
      constructor
      · rintro rfl
        exact ⟨[], x, xs, rfl, by simp, parsed⟩
      · rintro ⟨pre, y, post, split, earlier, failed⟩
        rcases List.cons_eq_append_iff.mp split with ⟨rfl, first⟩ | ⟨pre, rfl, -⟩
        · obtain ⟨rfl, -⟩ := List.cons.inj first
          rw [parsed, Except.error.injEq] at failed
          exact failed
        -- an item before the failing one would be the first, which does not read
        · obtain ⟨b, fine⟩ := earlier x List.mem_cons_self
          rw [parsed] at fine
          cases fine
    | ok b =>
      have resumed : (Except.ok b >>= fun b => do
          let bs ← xs.mapM f
          pure (b :: bs) : Except ε (List β)) = .error e ↔ xs.mapM f = .error e := by
        cases xs.mapM f <;> simp [bind, Except.bind, pure, Except.pure]
      rw [resumed, mapM_eq_error_iff f xs e]
      constructor
      · rintro ⟨pre, y, post, split, earlier, failed⟩
        refine ⟨x :: pre, y, post, by rw [split, List.cons_append], fun z member => ?_, failed⟩
        rcases List.mem_cons.mp member with rfl | inPre
        · exact ⟨b, parsed⟩
        · exact earlier z inPre
      · rintro ⟨pre, y, post, split, earlier, failed⟩
        rcases List.cons_eq_append_iff.mp split with ⟨rfl, first⟩ | ⟨pre, rfl, rest⟩
        · obtain ⟨rfl, -⟩ := List.cons.inj first
          rw [parsed] at failed
          cases failed
        · exact ⟨pre, y, post, rest, fun w member => earlier w (List.mem_cons_of_mem x member),
            failed⟩

namespace Calculation

/-! ## Layouts -/

/-- `formula` is the operator `op` of lowercase letters, the separator `sep` and the fields
    `fields` joined by it, none of which holds it. -/
structure Layout (formula op : String) (sep : Char) (fields : List String) : Prop where
  lower : ∀ c ∈ op.toList, c.isLower = true
  separator : sep.isLower = false
  nonempty : fields ≠ []
  clean : ∀ field ∈ fields, sep ∉ field.toList
  joined : formula = op ++ String.singleton sep ++ String.intercalate (String.singleton sep) fields

theorem Layout.toList_eq {formula op : String} {sep : Char} {fields : List String}
    (layout : Layout formula op sep fields) :
    formula.toList =
      op.toList ++ sep :: [sep].intercalate (fields.map String.toList) := by
  rw [layout.joined]
  simp [String.toList_intercalate]

/-- A laid-out formula is read by reading its fields for its operator: the operator is the
    first run of lowercase letters, the separator ends it, and cutting the rest at the separator
    gives the fields back. -/
theorem parse_of_layout {formula op : String} {sep : Char} {fields : List String}
    (layout : Layout formula op sep fields) :
    parse formula = ofArguments formula op fields := by
  have chars := layout.toList_eq
  have findOp : formula.toList.findIdx? (fun c => !c.isLower) = some op.toList.length := by
    rw [chars, List.findIdx?_append, List.findIdx?_eq_none_iff.mpr (by simpa using layout.lower),
      List.findIdx?_cons]
    simp [layout.separator]
  have atOp : formula.toList[op.toList.length]? = some sep := by
    rw [chars, List.getElem?_append_right (Nat.le_refl _)]
    simp
  have opText : String.ofList (formula.toList.take op.toList.length) = op := by
    rw [chars, List.take_left']
    · simp
    · rfl
  have pieces : (String.ofList (formula.toList.drop (op.toList.length + 1))).splitOn
      (String.singleton sep) = fields := by
    have rest : formula.toList.drop (op.toList.length + 1) =
        [sep].intercalate (fields.map String.toList) := by
      rw [chars, List.drop_append, List.drop_eq_nil_of_le (by omega),
        Nat.add_sub_cancel_left]
      rfl
    have clean : ∀ piece ∈ fields.map String.toList, sep ∉ piece := by
      simpa using layout.clean
    rw [rest, Text.splitOn_singleton, String.toList_ofList,
      List.splitOn_intercalate sep clean (by simpa using layout.nonempty), List.map_map]
    simp
  simp only [parse, findOp, atOp, opText, pieces]

/-- A formula of lowercase letters only has no separator. -/
theorem parse_of_lower {formula : String} (lower : ∀ c ∈ formula.toList, c.isLower = true) :
    parse formula = .error ⟨formula, "missing separator"⟩ := by
  have noSeparator : formula.toList.findIdx? (fun c => !c.isLower) = none :=
    List.findIdx?_eq_none_iff.mpr (by simpa using lower)
  simp only [parse, noSeparator]
  rfl

theorem not_mem_of_mem_splitOn (a : Char) :
    ∀ (xs piece : List Char), piece ∈ xs.splitOn a → a ∉ piece := by
  intro xs
  induction xs with
  | nil => simp
  | cons x xs inductionHypothesis =>
    intro piece member
    rw [List.splitOn_cons_eq_if_modifyHead] at member
    split at member
    · rcases List.mem_cons.mp member with rfl | later
      · simp
      · exact inductionHypothesis piece later
    · next other =>
      obtain ⟨first, more, pieces⟩ := List.exists_cons_of_ne_nil (List.splitOn_ne_nil a xs)
      rw [pieces, List.modifyHead_cons] at member
      rcases List.mem_cons.mp member with rfl | later
      · have absent := inductionHypothesis first (by rw [pieces]; exact List.mem_cons_self)
        simp only [List.mem_cons, not_or]
        exact ⟨fun same => other (by simp [same]), absent⟩
      · exact inductionHypothesis piece (by rw [pieces]; exact List.mem_cons_of_mem _ later)

/-- Every formula with a character that is not a lowercase letter has a layout. -/
theorem exists_layout {formula : String} (some : ∃ c ∈ formula.toList, c.isLower = false) :
    ∃ op sep fields, Layout formula op sep fields := by
  cases after : formula.toList.dropWhile Char.isLower with
  | nil =>
    obtain ⟨c, member, notLower⟩ := some
    have := List.dropWhile_eq_nil_iff.mp after c member
    simp [notLower] at this
  | cons sep rest =>
    have separator : sep.isLower = false := by
      have := List.head_dropWhile_not Char.isLower (l := formula.toList) (by simp [after])
      simpa [after] using this
    refine ⟨String.ofList (formula.toList.takeWhile Char.isLower), sep,
      (rest.splitOn sep).map String.ofList, ⟨?lower, separator, ?nonempty, ?clean, ?joined⟩⟩
    case lower =>
      intro c member
      exact List.mem_takeWhile_imp (by simpa using member)
    case nonempty => simp
    case clean =>
      intro field member
      obtain ⟨piece, found, rfl⟩ := List.mem_map.mp member
      simpa using not_mem_of_mem_splitOn sep rest piece found
    case joined =>
      have whole : formula.toList = formula.toList.takeWhile Char.isLower ++ sep :: rest := by
        rw [← after, List.takeWhile_append_dropWhile]
      apply String.toList_injective
      conv_lhs => rw [whole]
      simp [String.toList_intercalate, Function.comp_def, List.intercalate_splitOn]

/-! ## Reading the fields -/

theorem ofArguments_unknown (formula op : String) (args : List String)
    (unknown : op ∉ ["xform", "xlit", "erase"]) :
    ofArguments formula op args = .error ⟨formula, "unknown operator"⟩ := by
  unfold ofArguments
  split
  case h_7 => rfl
  all_goals simp_all

theorem ofArguments_missing (formula op : String) (args : List String)
    (twoSided : op = "xform" ∨ op = "xlit") (few : args.length < 2) :
    ofArguments formula op args = .error ⟨formula, "missing arguments"⟩ := by
  match args, few with
  | [], _ => rcases twoSided with rfl | rfl <;> rfl
  | [_], _ => rcases twoSided with rfl | rfl <;> rfl

theorem ofArguments_xform (formula pattern replacement : String) (more : List String) :
    ofArguments formula "xform" (pattern :: replacement :: more) =
      ((Regex.compile pattern).mapError (FormulaError.mk formula)).map
        (transform · replacement) := by
  simp only [ofArguments]
  cases Regex.compile pattern <;> rfl

theorem ofArguments_xlit (formula left right : String) (more : List String) :
    ofArguments formula "xlit" (left :: right :: more) =
      if left.length = right.length then .ok (.transliterate (left.toList.zip right.toList))
      else .error ⟨formula, "xlit sides differ in length"⟩ := by
  by_cases same : left.length = right.length
  · simp [ofArguments, same]; rfl
  · simp [ofArguments, same]; rfl

theorem ofArguments_erase (formula pattern : String) (more : List String) :
    ofArguments formula "erase" (pattern :: more) =
      ((Regex.compile ("^(?:" ++ pattern ++ ")$")).mapError (FormulaError.mk formula)).map
        erase := by
  simp only [ofArguments]
  cases Regex.compile ("^(?:" ++ pattern ++ ")$") <;> rfl

/-! ## Transliteration -/

def LastImage (left right : List Char) (c d : Char) : Prop :=
  (∃ j : Nat, left[j]? = some c ∧ right[j]? = some d ∧ ∀ k : Nat, left[k]? = some c → k ≤ j) ∨
    (c ∉ left ∧ d = c)

theorem transliterated_cons (a b : Char) (pairs : List (Char × Char)) (c : Char) :
    transliterated ((a, b) :: pairs) c =
      if c ∈ pairs.map Prod.fst then transliterated pairs c else if a = c then b else c := by
  unfold transliterated
  rw [List.reverse_cons, List.find?_append]
  by_cases later : c ∈ pairs.map Prod.fst
  · obtain ⟨x, found⟩ : ∃ x, pairs.reverse.find? (·.1 == c) = some x := by
      apply Option.ne_none_iff_exists'.mp
      intro missing
      rw [List.find?_eq_none] at missing
      obtain ⟨y, member, named⟩ := List.mem_map.mp later
      exact missing y (List.mem_reverse.mpr member) (by simp [named])
    simp [later, found]
  · have missing : pairs.reverse.find? (·.1 == c) = none := by
      rw [List.find?_eq_none]
      intro y member named
      exact later (List.mem_map.mpr ⟨y, List.mem_reverse.mp member, by simpa using named⟩)
    by_cases same : a = c <;> simp [later, missing, same]

theorem lastImage_transliterated :
    ∀ (left right : List Char), left.length = right.length → ∀ c,
      LastImage left right c (transliterated (left.zip right) c)
  | [], [], _, c => Or.inr ⟨List.not_mem_nil, by simp [transliterated]⟩
  | a :: as, b :: bs, same, c => by
    have lengths : as.length = bs.length := by simpa using same
    have inductionHypothesis := lastImage_transliterated as bs lengths c
    rw [List.zip_cons_cons, transliterated_cons, List.map_fst_zip (Nat.le_of_eq lengths)]
    by_cases later : c ∈ as
    · rw [if_pos later]
      rcases inductionHypothesis with ⟨j, atJ, imageJ, lastJ⟩ | ⟨absent, _⟩
      · refine Or.inl ⟨j + 1, by simpa using atJ, by simpa using imageJ, fun k atK => ?_⟩
        cases k with
        | zero => exact Nat.zero_le _
        | succ k => exact Nat.succ_le_succ (lastJ k (by simpa using atK))
      · exact absurd later absent
    · rw [if_neg later]
      by_cases here : a = c
      · rw [if_pos here]
        refine Or.inl ⟨0, by simp [here], rfl, fun k atK => ?_⟩
        cases k with
        | zero => exact Nat.le_refl 0
        | succ k => exact absurd (List.mem_of_getElem? (by simpa using atK)) later
      · rw [if_neg here]
        exact Or.inr ⟨by simp [Ne.symm here, later], rfl⟩
  | [], _ :: _, same, _ => by simp at same
  | _ :: _, [], same, _ => by simp at same

theorem apply_transliterate_fst (pairs : List (Char × Char)) (text : String) :
    ((transliterate pairs).apply text).1 =
      String.ofList (text.toList.map (transliterated pairs)) := by
  simp only [apply]
  rw [foldl_transliterate pairs ?maps text.toList [] false]
  case maps =>
    intro acc c
    cases found : pairs.reverse.find? (·.1 == c) <;> simp [transliterated, found]
  simp only [List.append_nil, Bool.false_or, List.reverse_reverse]
  split
  · rfl
  · next unmoved =>
    simp only [List.any_eq_true, bne_iff_ne, ne_eq, not_exists, not_and,
      Decidable.not_not] at unmoved
    apply String.toList_injective
    rw [String.toList_ofList, List.map_congr_left unmoved]
    simp

/-- A transliteration puts for each character of the text its last image. -/
theorem transliterate_maps (left right : List Char) (same : left.length = right.length)
    (text : String) :
    List.Forall₂ (LastImage left right) text.toList
      ((transliterate (left.zip right)).apply text).1.toList := by
  rw [apply_transliterate_fst, String.toList_ofList, List.forall₂_map_right_iff]
  exact List.forall₂_same.mpr fun c _ => lastImage_transliterated left right same c

end Calculation

/-! ## Loading -/

namespace Projection

theorem load_eq (formulas : List String) :
    load formulas = (formulas.mapM Calculation.parse).map fun calculations => { calculations } := by
  unfold load
  cases formulas.mapM Calculation.parse <;> rfl

theorem load_eq_ok_iff (formulas : List String) (calculations : List Calculation) :
    load formulas = .ok { calculations } ↔
      List.Forall₂ (fun f c => Calculation.parse f = .ok c) formulas calculations := by
  rw [load_eq, ← mapM_eq_ok_iff]
  cases formulas.mapM Calculation.parse <;> simp [Except.map]

/-- Loading fails with the error of the first formula that is not read. -/
theorem load_eq_error_iff (formulas : List String) (e : FormulaError) :
    load formulas = .error e ↔
      ∃ pre f post, formulas = pre ++ f :: post ∧
        (∀ g ∈ pre, ∃ c, Calculation.parse g = .ok c) ∧ Calculation.parse f = .error e := by
  rw [load_eq, ← mapM_eq_error_iff]
  cases formulas.mapM Calculation.parse <;> simp [Except.map]

/-! ## The grammar -/

/-- Projection formulas are read by exactly their grammar. Loading succeeds exactly when every
    formula is read, and otherwise fails with the error of the first formula that is not. A
    formula of lowercase letters only misses its separator; every other one has a layout, and
    one with a layout is refused as an unknown operator unless its operator is `xform`, `xlit` or
    `erase`, for missing arguments when `xform` or `xlit` has fewer than two fields, and, for
    `xlit`, when its two sides differ in length; otherwise it is read as soon as its pattern, if
    any, compiles. A loaded transliteration maps each character to its image at the last place
    the left side holds it, leaves the others alone, and reports a change exactly when the text
    changed. -/
theorem load_follows_grammar :
    (∀ (formulas : List String) (calculations : List Calculation),
      load formulas = .ok { calculations } ↔
        List.Forall₂ (fun f c => Calculation.parse f = .ok c) formulas calculations) ∧
    (∀ (formulas : List String) (e : FormulaError),
      load formulas = .error e ↔
        ∃ pre f post, formulas = pre ++ f :: post ∧
          (∀ g ∈ pre, ∃ c, Calculation.parse g = .ok c) ∧ Calculation.parse f = .error e) ∧
    (∀ formula : String, (∀ c ∈ formula.toList, c.isLower = true) →
      Calculation.parse formula = .error ⟨formula, "missing separator"⟩) ∧
    (∀ formula : String, (∃ c ∈ formula.toList, c.isLower = false) →
      ∃ op sep fields, Calculation.Layout formula op sep fields) ∧
    (∀ formula op sep fields, Calculation.Layout formula op sep fields →
      (op ∉ ["xform", "xlit", "erase"] →
        Calculation.parse formula = .error ⟨formula, "unknown operator"⟩) ∧
      ((op = "xform" ∨ op = "xlit") → fields.length < 2 →
        Calculation.parse formula = .error ⟨formula, "missing arguments"⟩) ∧
      (∀ pattern replacement more, op = "xform" → fields = pattern :: replacement :: more →
        Calculation.parse formula =
          ((Regex.compile pattern).mapError (FormulaError.mk formula)).map
            (Calculation.transform · replacement)) ∧
      (∀ left right more, op = "xlit" → fields = left :: right :: more →
        Calculation.parse formula =
          if left.length = right.length then
            .ok (.transliterate (left.toList.zip right.toList))
          else .error ⟨formula, "xlit sides differ in length"⟩) ∧
      (∀ pattern more, op = "erase" → fields = pattern :: more →
        Calculation.parse formula =
          ((Regex.compile ("^(?:" ++ pattern ++ ")$")).mapError (FormulaError.mk formula)).map
            Calculation.erase)) ∧
    (∀ (left right : List Char), left.length = right.length → ∀ text : String,
      List.Forall₂ (Calculation.LastImage left right) text.toList
          ((Calculation.transliterate (left.zip right)).apply text).1.toList ∧
        (((Calculation.transliterate (left.zip right)).apply text).2 = true ↔
          ((Calculation.transliterate (left.zip right)).apply text).1 ≠ text)) := by
  refine ⟨load_eq_ok_iff, load_eq_error_iff, fun _ lower => Calculation.parse_of_lower lower,
    fun _ some => Calculation.exists_layout some, ?laidOut,
    fun left right same text => ⟨Calculation.transliterate_maps left right same text,
      Calculation.apply_snd_iff _ text⟩⟩
  intro formula op sep fields layout
  rw [Calculation.parse_of_layout layout]
  refine ⟨Calculation.ofArguments_unknown formula op fields,
    Calculation.ofArguments_missing formula op fields, ?_, ?_, ?_⟩
  · rintro pattern replacement more rfl rfl
    exact Calculation.ofArguments_xform formula pattern replacement more
  · rintro left right more rfl rfl
    exact Calculation.ofArguments_xlit formula left right more
  · rintro pattern more rfl rfl
    exact Calculation.ofArguments_erase formula pattern more

end Projection

end InputMethod

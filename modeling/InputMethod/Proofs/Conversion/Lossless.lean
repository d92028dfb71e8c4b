import InputMethod.Proofs.Conversion.Drawing
import InputMethod.Proofs.Conversion.Segmenting

/-! # The conversion walk is safe, terminating and lossless

A conversion walks its text from left to right in *turns*. At each turn it asks its dictionary
for the longest key that begins the text left; a non-empty key whose entry `pick` gives a value
is stepped over and the value written, and otherwise one character is copied. The walk steps by
the key's length in bytes, a number read from the dictionary and not from the text, so that the
step lands inside the text and on a character boundary is something to prove.

`turns` lists the turns of the walk, what each consumes and writes. The main statement,
`convertWith_consumes_phrase`, says that for every dictionary, text dictionaries and groups
nested to any depth, and every pick:

* there are at most as many turns as the text has characters;
* the consumed pieces, matched keys and copied characters, make up the text again, in order,
  and the walk writes what the turns write;
* each turn is the one the walk takes at the start of the text left, and its step is a positive
  number of bytes that ends on a character boundary of that text, so that slicing there leaves
  exactly the text of the next turn;
* a pick that never chooses makes the conversion the identity.

It rests on one fact about lookups: a longest-prefix hit begins the text at any depth of groups
(`Dictionary.matchPrefix_begins`). In a text dictionary the hit is what the walk of the text's
bytes through the index records last, and the bytes it has read then are the hit's key
(`Dictionary.isLongestHit_matchPrefix_text`). So a matched key is the first characters of the
text left (`key_append_resume`), and its byte length is the byte length of those characters.
-/

namespace InputMethod

namespace Conversion

/-- What one turn of the walk does: it matches a key, writes the value picked for it and steps
    over the key, or it copies one character. -/
inductive Turn where
  | matched (e : Entry) (value : String)
  | copied (ch : Char)

namespace Turn

def consumed : Turn → String
  | matched e _ => e.key
  | copied ch => ch.toString

def written : Turn → String
  | matched _ v => v
  | copied ch => ch.toString

def width : Turn → Nat
  | matched e _ => e.keyLength
  | copied ch => ch.utf8Size

def TakenAt (c : Conversion) (pick : Entry → Option String) (rest : List Char) : Turn → Prop
  | matched e v =>
    c.dict.matchPrefix (String.ofList rest) = some e ∧ 0 < e.keyLength ∧ pick e = some v
  | copied ch => rest.head? = some ch ∧
      ∀ e, c.dict.matchPrefix (String.ofList rest) = some e → 0 < e.keyLength → pick e = none

theorem utf8ByteSize_consumed (t : Turn) : t.consumed.utf8ByteSize = t.width := by
  cases t with
  | matched e v => rfl
  | copied ch => rw [consumed, width, Char.toString_eq_singleton, String.utf8ByteSize_singleton]

theorem width_pos {c : Conversion} {pick : Entry → Option String} {rest : List Char}
    {t : Turn} (taken : t.TakenAt c pick rest) : 0 < t.width := by
  cases t with
  | matched e v => exact taken.2.1
  | copied ch => exact Char.utf8Size_pos ch

theorem written_eq_consumed {c : Conversion} {rest : List Char} {t : Turn}
    (taken : t.TakenAt c (fun _ => none) rest) : t.written = t.consumed := by
  cases t with
  | matched e v => exact absurd taken.2.2 (by simp)
  | copied ch => rfl

end Turn

/-! ## One turn -/

theorem step_eq_some_iff {c : Conversion} {pick : Entry → Option String} {rest : List Char}
    {e : Entry} {v : String} :
    c.step pick rest = some (e, v) ↔
      c.dict.matchPrefix (String.ofList rest) = some e ∧ 0 < e.keyLength ∧ pick e = some v := by
  cases found : c.dict.matchPrefix (String.ofList rest) with
  | none => simp [step, found]
  | some x =>
    by_cases positive : 0 < x.keyLength
    · simp only [step, found, positive, if_true, Option.map_eq_some_iff, Prod.mk.injEq,
        Option.some.injEq]
      constructor
      · rintro ⟨v, picked, rfl, rfl⟩
        exact ⟨rfl, positive, picked⟩
      · rintro ⟨rfl, -, picked⟩
        exact ⟨v, picked, rfl, rfl⟩
    -- an empty key is never a match, whatever `pick` says
    · simp only [step, found, positive, if_false, reduceCtorEq, Option.some.injEq, false_iff]
      rintro ⟨rfl, long, -⟩
      exact positive long

theorem step_eq_none_iff {c : Conversion} {pick : Entry → Option String} {rest : List Char} :
    c.step pick rest = none ↔
      ∀ e, c.dict.matchPrefix (String.ofList rest) = some e → 0 < e.keyLength → pick e = none := by
  cases found : c.dict.matchPrefix (String.ofList rest) with
  | none => simp [step, found]
  | some x =>
    by_cases positive : 0 < x.keyLength
    · simp [step, found, positive]
    · simp [step, found, positive]

/-- A match steps over its key: the key's characters and what the walk resumes on make up the
    text again. -/
theorem key_append_resume {c : Conversion} {pick : Entry → Option String} {ch : Char}
    {cs : List Char} {e : Entry} {v : String} (stepped : c.step pick (ch :: cs) = some (e, v)) :
    e.key.toList ++ cs.drop (e.key.length - 1) = ch :: cs := by
  obtain ⟨found, positive, -⟩ := step_eq_some_iff.mp stepped
  have nonempty : e.key ≠ "" := by
    rintro empty
    simp [Entry.keyLength, empty] at positive
  -- the hit begins the text, however deep in the groups it was found
  exact key_append_drop (Dictionary.matchPrefix_begins _ c.dict e found) nonempty

/-! ## The turns of a walk -/

/-- The turns of the walk over `rest`, in order. -/
def turns (c : Conversion) (pick : Entry → Option String) : List Char → List Turn
  | [] => []
  | ch :: cs =>
    match c.step pick (ch :: cs) with
    | some (e, v) => .matched e v :: turns c pick (cs.drop (e.key.length - 1))
    | none => .copied ch :: turns c pick cs
termination_by rest => rest.length
decreasing_by
  · simp only [List.length_drop, List.length_cons]; omega
  · simp only [List.length_cons]; omega

theorem turns_cons_of_step_some {c : Conversion} {pick : Entry → Option String} {ch : Char}
    {cs : List Char} {e : Entry} {v : String} (stepped : c.step pick (ch :: cs) = some (e, v)) :
    c.turns pick (ch :: cs) = .matched e v :: c.turns pick (cs.drop (e.key.length - 1)) := by
  rw [turns, stepped]

theorem turns_cons_of_step_none {c : Conversion} {pick : Entry → Option String} {ch : Char}
    {cs : List Char} (stepped : c.step pick (ch :: cs) = none) :
    c.turns pick (ch :: cs) = .copied ch :: c.turns pick cs := by
  rw [turns, stepped]

theorem join_consumed_turns (c : Conversion) (pick : Entry → Option String) (rest : List Char) :
    String.join ((c.turns pick rest).map Turn.consumed) = String.ofList rest := by
  fun_induction c.turns pick rest with
  | case1 => rfl
  | case2 ch cs e v stepped inductionHypothesis =>
    rw [List.map_cons, String.join_cons, inductionHypothesis, Turn.consumed,
      ← key_append_resume stepped, String.ofList_append, String.ofList_toList]
  | case3 ch cs stepped inductionHypothesis =>
    rw [List.map_cons, String.join_cons, inductionHypothesis, Turn.consumed, String.ofList_cons,
      Char.toString_eq_singleton]

theorem walk_eq_join_written (c : Conversion) (pick : Entry → Option String) (rest : List Char) :
    c.walk pick rest = String.join ((c.turns pick rest).map Turn.written) := by
  fun_induction c.turns pick rest with
  | case1 => rw [walk]; rfl
  | case2 ch cs e v stepped inductionHypothesis =>
    rw [walk_cons_of_step_some stepped, inductionHypothesis, List.map_cons, String.join_cons,
      Turn.written]
  | case3 ch cs stepped inductionHypothesis =>
    rw [walk_cons_of_step_none stepped, inductionHypothesis, List.map_cons, String.join_cons,
      Turn.written]

theorem length_turns_le (c : Conversion) (pick : Entry → Option String) (rest : List Char) :
    (c.turns pick rest).length ≤ rest.length := by
  fun_induction c.turns pick rest with
  | case1 => exact Nat.le_refl 0
  | case2 ch cs e v stepped inductionHypothesis =>
    simp only [List.length_cons, List.length_drop] at inductionHypothesis ⊢
    omega
  | case3 ch cs stepped inductionHypothesis =>
    simp only [List.length_cons]
    omega

theorem takenAt_of_turns_eq_cons {c : Conversion} {pick : Entry → Option String}
    {rest : List Char} {t : Turn} {later : List Turn} (first : c.turns pick rest = t :: later) :
    t.TakenAt c pick rest := by
  cases rest with
  | nil => rw [turns] at first; cases first
  | cons ch cs =>
    cases stepped : c.step pick (ch :: cs) with
    | none =>
      rw [turns_cons_of_step_none stepped, List.cons.injEq] at first
      rw [← first.1]
      exact ⟨rfl, step_eq_none_iff.mp stepped⟩
    | some hit =>
      obtain ⟨e, v⟩ := hit
      rw [turns_cons_of_step_some stepped, List.cons.injEq] at first
      rw [← first.1]
      exact step_eq_some_iff.mp stepped

theorem drop_turns (c : Conversion) (pick : Entry → Option String) (rest : List Char) :
    ∀ i, ∃ left, (c.turns pick rest).drop i = c.turns pick left := by
  fun_induction c.turns pick rest with
  | case1 => exact fun i => ⟨[], by rw [List.drop_nil, turns]⟩
  | case2 ch cs e v stepped inductionHypothesis =>
    intro i
    cases i with
    | zero => exact ⟨ch :: cs, (turns_cons_of_step_some stepped).symm⟩
    | succ i => exact inductionHypothesis i
  | case3 ch cs stepped inductionHypothesis =>
    intro i
    cases i with
    | zero => exact ⟨ch :: cs, (turns_cons_of_step_none stepped).symm⟩
    | succ i => exact inductionHypothesis i

theorem takenAt_getElem_turns (c : Conversion) (pick : Entry → Option String) (rest : List Char)
    (i : Nat) (inside : i < (c.turns pick rest).length) :
    (c.turns pick rest)[i].TakenAt c pick
      (String.join (((c.turns pick rest).drop i).map Turn.consumed)).toList := by
  -- the turns ahead walk the text left, and consume exactly that text
  obtain ⟨left, suffix⟩ := drop_turns c pick rest i
  rw [suffix, join_consumed_turns, String.toList_ofList]
  apply takenAt_of_turns_eq_cons
  rw [← suffix, List.drop_eq_getElem_cons inside]

theorem takenAt_of_mem_turns {c : Conversion} {pick : Entry → Option String} {rest : List Char}
    {t : Turn} (member : t ∈ c.turns pick rest) : ∃ left, t.TakenAt c pick left := by
  obtain ⟨i, inside, rfl⟩ := List.getElem_of_mem member
  exact ⟨_, takenAt_getElem_turns c pick rest i inside⟩

theorem isValid_width (run : List Turn) (i : Nat) (inside : i < run.length) :
    (⟨run[i].width⟩ : String.Pos.Raw).IsValid (String.join ((run.drop i).map Turn.consumed)) := by
  rw [List.drop_eq_getElem_cons inside, List.map_cons, String.join_cons,
    ← Turn.utf8ByteSize_consumed]
  exact String.Pos.Raw.isValid_rawEndPos.append_right _

theorem walk_of_never_picks (c : Conversion) (rest : List Char) :
    c.walk (fun _ => none) rest = String.ofList rest := by
  rw [walk_eq_join_written, ← join_consumed_turns c (fun _ => none) rest]
  congr 1
  apply List.map_congr_left
  intro t member
  obtain ⟨left, taken⟩ := takenAt_of_mem_turns member
  exact Turn.written_eq_consumed taken

/-! ## The whole walk -/

/-- Converting `phrase` with any pick takes at most one turn per character; the turns consume
    the phrase piece by piece, matched keys and copied characters, and the conversion writes
    what they write. At each turn, the turn is the one the walk takes at the start of the text
    left, and its step is a positive number of bytes, those of the piece it consumes, ending on
    a character boundary of that text. A pick that never chooses leaves the phrase as it is. -/
theorem convertWith_consumes_phrase (c : Conversion) (pick : Entry → Option String)
    (phrase : String) :
    let run := c.turns pick phrase.toList
    run.length ≤ phrase.length ∧
    String.join (run.map Turn.consumed) = phrase ∧
    c.convertWith pick phrase = String.join (run.map Turn.written) ∧
    (∀ i (inside : i < run.length),
      let rest := String.join ((run.drop i).map Turn.consumed)
      run[i].TakenAt c pick rest.toList ∧ 0 < run[i].width ∧
        run[i].consumed.utf8ByteSize = run[i].width ∧
        (⟨run[i].width⟩ : String.Pos.Raw).IsValid rest) ∧
    c.convertWith (fun _ => none) phrase = phrase := by
  intro run
  refine ⟨?_, ?_, walk_eq_join_written c pick phrase.toList, fun i inside => ?_, ?_⟩
  · rw [← String.length_toList]
    exact length_turns_le c pick phrase.toList
  · rw [join_consumed_turns, String.ofList_toList]
  · have taken := takenAt_getElem_turns c pick phrase.toList i inside
    exact ⟨taken, Turn.width_pos taken, Turn.utf8ByteSize_consumed _, isValid_width run i inside⟩
  · rw [convertWith, walk_of_never_picks, String.ofList_toList]

end Conversion

end InputMethod

import InputMethod.Proofs.Context.Machine
import Mathlib.Data.List.TakeWhile

/-! # Going back over a composition

Two ways of revising what has been composed, and what each of them keeps.

* `amend` switches to an edited input. On segments whose ends ascend, as those of a covering
  segmentation do (`Covers.ascending`), it keeps exactly the longest prefix of segments that
  end no later than the first changed byte, each as it was, and opens a new round after them
  exactly when it dropped a segment and the last one kept is non-empty and ends before the new
  input does (`amend_keeps_unchanged_prefix`). An input that only grows drops nothing
  (`amend_of_extends`).
* Closing a selection shrinks the span to the candidate's end when that lies strictly inside
  it, and reopening the segment undoes exactly that: after `select`, `close` and `reopen` the
  segment has the end and tags it was opened with, and its status depends only on where the
  caret lies in that span (`close_reopen_round_trip`).

The loop of `amend` looks only at the last segment, so what it keeps is a prefix cut by a
condition only because the ends ascend (`reverse_dropWhile_reverse`).
-/

namespace InputMethod

namespace Segmentation

/-! ## Ascending ends -/

/-- The segments of a covering segmentation end in ascending order. -/
theorem Covers.ascending {g : Segmentation} (covers : g.Covers) :
    g.segments.IsChain fun a b => a.stop ≤ b.stop := by
  refine covers.chained.imp_of_mem_imp fun a b _ later meets => ?_
  rw [meets]
  exact (covers.sound b later).1

theorem stop_le_of_ascending {a : Segment} {rest : List Segment}
    (ascending : (a :: rest).IsChain fun x y => x.stop ≤ y.stop) :
    ∀ s ∈ rest, a.stop ≤ s.stop := by
  have sorted : ((a :: rest).map Segment.stop).IsChain (· ≤ ·) :=
    (List.isChain_map Segment.stop).mpr ascending
  intro s member
  exact sorted.rel_cons (List.mem_map_of_mem member)

/-- On ascending ends, dropping the last segments while they end past `d` leaves the longest
    prefix of segments that end no later than `d`. -/
theorem reverse_dropWhile_reverse (d : Nat) {l : List Segment}
    (ascending : l.IsChain fun a b => a.stop ≤ b.stop) :
    (l.reverse.dropWhile fun s => d < s.stop).reverse = l.takeWhile fun s => s.stop ≤ d := by
  induction l with
  | nil => rfl
  | cons a rest inductionHypothesis =>
    rw [List.reverse_cons, List.dropWhile_append]
    by_cases past : d < a.stop
    -- the first segment ends past `d`, so every later one does, and nothing is left
    · have allPast : ∀ s ∈ rest, d < s.stop := fun s member =>
        Nat.lt_of_lt_of_le past (stop_le_of_ascending ascending s member)
      have gone : rest.reverse.dropWhile (fun s => d < s.stop) = [] :=
        List.dropWhile_eq_nil_iff.mpr (by simpa using allPast)
      simp [gone, past]
    · rw [List.takeWhile_cons_of_pos (by simpa using past), ← inductionHypothesis ascending.tail]
      split
      · next empty =>
        rw [List.isEmpty_iff.mp empty]
        simp [past]
      · simp

theorem amend_of_ascending (g : Segmentation) (input : String)
    (ascending : g.segments.IsChain fun a b => a.stop ≤ b.stop) :
    g.amend input =
      if (g.segments.takeWhile fun s => s.stop ≤ commonPrefixBytes g.input input).length <
          g.segments.length then
        (forward
          { input := input
            segments := g.segments.takeWhile fun s => s.stop ≤ commonPrefixBytes g.input input }).2
      else
        { input := input
          segments := g.segments.takeWhile fun s => s.stop ≤ commonPrefixBytes g.input input } := by
  have shorter : (g.segments.takeWhile fun s => s.stop ≤ commonPrefixBytes g.input input).length ≤
      g.segments.length := (List.takeWhile_sublist _).length_le
  simp only [amend, dropAfter, reverse_dropWhile_reverse _ ascending]
  by_cases dropped : (g.segments.takeWhile fun s => s.stop ≤ commonPrefixBytes g.input input).length
      < g.segments.length
  · rw [if_neg (by omega), if_pos dropped]
  · rw [if_pos (by omega), if_neg dropped]

/-! ## Opening the next round -/

theorem forward_of_open {g : Segmentation} {s : Segment} (last : g.last? = some s)
    (nonempty : s.start ≠ s.stop) (short : s.stop < g.input.utf8ByteSize) :
    g.forward.2 = { g with segments := g.segments ++ [Segment.new s.stop s.stop] } := by
  have goesOn : (s.isEmptySpan || g.finished) = false := by
    simp [Segment.isEmptySpan, finished, currentEnd, last, nonempty, short]
  rw [forward, last]
  simp only [goesOn, Bool.false_eq_true, if_false]

theorem forward_of_not_open {g : Segmentation}
    (closed : ¬ ∃ s ∈ g.last?, s.start ≠ s.stop ∧ s.stop < g.input.utf8ByteSize) :
    g.forward.2 = g := by
  rw [forward]
  split
  · rfl
  · next s last =>
    have stops : (s.isEmptySpan || g.finished) = true := by
      simp only [Segment.isEmptySpan, finished, currentEnd, last, Option.elim, Bool.or_eq_true,
        beq_iff_eq, decide_eq_true_eq]
      by_cases same : s.start = s.stop
      · exact .inl same
      · exact .inr (Nat.le_of_not_lt fun short => closed ⟨s, last, same, short⟩)
    simp [stops]

/-! ## Inputs that only grow -/

theorem toList_loop (bytes : ByteArray) (i : Nat) (r : List UInt8) :
    ByteArray.toList.loop bytes i r = r.reverse ++ bytes.data.toList.drop i := by
  fun_induction ByteArray.toList.loop bytes i r with
  | case1 i r within inductionHypothesis =>
    rw [inductionHypothesis, List.reverse_cons, List.append_assoc, List.singleton_append]
    have bound : i < bytes.data.toList.length := by simpa using within
    have here : bytes.get! i = bytes.data.toList[i] := by
      simp [ByteArray.get!, getElem!_pos, within]
    rw [here, ← List.drop_eq_getElem_cons bound]
  | case2 i r beyond =>
    rw [List.drop_of_length_le (by simpa using beyond), List.append_nil]

theorem toList_eq_data_toList (bytes : ByteArray) : bytes.toList = bytes.data.toList := by
  rw [ByteArray.toList, toList_loop]
  simp

theorem length_takeWhile_zip_append (l r : List UInt8) :
    ((l.zip (l ++ r)).takeWhile fun p => p.1 == p.2).length = l.length := by
  induction l with
  | nil => rfl
  | cons x xs inductionHypothesis => simp [inductionHypothesis]

theorem commonPrefixBytes_append (a t : String) :
    commonPrefixBytes a (a ++ t) = a.utf8ByteSize := by
  rw [commonPrefixBytes, String.toUTF8_eq_toByteArray, String.toUTF8_eq_toByteArray,
    String.toByteArray_append, toList_eq_data_toList, toList_eq_data_toList,
    ByteArray.toList_data_append, length_takeWhile_zip_append]
  simp

theorem dropAfter_of_le {d : Nat} {l : List Segment} (within : ∀ s ∈ l, s.stop ≤ d) :
    (dropAfter d l).1 = l := by
  rw [dropAfter_fst]
  cases reversed : l.reverse with
  | nil => rw [List.dropWhile_nil, List.reverse_nil, List.reverse_eq_nil_iff.mp reversed]
  | cons x rest =>
    have last : x ∈ l := by
      rw [← List.mem_reverse, reversed]
      exact List.mem_cons_self
    rw [List.dropWhile_cons_of_neg (by simpa using within x last), ← reversed,
      List.reverse_reverse]

/-- An input that only grows keeps every segment that ends within the old input. -/
theorem amend_of_extends {g : Segmentation} {input : String}
    (within : ∀ s ∈ g.segments, s.stop ≤ g.input.utf8ByteSize)
    (grows : ∃ t, input = g.input ++ t) : g.amend input = { g with input } := by
  obtain ⟨t, rfl⟩ := grows
  have kept := dropAfter_of_le (d := commonPrefixBytes g.input (g.input ++ t))
    (by rw [commonPrefixBytes_append]; exact within)
  simp only [amend, dropAfter] at kept ⊢
  simp only [kept, Nat.sub_self, if_pos]

/-! ## What `amend` keeps -/

/-- `amend` keeps exactly the unchanged prefix. On segments whose ends ascend, the segments left
    are the longest prefix of them that ends no later than the first byte where the old and the
    new input differ, followed by an empty segment at the last kept end exactly when some segment
    was dropped, some was kept, and the last kept one is non-empty and ends before the new input
    does. When every segment ends within the old input and the new input extends it, nothing
    changes but the input. -/
theorem amend_keeps_unchanged_prefix (g : Segmentation) (input : String)
    (ascending : g.segments.IsChain fun a b => a.stop ≤ b.stop) :
    let kept := g.segments.takeWhile fun s => s.stop ≤ commonPrefixBytes g.input input
    let opens := kept.length < g.segments.length ∧
      ∃ s ∈ kept.getLast?, s.start ≠ s.stop ∧ s.stop < input.utf8ByteSize
    (g.amend input).input = input ∧
    (opens → ∃ s ∈ kept.getLast?,
      (g.amend input).segments = kept ++ [Segment.new s.stop s.stop]) ∧
    (¬ opens → (g.amend input).segments = kept) ∧
    ((∀ s ∈ g.segments, s.stop ≤ g.input.utf8ByteSize) → (∃ t, input = g.input ++ t) →
      g.amend input = { g with input }) := by
  intro kept opens
  have shape : g.amend input = if kept.length < g.segments.length then
      (forward { input := input, segments := kept }).2 else { input := input, segments := kept } :=
    amend_of_ascending g input ascending
  refine ⟨Context.input_amend input g, ?opened, ?unopened,
    fun within grows => amend_of_extends within grows⟩
  case opened =>
    rintro ⟨dropped, s, last, nonempty, short⟩
    refine ⟨s, last, ?_⟩
    rw [shape, if_pos dropped,
      forward_of_open (g := { input := input, segments := kept }) last nonempty short]
  case unopened =>
    intro notOpens
    rw [shape]
    split
    · next dropped =>
      rw [forward_of_not_open (g := { input := input, segments := kept })
        fun found => notOpens ⟨dropped, found⟩]
    · rfl

/-- An edit after the first syllable of a two-segment cover keeps the confirmed first segment
    and opens a round after it. -/
theorem amend_keeps_confirmed_syllable :
    ([{ Segment.new 0 2 with status := .confirmed }, Segment.new 2 5].IsChain
        fun a b => a.stop ≤ b.stop) ∧
      let g : Segmentation :=
        { input := "nihao", segments := [{ Segment.new 0 2 with status := .confirmed },
          Segment.new 2 5] }
      let kept := g.segments.takeWhile fun s => s.stop ≤ commonPrefixBytes g.input "nihen"
      let opens := kept.length < g.segments.length ∧
        ∃ s ∈ kept.getLast?, s.start ≠ s.stop ∧ s.stop < "nihen".utf8ByteSize
      (g.amend "nihen").input = "nihen" ∧
      (opens → ∃ s ∈ kept.getLast?,
        (g.amend "nihen").segments = kept ++ [Segment.new s.stop s.stop]) ∧
      (¬ opens → (g.amend "nihen").segments = kept) ∧
      ((∀ s ∈ g.segments, s.stop ≤ g.input.utf8ByteSize) → (∃ t, "nihen" = g.input ++ t) →
        g.amend "nihen" = { g with input := "nihen" }) :=
  ⟨by decide, amend_keeps_unchanged_prefix _ "nihen" (by decide)⟩

end Segmentation

/-! ## Closing and reopening a segment -/

namespace Tags

theorem erase_insert_of_not_mem {t : String} {l : List String} (absent : t ∉ l) :
    (insert t l).erase t = l := by
  induction l with
  | nil => simp [insert]
  | cons u rest inductionHypothesis =>
    have other : u ≠ t := fun same => absent (by simp [same])
    rw [insert]
    split
    · simp
    · split
      · next same => exact absurd same.symm other
      · rw [List.erase_cons_tail (by simpa using other),
          inductionHypothesis fun held => absent (List.mem_cons_of_mem u held)]

end Tags

theorem Menu.prepare_fst (count : Nat) (m : Menu) :
    (m.prepare count).1 = (m.prepare count).2.cached.length :=
  rfl

namespace Segment

theorem select_of_true {s : Segment} {i : Nat} (selects : (s.select i).1 = true) :
    ∃ m, i < m.cached.length ∧
      (s.select i).2 = { s with menu := some m, selectedIndex := i, status := .selected } := by
  unfold select at selects ⊢
  cases menu : s.menu with
  | none => simp [menu] at selects
  | some m =>
    have counted := Menu.prepare_fst (i + 1) m
    rcases prepared : m.prepare (i + 1) with ⟨n, m'⟩
    rw [prepared] at counted
    simp only [menu, prepared] at selects ⊢
    by_cases tooFar : wordMax < i + 1
    · simp [tooFar] at selects
    · by_cases few : n ≤ i
      · simp [tooFar, few] at selects
      · exact ⟨m', by simp only at counted; omega, by simp [tooFar, few]⟩

theorem close_of_selected {s : Segment} {c : Candidate} (chosen : s.selected = some c) :
    s.close = (true, if s.start < c.stop ∧ c.stop < s.stop then
        { s with stop := c.stop, tags := Tags.insert partialTag s.tags, status := .confirmed }
      else { s with status := .confirmed }) := by
  unfold close
  rw [chosen]
  by_cases shrinks : s.start < c.stop ∧ c.stop < s.stop <;> simp [shrinks]

theorem reopen_of_chosen {s : Segment} (chosen : s.status.isChosen = true) (caret : Nat) :
    s.reopen caret = (true,
      { (if s.stop < s.start + s.length then
          { s with stop := s.start + s.length, tags := s.tags.erase partialTag } else s) with
        status := if s.start < caret ∧ caret ≤ s.start + s.length then .guess else .void,
        menu := none, selectedIndex := 0 }) := by
  unfold reopen
  simp only [chosen, Bool.not_true, Bool.false_eq_true, if_false]
  split <;> simp

/-- Selecting a candidate, closing the selection and reopening the segment is a round trip.
    On a segment that spans the length it was opened with and has no `partial` tag, a selection
    that succeeds has a candidate; closing confirms it, moving the end to the candidate's end and
    adding `partial` exactly when that end lies strictly inside the span, and leaving span and
    tags alone otherwise. Reopening then gives back the original end and tags, drops the menu and
    the selection, and guesses again exactly when the caret lies in `(start, start + length]`. -/
theorem close_reopen_round_trip (s : Segment) (i caret : Nat)
    (opened : s.stop = s.start + s.length) (unmarked : partialTag ∉ s.tags)
    (selects : (s.select i).1 = true) :
    let chosen := (s.select i).2
    let closed := chosen.close
    let reopened := closed.2.reopen caret
    ∃ c, chosen.selected = some c ∧ closed.1 = true ∧ closed.2.status = .confirmed ∧
      closed.2.start = s.start ∧
      (s.start < c.stop ∧ c.stop < s.stop →
        closed.2.stop = c.stop ∧ closed.2.tags = Tags.insert partialTag s.tags) ∧
      (¬ (s.start < c.stop ∧ c.stop < s.stop) →
        closed.2.stop = s.stop ∧ closed.2.tags = s.tags) ∧
      reopened.1 = true ∧ reopened.2.start = s.start ∧ reopened.2.stop = s.stop ∧
      reopened.2.tags = s.tags ∧ reopened.2.menu = none ∧ reopened.2.selectedIndex = 0 ∧
      reopened.2.status =
        if s.start < caret ∧ caret ≤ s.start + s.length then .guess else .void := by
  intro chosen closed reopened
  obtain ⟨m, within, selected⟩ := select_of_true selects
  obtain ⟨c, found⟩ : ∃ c, m.cached[i]? = some c := ⟨m.cached[i], List.getElem?_eq_getElem within⟩
  have picked : chosen.selected = some c := by
    simp only [chosen, selected, Segment.selected, candidateAt, Option.bind, Menu.candidateAt,
      found]
  have closing : closed = (true, if s.start < c.stop ∧ c.stop < s.stop then
      { chosen with stop := c.stop, tags := Tags.insert partialTag s.tags, status := .confirmed }
    else { chosen with status := .confirmed }) := by
    simp only [closed, close_of_selected picked, chosen, selected]
  have reopening := reopen_of_chosen (s := closed.2) (by rw [closing]; split <;> rfl) caret
  refine ⟨c, picked, by rw [closing], ?_⟩
  by_cases shrinks : s.start < c.stop ∧ c.stop < s.stop
  -- the span shrank to the candidate's end: reopening puts the end back and `partial` away
  · have restored : c.stop < s.start + s.length := by omega
    simp only [reopened, reopening, closing, if_pos shrinks]
    simp [chosen, selected, restored, opened, Tags.erase_insert_of_not_mem unmarked, shrinks]
  · have kept : ¬ s.stop < s.start + s.length := by omega
    simp only [reopened, reopening, closing, if_neg shrinks]
    simp [chosen, selected, kept, shrinks]

/-- A four-byte segment whose second candidate covers its first two bytes: closing that
    selection shrinks the span to them, and reopening with the caret at the original end guesses
    again over all four bytes. -/
theorem reopens_partial_selection :
    let s : Segment := { Segment.new 0 4 with
      menu := some { cached := [Candidate.make "test" 0 4 "c0" 0.0,
        Candidate.make "test" 0 2 "c1" 0.0] } }
    s.stop = s.start + s.length ∧ partialTag ∉ s.tags ∧ (s.select 1).1 = true ∧
      let chosen := (s.select 1).2
      let closed := chosen.close
      let reopened := closed.2.reopen 4
      ∃ c, chosen.selected = some c ∧ closed.1 = true ∧ closed.2.status = .confirmed ∧
        closed.2.start = s.start ∧
        (s.start < c.stop ∧ c.stop < s.stop →
          closed.2.stop = c.stop ∧ closed.2.tags = Tags.insert partialTag s.tags) ∧
        (¬ (s.start < c.stop ∧ c.stop < s.stop) →
          closed.2.stop = s.stop ∧ closed.2.tags = s.tags) ∧
        reopened.1 = true ∧ reopened.2.start = s.start ∧ reopened.2.stop = s.stop ∧
        reopened.2.tags = s.tags ∧ reopened.2.menu = none ∧ reopened.2.selectedIndex = 0 ∧
        reopened.2.status = if s.start < 4 ∧ 4 ≤ s.start + s.length then .guess else .void :=
  ⟨rfl, List.not_mem_nil, rfl, close_reopen_round_trip _ 1 4 rfl List.not_mem_nil rfl⟩

end Segment

end InputMethod

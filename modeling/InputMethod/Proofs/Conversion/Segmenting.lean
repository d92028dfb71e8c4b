import InputMethod.Proofs.Conversion.Groups

/-! # Greedy maximum-match segmentation

`maxMatch` cuts a text into pieces before conversion: where a non-empty key begins the rest, the
longest such key is a piece of its own; elsewhere it gathers characters, and the characters
between two keys become one piece. `Cuts` says this as rules over the text, without the walk:
a key piece is the longest key that begins the rest, and an unmatched piece is a run of
characters at none of which a non-empty key begins, ending where a key begins or where the text
ends. The main statement, `maxMatch_segments`, says that for every dictionary and every text the
pieces are non-empty, join to the text, and obey the rules, and that a segmenting converter
converts the text piece by piece. The rules leave no choice (`Cuts.unique`), so the pieces are
the only ones they allow (`maxMatch_eq_of_cuts`).

The walk keeps the characters of the unmatched run it is gathering, newest first; the invariant
of `cuts_go` is that no key begins at any of them (`PendingRun`).
-/

namespace InputMethod

namespace Dictionary

open Text

def Unmatched (d : Dictionary) (t : String) : Prop :=
  ∀ x ∈ d.allEntries, x.key ≠ "" → ¬ BytesBegin x.key t

theorem unmatched_iff {d : Dictionary} {t : String} :
    d.Unmatched t ↔ ∀ e ∈ d.matchPrefix t, e.keyLength = 0 := by
  constructor
  · intro unmatched e found
    obtain ⟨member, begins, -⟩ := matchPrefix_longestHit found
    have empty : e.key = "" := Classical.byContradiction fun nonempty =>
      unmatched e member nonempty begins
    simp [Entry.keyLength, empty]
  · intro onlyEmpty x member nonempty begins
    obtain ⟨y, found⟩ := exists_matchPrefix member ((isPrefixOf_iff_bytesBegin _ _).mpr begins)
    have bound := (matchPrefix_longestHit found).2.2 x member begins
    rw [onlyEmpty y found, Nat.le_zero, Entry.keyLength, String.utf8ByteSize_eq_zero_iff] at bound
    exact nonempty bound

end Dictionary

/-- `Cuts d rest pieces`: the pieces cut the characters `rest` by greedy maximum match through
    `d`. -/
inductive Cuts (d : Dictionary) : List Char → List String → Prop
  /-- Nothing is left to cut. -/
  | finish : Cuts d [] []
  /-- The longest key that begins the rest, when it is not empty, is a piece of its own. -/
  | key {e : Entry} {rest : List Char} {pieces : List String} :
      e.key ≠ "" → d.LongestHit (String.ofList (e.key.toList ++ rest)) e →
      Cuts d rest pieces → Cuts d (e.key.toList ++ rest) (e.key :: pieces)
  /-- Characters at none of which a key begins are one piece, up to where a key begins or the
      text ends. -/
  | run {run rest : List Char} {pieces : List String} :
      run ≠ [] → (∀ i < run.length, d.Unmatched (String.ofList ((run ++ rest).drop i))) →
      (rest = [] ∨ ¬ d.Unmatched (String.ofList rest)) →
      Cuts d rest pieces → Cuts d (run ++ rest) (String.ofList run :: pieces)

namespace Cuts

variable {d : Dictionary}

/-- The pieces join to the text they cut. -/
theorem join {rest : List Char} {pieces : List String} (cut : Cuts d rest pieces) :
    String.join pieces = String.ofList rest := by
  induction cut with
  | finish => rfl
  | key _ _ _ joined => rw [String.join_cons, joined, String.ofList_append, String.ofList_toList]
  | run _ _ _ _ joined => rw [String.join_cons, joined, String.ofList_append]

theorem ne_empty {rest : List Char} {pieces : List String} (cut : Cuts d rest pieces) :
    ∀ piece ∈ pieces, piece ≠ "" := by
  induction cut with
  | finish => simp
  | key nonempty _ _ others =>
    exact List.forall_mem_cons.mpr ⟨nonempty, others⟩
  | run nonempty _ _ _ others =>
    exact List.forall_mem_cons.mpr ⟨fun empty => nonempty (String.ofList_eq_empty_iff.mp empty),
      others⟩

theorem not_unmatched_of_key {e : Entry} {rest : List Char} (nonempty : e.key ≠ "")
    (longest : d.LongestHit (String.ofList (e.key.toList ++ rest)) e) :
    ¬ d.Unmatched (String.ofList (e.key.toList ++ rest)) :=
  fun unmatched => unmatched e longest.1 nonempty longest.2.1

theorem key_append_ne_nil {e : Entry} {rest : List Char} (nonempty : e.key ≠ "") :
    e.key.toList ++ rest ≠ [] :=
  List.append_ne_nil_of_left_ne_nil (fun empty => nonempty (String.toList_eq_nil_iff.mp empty)) rest

theorem run_ne_key {run rest rest' : List Char} {e : Entry} (nonempty : run ≠ [])
    (unmatched : ∀ i < run.length, d.Unmatched (String.ofList ((run ++ rest).drop i)))
    (nonempty' : e.key ≠ "") (longest : d.LongestHit (String.ofList (e.key.toList ++ rest')) e) :
    run ++ rest ≠ e.key.toList ++ rest' := by
  intro text
  have atStart := unmatched 0 (List.length_pos_of_ne_nil nonempty)
  rw [List.drop_zero, text] at atStart
  exact not_unmatched_of_key nonempty' longest atStart

theorem run_eq_run {run run' rest rest' : List Char} (same : run ++ rest = run' ++ rest')
    (unmatched' : ∀ i < run'.length, d.Unmatched (String.ofList ((run' ++ rest').drop i)))
    (ended : rest = [] ∨ ¬ d.Unmatched (String.ofList rest)) :
    ∀ more, run' = run ++ more → more = [] := by
  intro more longer
  apply Classical.byContradiction
  intro nonempty
  have restEq : rest = more ++ rest' := by
    rw [longer, List.append_assoc] at same
    exact List.append_cancel_left same
  rcases ended with finished | matched
  · rw [restEq] at finished
    exact nonempty (List.append_eq_nil_iff.mp finished).1
  · apply matched
    have inside : run.length < run'.length := by
      rw [longer, List.length_append]
      exact Nat.lt_add_of_pos_right (List.length_pos_of_ne_nil nonempty)
    have dropped := unmatched' run.length inside
    rwa [longer, List.append_assoc, List.drop_left, ← restEq] at dropped

/-- The rules leave no choice: a text has at most one cut. -/
theorem unique {rest : List Char} {pieces pieces' : List String} (cut : Cuts d rest pieces)
    (cut' : Cuts d rest pieces') : pieces = pieces' := by
  induction cut generalizing pieces' with
  | finish =>
    generalize text : ([] : List Char) = whole at cut'
    cases cut' with
    | finish => rfl
    | key nonempty _ _ => exact absurd text.symm (key_append_ne_nil nonempty)
    | run nonempty _ _ _ => exact absurd text.symm (List.append_ne_nil_of_left_ne_nil nonempty _)
  | @key e rest pieces nonempty longest _ inductionHypothesis =>
    generalize text : e.key.toList ++ rest = whole at cut'
    cases cut' with
    | finish => exact absurd text (key_append_ne_nil nonempty)
    -- two longest keys that begin one text are one key
    | @key e' rest' pieces'' nonempty' longest' cut'' =>
      rw [← text] at longest'
      have sameLength : e.keyLength = e'.keyLength :=
        Nat.le_antisymm (longest'.2.2 e longest.1 longest.2.1)
          (longest.2.2 e' longest'.1 longest'.2.1)
      have sameKey : e.key = e'.key :=
        Text.eq_of_bytesBegin longest.2.1 longest'.2.1 sameLength
      rw [sameKey] at text
      rw [sameKey, inductionHypothesis (List.append_cancel_left text ▸ cut'')]
    -- a run cannot start where a key begins
    | run nonempty' unmatched' _ _ =>
      exact absurd text.symm (run_ne_key nonempty' unmatched' nonempty longest)
  | @run run rest pieces nonempty unmatched ended _ inductionHypothesis =>
    generalize text : run ++ rest = whole at cut'
    cases cut' with
    | finish => exact absurd text (List.append_ne_nil_of_left_ne_nil nonempty _)
    | key nonempty' longest' _ =>
      exact absurd text (run_ne_key nonempty unmatched nonempty' longest')
    -- of two runs of one text, neither can be the longer
    | @run run' rest' pieces'' nonempty' unmatched' ended' cut'' =>
      have sameRun : run = run' := by
        rcases List.append_eq_append_iff.mp text with ⟨more, longer, -⟩ | ⟨more, longer, -⟩
        · rw [longer, run_eq_run text (text ▸ unmatched') ended more longer, List.append_nil]
        · rw [longer, run_eq_run text.symm (text ▸ unmatched) ended' more longer,
            List.append_nil]
      subst sameRun
      rw [inductionHypothesis (List.append_cancel_left text ▸ cut'')]

end Cuts

/-! ## The walk -/

/-- The characters gathered so far, newest first, are an unmatched run: no key begins at any of
    them. -/
def PendingRun (d : Dictionary) (pending rest : List Char) : Prop :=
  ∀ i < pending.length, d.Unmatched (String.ofList ((pending.reverse ++ rest).drop i))

/-- A character at which no key begins joins the run. -/
theorem PendingRun.push {d : Dictionary} {pending cs : List Char} {ch : Char}
    (run : PendingRun d pending (ch :: cs)) (here : d.Unmatched (String.ofList (ch :: cs))) :
    PendingRun d (ch :: pending) cs := by
  intro i inside
  have rearranged : (ch :: pending).reverse ++ cs = pending.reverse ++ ch :: cs := by simp
  rw [rearranged]
  rcases Nat.lt_or_ge i pending.length with earlier | last
  · exact run i earlier
  · have atChar : i = pending.length := by simp at inside; omega
    rw [atChar, ← List.length_reverse, List.drop_left]
    exact here

theorem key_append_drop {e : Entry} {ch : Char} {cs : List Char}
    (begins : e.key.isPrefixOf (String.ofList (ch :: cs)) = true) (nonempty : e.key ≠ "") :
    e.key.toList ++ cs.drop (e.key.length - 1) = ch :: cs := by
  have prefixed := String.startsWith_string_iff.mp begins
  rw [String.toList_ofList] at prefixed
  obtain ⟨n, length⟩ : ∃ n, e.key.toList.length = n + 1 :=
    Nat.exists_eq_succ_of_ne_zero fun empty =>
      nonempty (String.toList_eq_nil_iff.mp (List.length_eq_zero_iff.mp empty))
  have dropped : (ch :: cs).drop e.key.toList.length = cs.drop (e.key.length - 1) := by
    rw [← String.length_toList, length, List.drop_succ_cons, Nat.add_sub_cancel]
  rw [← dropped]
  exact List.prefix_iff_eq_append.mp prefixed

/-- The walk from a gathered run cuts the run and the rest by the rules. -/
theorem cuts_go (d : Dictionary) (pending rest : List Char) (run : PendingRun d pending rest) :
    Cuts d (pending.reverse ++ rest) (maxMatch.go d pending rest) := by
  fun_induction maxMatch.go d pending rest with
  | case1 pending empty =>
    rw [List.isEmpty_iff.mp empty]
    exact .finish
  | case2 pending gathered =>
    exact .run (by simpa using gathered) (by simpa [PendingRun] using run) (.inl rfl) .finish
  | case3 pending ch cs e found long inductionHypothesis =>
    have nonempty : e.key ≠ "" := fun empty => by simp [Entry.keyLength, empty] at long
    have split := key_append_drop (Dictionary.matchPrefix_begins _ d e found) nonempty
    -- the key is a piece of its own, after the run if one was gathered
    have keyed : Cuts d (ch :: cs) (e.key :: maxMatch.go d [] (cs.drop (e.key.length - 1))) := by
      rw [← split]
      refine .key nonempty ?_ (inductionHypothesis fun _ none => absurd none (Nat.not_lt_zero _))
      rw [split]
      exact Dictionary.matchPrefix_longestHit found
    by_cases empty : pending.isEmpty
    · rw [if_pos empty, List.isEmpty_iff.mp empty]
      exact keyed
    · rw [if_neg empty]
      refine .run (by simpa using empty) (by simpa [PendingRun] using run)
        (.inr fun unmatched => ?_) keyed
      simp [Dictionary.unmatched_iff.mp unmatched e found] at long
  | case4 pending ch cs e found short inductionHypothesis =>
    have here : d.Unmatched (String.ofList (ch :: cs)) :=
      Dictionary.unmatched_iff.mpr fun e' found' => by
        rw [found, Option.mem_def, Option.some.injEq] at found'
        subst found'
        omega
    simpa using inductionHypothesis (run.push here)
  | case5 pending ch cs nothing inductionHypothesis =>
    have here : d.Unmatched (String.ofList (ch :: cs)) :=
      Dictionary.unmatched_iff.mpr fun e' found' => by
        rw [nothing] at found'
        cases found'
    simpa using inductionHypothesis (run.push here)

theorem cuts_maxMatch (d : Dictionary) (text : String) : Cuts d text.toList (maxMatch d text) :=
  cuts_go d [] text.toList fun _ none => absurd none (Nat.not_lt_zero _)

/-- Every cut of a text by the rules is the one the walk makes. -/
theorem maxMatch_eq_of_cuts {d : Dictionary} {text : String} {pieces : List String}
    (cut : Cuts d text.toList pieces) : maxMatch d text = pieces :=
  (cuts_maxMatch d text).unique cut

theorem Converter.convert_of_segmenter {cv : Converter} {d : Dictionary}
    (segmenting : cv.segmenter = some d) (text : String) :
    cv.convert text = String.join ((maxMatch d text).map cv.chain) := by
  rw [Converter.convert, segmenting]

/-- For every dictionary and every text, maximum-match segmentation gives non-empty pieces that
    join to the text. Each piece is the longest key that begins the rest of the text, or a run
    of characters at none of which a key begins, which ends where a key begins or where the
    text ends, so no two runs are neighbours. A segmenting converter converts the text by
    running its stages on each piece and joining the results. -/
theorem maxMatch_segments (d : Dictionary) (text : String) :
    String.join (maxMatch d text) = text ∧ (∀ piece ∈ maxMatch d text, piece ≠ "") ∧
      Cuts d text.toList (maxMatch d text) ∧
      ∀ cv : Converter, cv.segmenter = some d →
        cv.convert text = String.join ((maxMatch d text).map cv.chain) := by
  have cut := cuts_maxMatch d text
  refine ⟨?_, cut.ne_empty, cut, fun cv segmenting => Converter.convert_of_segmenter segmenting text⟩
  rw [cut.join, String.ofList_toList]

end InputMethod

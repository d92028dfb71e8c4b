import InputMethod.Proofs.Conversion.Lookup
import InputMethod.Proofs.Text.Splitting

/-! # Reading the text form of a dictionary

A text dictionary is read from text, one entry a line: the key, a tab, and values separated by
spaces. The lines are the pieces between line feeds, each without the carriage returns that end
it (`textLines`). The main statement, `parse_reads_lines`, says what reading gives for every
text:

* it succeeds exactly when every line is empty or has a non-empty key before its first tab
  (`WellKeyed`);
* otherwise it reports the first line that is neither, counted from one with blank lines
  included, as missing its tab or having an empty key (`faultOf`);
* on success the dictionary answers both lookups as the lines say (`ReadsLines`): a whole-word
  lookup finds the entry of the first line keyed by the word, and a longest-prefix lookup finds
  the entry of the first line keyed by the longest key whose bytes begin the text; its entries
  are in strictly ascending byte order of keys, and the index built from them is the one it
  looks them up in.

The dictionary keeps its entries sorted by key, one entry per key, so the first line's entry
for a key has to survive a sort and the removal of later duplicates. Merge sort is stable
(`find?_mergeSort`), and keeping the first of each run of equal keys changes no search by key
(`find?_keepFirst`), so a search by key in the dictionary is one in the lines. Sorted and
thinned, the keys ascend strictly in bytes, so building the index never fails
(`build_of_ascending`), and the lookups through it are searches in the entries
(`matchWord_text`, `matchPrefix_text`).
-/

namespace InputMethod

namespace Dictionary

open Text

/-! ## What the text says -/

/-- The lines of a text form: the pieces between line feeds, each without the carriage returns
    at its end. -/
def textLines (content : String) : List String :=
  (content.splitOn "\n").map dropTrailingReturns

/-- A line that reading accepts: an empty line, or one with a non-empty key before its first
    tab. -/
def WellKeyed (line : String) : Prop :=
  line = "" ∨ ∃ key rest, key ≠ "" ∧ SplitsAtTab line key rest

/-- What a line that reading refuses is reported for: with a tab, the key before it is empty;
    without one, the tab is missing. -/
def faultOf (line : String) : String :=
  if '\t' ∈ line.toList then "empty key" else "missing tab"

def tokens (rest : String) : List String :=
  (rest.splitOn " ").filter (!·.isEmpty)

def FirstKeyed (lines : List String) (w : String) (e : Entry) : Prop :=
  ∃ before line after rest, lines = before ++ line :: after ∧ SplitsAtTab line w rest ∧
    e = ⟨w, tokens rest⟩ ∧ ∀ earlier ∈ before, ∀ rest', ¬ SplitsAtTab earlier w rest'

/-- How a dictionary read from `lines` answers its lookups, and how its entries are ordered. -/
structure ReadsLines (d : Dictionary) (lines : List String) : Prop where
  word : ∀ w e, d.matchWord w = some e ↔ w ≠ "" ∧ FirstKeyed lines w e
  noPrefix : ∀ t, d.matchPrefix t = none ↔
    ∀ line ∈ lines, ∀ key rest, SplitsAtTab line key rest → ¬ BytesBegin key t
  longest : ∀ t e, d.matchPrefix t = some e ↔ FirstKeyed lines e.key e ∧ BytesBegin e.key t ∧
    ∀ line ∈ lines, ∀ key rest, SplitsAtTab line key rest → BytesBegin key t →
      key.utf8ByteSize ≤ e.key.utf8ByteSize
  ascending : ∃ entries index keyed indexed, d = .text entries index keyed indexed ∧
    Fst.build (Entry.keyIndex entries) = .ok index ∧
    entries.Pairwise (fun a b => Text.bytes a.key < Text.bytes b.key)

/-! ## One line -/

theorem exists_splitOn_tab (rest : String) : ∃ first more, rest.splitOn "\t" = first :: more := by
  rw [show ("\t" : String) = String.singleton '\t' from rfl, splitOn_singleton]
  obtain ⟨first, more, pieces⟩ := List.exists_cons_of_ne_nil (List.splitOn_ne_nil '\t' rest.toList)
  exact ⟨_, _, by rw [pieces, List.map_cons]⟩

theorem parseLine_of_splitsAtTab {line key rest : String} (split : SplitsAtTab line key rest) :
    parseLine line = if key.isEmpty then .error "empty key" else .ok ⟨key, tokens rest⟩ := by
  obtain ⟨first, more, pieces⟩ := exists_splitOn_tab rest
  have joined : "\t".intercalate (first :: more) = rest := by
    rw [← pieces, intercalate_splitOn_tab]
  rw [parseLine, splitOn_tab_of_splitsAtTab split, pieces]
  simp only [joined]
  rfl

theorem parseLine_of_not_mem {line : String} (noTab : '\t' ∉ line.toList) :
    parseLine line = .error "missing tab" := by
  rw [parseLine, splitOn_tab_of_not_mem noTab]

def parsedEntry (line : String) : Option Entry :=
  (parseLine line).toOption

theorem parsedEntry_eq_some {line : String} {e : Entry} :
    parsedEntry line = some e ↔ e.key ≠ "" ∧ ∃ rest, SplitsAtTab line e.key rest ∧
      e.values = tokens rest := by
  by_cases hasTab : '\t' ∈ line.toList
  · obtain ⟨key, rest, split⟩ := exists_splitsAtTab hasTab
    rw [parsedEntry, parseLine_of_splitsAtTab split]
    constructor
    · intro held
      by_cases empty : key.isEmpty = true
      · simp [empty, Except.toOption] at held
      · simp only [empty, Bool.false_eq_true, if_false, Except.toOption, Option.some.injEq] at held
        subst held
        exact ⟨by simpa using empty, rest, split, rfl⟩
    · rintro ⟨nonempty, rest', split', values⟩
      obtain ⟨sameKey, sameRest⟩ := split.unique split'
      have empty : key.isEmpty = false := by simpa [sameKey] using nonempty
      simp only [empty, Bool.false_eq_true, if_false, Except.toOption, Option.some.injEq]
      cases e
      simp_all
  · rw [parsedEntry, parseLine_of_not_mem hasTab]
    simp only [Except.toOption, reduceCtorEq, false_iff, not_and, not_exists]
    intro _ rest split
    exact absurd (by simp [toList_splitsAtTab split]) hasTab

theorem parseLine_of_line {line : String} (nonempty : line ≠ "") :
    (WellKeyed line → ∃ e, parseLine line = .ok e) ∧
      (¬ WellKeyed line → parseLine line = .error (faultOf line)) := by
  by_cases hasTab : '\t' ∈ line.toList
  · obtain ⟨key, rest, split⟩ := exists_splitsAtTab hasTab
    rw [parseLine_of_splitsAtTab split]
    have fault : faultOf line = "empty key" := by simp [faultOf, hasTab]
    refine ⟨?_, ?_⟩
    · rintro (empty | ⟨key', rest', keyed, split'⟩)
      · exact absurd empty nonempty
      · obtain ⟨rfl, rfl⟩ := split.unique split'
        have kept : key.isEmpty = false := by simpa using keyed
        exact ⟨⟨key, tokens rest⟩, by simp [kept]⟩
    · intro refused
      have empty : key = "" := by
        by_contra keyed
        exact refused (.inr ⟨key, rest, keyed, split⟩)
      simp [empty, fault]
  · rw [parseLine_of_not_mem hasTab]
    refine ⟨?_, fun _ => by simp [faultOf, hasTab]⟩
    rintro (empty | ⟨key, rest, -, split⟩)
    · exact absurd empty nonempty
    · exact absurd (by simp [toList_splitsAtTab split]) hasTab

theorem parsedEntry_empty : parsedEntry "" = none := by
  rw [parsedEntry, parseLine_of_not_mem (by simp)]
  rfl

/-! ## Reading line after line -/

def readLine (path : String) : String × Nat → Except ConversionError (Option Entry)
  | (line, n) =>
    let line := dropTrailingReturns line
    if line.isEmpty then pure none
    else match parseLine line with
      | .ok e => pure (some e)
      | .error message => throw (.malformedDict path n message)

theorem parse_eq (content path : String) :
    parse content path = ((lines content).zipIdx 1).filterMapM (readLine path) >>= ofEntries :=
  rfl

theorem readLine_of_wellKeyed (path raw : String) (n : Nat)
    (accepted : WellKeyed (dropTrailingReturns raw)) :
    readLine path (raw, n) = .ok (parsedEntry (dropTrailingReturns raw)) := by
  by_cases empty : dropTrailingReturns raw = ""
  · simp [readLine, empty, parsedEntry_empty]
    rfl
  · obtain ⟨e, parsed⟩ := (parseLine_of_line empty).1 accepted
    have nonempty : (dropTrailingReturns raw).isEmpty = false := by simpa using empty
    simp only [readLine, nonempty, Bool.false_eq_true, if_false, parsed, parsedEntry]
    rfl

theorem readLine_of_not_wellKeyed (path raw : String) (n : Nat)
    (refused : ¬ WellKeyed (dropTrailingReturns raw)) :
    readLine path (raw, n) =
      .error (.malformedDict path n (faultOf (dropTrailingReturns raw))) := by
  have empty : dropTrailingReturns raw ≠ "" := fun empty => refused (.inl empty)
  have nonempty : (dropTrailingReturns raw).isEmpty = false := by simpa using empty
  simp only [readLine, nonempty, Bool.false_eq_true, if_false,
    (parseLine_of_line empty).2 refused]
  rfl

theorem filterMapM_readLine (path : String) (raw : List String) (k : Nat) :
    ((∀ line ∈ raw.map dropTrailingReturns, WellKeyed line) →
        (raw.zipIdx k).filterMapM (readLine path) =
          .ok ((raw.map dropTrailingReturns).filterMap parsedEntry)) ∧
      (∀ entries, (raw.zipIdx k).filterMapM (readLine path) = .ok entries →
        ∀ line ∈ raw.map dropTrailingReturns, WellKeyed line) ∧
      (∀ e, (raw.zipIdx k).filterMapM (readLine path) = .error e → ∃ before line after,
        raw.map dropTrailingReturns = before ++ line :: after ∧ ¬ WellKeyed line ∧
          (∀ earlier ∈ before, WellKeyed earlier) ∧
          e = .malformedDict path (k + before.length) (faultOf line)) := by
  induction raw generalizing k with
  | nil => simp [pure, Except.pure]
  | cons first more inductionHypothesis =>
    obtain ⟨allRead, onlyAccepted, stopped⟩ := inductionHypothesis (k + 1)
    simp only [List.zipIdx_cons, List.filterMapM_cons, List.map_cons, List.forall_mem_cons]
    by_cases accepted : WellKeyed (dropTrailingReturns first)
    · rw [readLine_of_wellKeyed path first k accepted]
      simp only [bind, Except.bind]
      refine ⟨fun ⟨_, rest⟩ => ?_, fun entries read => ⟨accepted, ?_⟩, fun e read => ?_⟩
      · rw [allRead rest]
        cases held : parsedEntry (dropTrailingReturns first) <;> simp [held, pure, Except.pure]
      -- the entries after the first line are read from the other lines
      · cases held : parsedEntry (dropTrailingReturns first) <;>
          cases rest : (more.zipIdx (k + 1)).filterMapM (readLine path) <;>
          simp [held, rest, pure, Except.pure] at read <;> exact onlyAccepted _ rest
      · obtain ⟨before, line, after, split, refused, earlier, rfl⟩ : ∃ before line after,
            more.map dropTrailingReturns = before ++ line :: after ∧ ¬ WellKeyed line ∧
              (∀ earlier ∈ before, WellKeyed earlier) ∧
              e = .malformedDict path (k + 1 + before.length) (faultOf line) := by
          cases held : parsedEntry (dropTrailingReturns first) <;>
            cases rest : (more.zipIdx (k + 1)).filterMapM (readLine path) <;>
            simp [held, rest, pure, Except.pure] at read <;> subst read <;> exact stopped _ rest
        refine ⟨dropTrailingReturns first :: before, line, after, by simp [split], refused,
          by simpa using ⟨accepted, earlier⟩, ?_⟩
        simp [Nat.add_assoc, Nat.add_comm 1]
    · rw [readLine_of_not_wellKeyed path first k accepted]
      simp only [bind, Except.bind, reduceCtorEq, imp_false, not_and, accepted,
        false_implies, forall_const, true_and, Except.error.injEq]
      rintro e rfl
      exact ⟨[], dropTrailingReturns first, more.map dropTrailingReturns, rfl, accepted,
        by simp, by simp⟩

/-! ## One entry per key, the first -/

/-- Keeping the first of each run of equal keys changes no search by key: of the entries it
    drops, each follows one with its key. -/
theorem find?_keepFirst (w : String) (entries : List Entry) :
    (keepFirst entries).find? (·.key == w) = entries.find? (·.key == w) := by
  induction entries with
  | nil => rfl
  | cons e rest inductionHypothesis =>
    rw [keepFirst_cons]
    cases kept : keepFirst rest with
    | nil =>
      rw [kept] at inductionHypothesis
      simp [List.find?_cons, ← inductionHypothesis]
    | cons f more =>
      rw [kept] at inductionHypothesis
      by_cases sameKey : (f.key == e.key) = true
      -- the head of the rest is dropped, and it has the key of `e`
      · simp only [sameKey, if_true]
        cases found : e.key == w
        · have differs : (f.key == w) = false := by
            simp only [beq_iff_eq] at sameKey
            rw [sameKey, found]
          simp [found, ← inductionHypothesis, differs]
        · simp [found]
      · simp [sameKey, List.find?_cons, ← inductionHypothesis]

theorem keepFirst_ascending {entries : List Entry}
    (sorted : entries.Pairwise (fun a b => byKey a b = true)) :
    (keepFirst entries).Pairwise (fun a b => Text.bytes a.key < Text.bytes b.key) := by
  induction entries with
  | nil => simp [keepFirst]
  | cons e rest inductionHypothesis =>
    obtain ⟨first, sortedRest⟩ := List.pairwise_cons.mp sorted
    have ascending := inductionHypothesis sortedRest
    have below : ∀ x ∈ keepFirst rest, Text.bytes e.key ≤ Text.bytes x.key := fun x kept => by
      simpa [byKey] using first x (mem_of_mem_keepFirst kept)
    rw [keepFirst_cons]
    split
    · next f more keptRest =>
      rw [keptRest] at ascending below
      obtain ⟨afterHead, ascendingMore⟩ := List.pairwise_cons.mp ascending
      split
      -- `e` takes the place of the head, which has its key
      · next sameKey =>
        simp only [beq_iff_eq] at sameKey
        exact List.pairwise_cons.mpr ⟨fun x later => sameKey ▸ afterHead x later, ascendingMore⟩
      · next differs =>
        have beforeHead : Text.bytes e.key < Text.bytes f.key :=
          (List.le_iff_lt_or_eq.mp (below f List.mem_cons_self)).resolve_right fun same =>
            differs (by simp [Text.bytes_injective same])
        refine List.pairwise_cons.mpr ⟨?_, ascending⟩
        intro x kept
        rcases List.mem_cons.mp kept with rfl | later
        · exact beforeHead
        · exact List.lt_trans beforeHead (afterHead x later)
    · simp

theorem find?_of_ascending {entries : List Entry}
    (ascending : entries.Pairwise (fun a b => Text.bytes a.key < Text.bytes b.key)) {x : Entry}
    (member : x ∈ entries) :
    entries.find? (·.key == x.key) = some x := by
  induction entries with
  | nil => simp at member
  | cons e rest inductionHypothesis =>
    obtain ⟨first, ascendingRest⟩ := List.pairwise_cons.mp ascending
    rw [List.find?_cons]
    rcases List.mem_cons.mp member with rfl | later
    · simp
    · have differs : (e.key == x.key) = false := by
        rw [← Text.beq_bytes, beq_eq_false_iff_ne]
        exact fun same => List.lt_irrefl _ (same ▸ first x later)
      rw [differs, inductionHypothesis ascendingRest later]

theorem byKey_trans (a b c : Entry) (first : byKey a b = true) (second : byKey b c = true) :
    byKey a c = true := by
  simp only [byKey, decide_eq_true_eq] at first second ⊢
  exact List.le_trans first second

theorem byKey_total (a b : Entry) : (byKey a b || byKey b a) = true := by
  simp only [byKey, Bool.or_eq_true, decide_eq_true_eq]
  exact List.le_total _ _

/-- Sorting by key is stable: the entries of one key keep their order, so a search by key finds
    the same entry before and after. -/
theorem find?_mergeSort (w : String) (entries : List Entry) :
    (entries.mergeSort byKey).find? (·.key == w) = entries.find? (·.key == w) := by
  have tied : (entries.filter (·.key == w)).Pairwise (fun a b => byKey a b = true) := by
    apply List.pairwise_of_forall_mem_list
    intro a first b second
    simp only [List.mem_filter, beq_iff_eq] at first second
    simp [byKey, first.2, second.2]
  have kept := List.sublist_mergeSort byKey_trans byKey_total tied List.filter_sublist
  have keptFiltered : List.Sublist (entries.filter (·.key == w))
      ((entries.mergeSort byKey).filter (·.key == w)) := by
    simpa [List.filter_filter] using kept.filter (·.key == w)
  have permuted := (List.mergeSort_perm entries byKey).filter (·.key == w)
  rw [← List.head?_filter, ← List.head?_filter,
    (keptFiltered.eq_of_length permuted.length_eq.symm)]

theorem find?_keepFirst_mergeSort (w : String) (entries : List Entry) :
    (keepFirst (entries.mergeSort byKey)).find? (·.key == w) = entries.find? (·.key == w) := by
  rw [find?_keepFirst, find?_mergeSort]

theorem keepFirst_mergeSort_ascending (entries : List Entry) :
    (keepFirst (entries.mergeSort byKey)).Pairwise
      (fun a b => Text.bytes a.key < Text.bytes b.key) :=
  keepFirst_ascending (List.pairwise_mergeSort byKey_trans byKey_total entries)

/-! ## Building the index -/

theorem firstDisorder_eq_none : ∀ {keys : List (List UInt8)}, keys.Pairwise (· < ·) →
    Fst.firstDisorder keys = none
  | previous :: got :: rest, ascending => by
    obtain ⟨first, later⟩ := List.pairwise_cons.mp ascending
    have above : previous < got := first got List.mem_cons_self
    rw [Fst.firstDisorder, if_neg fun same => List.lt_irrefl _ (same ▸ above),
      if_neg (List.lt_asymm above)]
    exact firstDisorder_eq_none later
  | [], _ => rfl
  | [_], _ => rfl

/-- The index of entries with strictly ascending keys is built without error. -/
theorem build_of_ascending {entries : List Entry}
    (ascending : entries.Pairwise (fun a b => Text.bytes a.key < Text.bytes b.key)) :
    Fst.build (Entry.keyIndex entries) = .ok (Fst.ofPairs (Entry.keyIndex entries)) := by
  have keys : (Entry.keyIndex entries).map Prod.fst = entries.map (Text.bytes ·.key) := by
    rw [Entry.keyIndex, List.map_map]
    conv_rhs => rw [← List.zipIdx_map_fst 0 entries, List.map_map]
    exact List.map_congr_left fun _ _ => rfl
  rw [Fst.build, keys, firstDisorder_eq_none (List.pairwise_map.mpr ascending)]

/-! ## Entries of the lines -/

theorem firstKeyed_cons {line w : String} {rest : List String} {e : Entry} :
    FirstKeyed (line :: rest) w e ↔ (∃ r, SplitsAtTab line w r ∧ e = ⟨w, tokens r⟩) ∨
      ((∀ r, ¬ SplitsAtTab line w r) ∧ FirstKeyed rest w e) := by
  constructor
  · rintro ⟨before, keyed, after, r, split, splits, rfl, earlier⟩
    cases before with
    | nil =>
      obtain ⟨rfl, rfl⟩ := List.cons.inj split
      exact .inl ⟨r, splits, rfl⟩
    | cons head before =>
      obtain ⟨rfl, tailSplit⟩ := List.cons.inj split
      exact .inr ⟨earlier line List.mem_cons_self, before, keyed, after, r, tailSplit, splits, rfl,
        fun l later => earlier l (List.mem_cons_of_mem _ later)⟩
  · rintro (⟨r, splits, rfl⟩ | ⟨unkeyed, before, keyed, after, r, split, splits, rfl, earlier⟩)
    · exact ⟨[], line, rest, r, rfl, splits, rfl, by simp⟩
    · refine ⟨line :: before, keyed, after, r, by simp [split], splits, rfl, ?_⟩
      intro l member
      rcases List.mem_cons.mp member with rfl | later
      · exact unkeyed
      · exact earlier l later

theorem firstKeyed_cons_of_unkeyed {line w : String} {rest : List String} {e : Entry}
    (unkeyed : ∀ r, ¬ SplitsAtTab line w r) :
    FirstKeyed (line :: rest) w e ↔ FirstKeyed rest w e := by
  rw [firstKeyed_cons]
  constructor
  · rintro (⟨r, split, -⟩ | ⟨-, later⟩)
    · exact absurd split (unkeyed r)
    · exact later
  · exact fun later => .inr ⟨unkeyed, later⟩

theorem find?_lineEntries {w : String} (nonempty : w ≠ "") (lines : List String) (e : Entry) :
    (lines.filterMap parsedEntry).find? (·.key == w) = some e ↔ FirstKeyed lines w e := by
  induction lines with
  | nil => simp [FirstKeyed]
  | cons line rest inductionHypothesis =>
    rw [List.filterMap_cons]
    cases held : parsedEntry line with
    | none =>
      -- a line that holds no entry is keyed by no non-empty key
      have unkeyed : ∀ r, ¬ SplitsAtTab line w r := fun r split => by
        have := (parsedEntry_eq_some (e := ⟨w, tokens r⟩)).mpr ⟨nonempty, r, split, rfl⟩
        simp [held] at this
      simp only
      rw [inductionHypothesis, firstKeyed_cons_of_unkeyed unkeyed]
    | some x =>
      obtain ⟨keyed, r, split, values⟩ := parsedEntry_eq_some.mp held
      simp only
      rw [List.find?_cons]
      by_cases same : x.key = w
      · subst same
        rw [firstKeyed_cons]
        have entry : x = ⟨x.key, tokens r⟩ := by cases x; simp_all
        simp only [beq_self_eq_true, Option.some.injEq]
        constructor
        · rintro rfl
          exact .inl ⟨r, split, entry⟩
        · rintro (⟨r', split', rfl⟩ | ⟨unkeyed, -⟩)
          · rw [entry, (split.unique split').2]
          · exact absurd split (unkeyed r)
      · have differs : (x.key == w) = false := by simpa using same
        have unkeyed : ∀ r', ¬ SplitsAtTab line w r' :=
          fun r' split' => same (split.unique split').1
        rw [differs, inductionHypothesis, firstKeyed_cons_of_unkeyed unkeyed]

theorem key_ne_empty {line key rest : String} (accepted : WellKeyed line)
    (split : SplitsAtTab line key rest) : key ≠ "" := by
  rcases accepted with empty | ⟨key', rest', keyed, split'⟩
  · subst empty
    simpa using congrArg String.toList split.2
  · rw [(split.unique split').1]
    exact keyed

theorem firstKeyed_unique {lines : List String} (accepted : ∀ line ∈ lines, WellKeyed line)
    {w : String} {e e' : Entry} (first : FirstKeyed lines w e) (second : FirstKeyed lines w e') :
    e = e' := by
  have ⟨before, line, after, r, split, splits, _, _⟩ := first
  have nonempty := key_ne_empty (accepted line (by simp [split])) splits
  have found := (find?_lineEntries nonempty lines e).mpr first
  rw [(find?_lineEntries nonempty lines e').mpr second] at found
  exact (Option.some.inj found).symm

theorem firstKeyed_of_kept {lines : List String} {y : Entry}
    (kept : y ∈ keepFirst ((lines.filterMap parsedEntry).mergeSort byKey)) :
    y.key ≠ "" ∧ FirstKeyed lines y.key y := by
  have held : y ∈ lines.filterMap parsedEntry :=
    List.mem_mergeSort.mp (mem_of_mem_keepFirst kept)
  obtain ⟨line, -, entry⟩ := List.mem_filterMap.mp held
  have nonempty := (parsedEntry_eq_some.mp entry).1
  have found := find?_of_ascending (keepFirst_mergeSort_ascending _) kept
  rw [find?_keepFirst_mergeSort] at found
  exact ⟨nonempty, (find?_lineEntries nonempty lines y).mp found⟩

section Accepted

variable {lines : List String} (accepted : ∀ line ∈ lines, WellKeyed line) {index : Fst}
  {keyed : ∀ e ∈ keepFirst ((lines.filterMap parsedEntry).mergeSort byKey), e.key ≠ ""}
  {indexed : index.Represents
    (Entry.keyIndex (keepFirst ((lines.filterMap parsedEntry).mergeSort byKey)))}
include accepted

theorem exists_kept_of_splitsAtTab {line key rest : String} (member : line ∈ lines)
    (split : SplitsAtTab line key rest) :
    ∃ y ∈ keepFirst ((lines.filterMap parsedEntry).mergeSort byKey), y.key = key := by
  have nonempty := key_ne_empty (accepted line member) split
  have held : (⟨key, tokens rest⟩ : Entry) ∈ lines.filterMap parsedEntry :=
    List.mem_filterMap.mpr ⟨line, member, parsedEntry_eq_some.mpr ⟨nonempty, rest, split, rfl⟩⟩
  obtain ⟨y, found⟩ : ∃ y, (lines.filterMap parsedEntry).find? (·.key == key) = some y := by
    cases search : (lines.filterMap parsedEntry).find? (·.key == key) with
    | some y => exact ⟨y, rfl⟩
    | none => exact absurd (List.find?_eq_none.mp search _ held) (by simp)
  rw [← find?_keepFirst_mergeSort] at found
  exact ⟨y, List.mem_of_find?_eq_some found, by simpa using List.find?_some found⟩

theorem matchPrefix_eq_none (t : String) :
    (Dictionary.text (keepFirst ((lines.filterMap parsedEntry).mergeSort byKey)) index keyed
        indexed).matchPrefix t = none ↔
      ∀ line ∈ lines, ∀ key rest, SplitsAtTab line key rest → ¬ BytesBegin key t := by
  rw [matchPrefix_text, (foldl_longer t _ none).1]
  simp only [true_and]
  constructor
  · intro noneBegins line member key rest split begins
    obtain ⟨y, kept, rfl⟩ := exists_kept_of_splitsAtTab accepted member split
    have prefixed := (isPrefixOf_iff_bytesBegin _ _).mpr begins
    simp [noneBegins y kept] at prefixed
  · intro noneBegins y kept
    obtain ⟨-, before, line, after, r, split, splits, -, -⟩ := firstKeyed_of_kept kept
    have notBegins := noneBegins line (by simp [split]) y.key r splits
    rw [← isPrefixOf_iff_bytesBegin] at notBegins
    simpa using notBegins

theorem matchPrefix_eq_some {t : String} {e : Entry}
    (found : Dictionary.matchPrefix t
      (.text (keepFirst ((lines.filterMap parsedEntry).mergeSort byKey)) index keyed indexed) =
        some e) :
    FirstKeyed lines e.key e ∧ BytesBegin e.key t ∧
      ∀ line ∈ lines, ∀ key rest, SplitsAtTab line key rest → BytesBegin key t →
        key.utf8ByteSize ≤ e.key.utf8ByteSize := by
  have begins := (isPrefixOf_iff_bytesBegin _ _).mp (matchPrefix_begins t _ e found)
  rw [matchPrefix_text] at found
  obtain ⟨whence, -, longest⟩ := (foldl_longer t _ none).2 e found
  have kept : e ∈ keepFirst ((lines.filterMap parsedEntry).mergeSort byKey) := by
    simpa using whence
  refine ⟨(firstKeyed_of_kept kept).2, begins, ?_⟩
  intro line member key rest split keyBegins
  obtain ⟨y, keptY, rfl⟩ := exists_kept_of_splitsAtTab accepted member split
  exact longest y keptY ((isPrefixOf_iff_bytesBegin _ _).mpr keyBegins)

theorem readsLines_of_accepted
    (built : Fst.build (Entry.keyIndex (keepFirst ((lines.filterMap parsedEntry).mergeSort byKey)))
      = .ok index) :
    ReadsLines (.text (keepFirst ((lines.filterMap parsedEntry).mergeSort byKey)) index keyed
      indexed) lines where
  word w e := by
    rw [matchWord_text]
    by_cases empty : w = ""
    · simp [empty]
    · have nonempty : w.isEmpty = false := by simpa using empty
      rw [if_neg (by simp [nonempty]), find?_keepFirst_mergeSort, find?_lineEntries empty]
      simp [empty]
  noPrefix := matchPrefix_eq_none accepted
  longest t e := by
    refine ⟨matchPrefix_eq_some accepted, ?_⟩
    rintro ⟨first, begins, longest⟩
    have ⟨before, line, after, r, split, splits, _, _⟩ := first
    -- some key begins the text, so the lookup finds an entry, and it is as long as `e`'s
    obtain ⟨e', found⟩ := Option.ne_none_iff_exists'.mp fun nothing =>
      (matchPrefix_eq_none accepted t).mp nothing line (by simp [split]) e.key r splits begins
    obtain ⟨first', begins', longest'⟩ := matchPrefix_eq_some accepted found
    have ⟨before', line', after', r', split', splits', _, _⟩ := first'
    have sameKey : e'.key = e.key := eq_of_bytesBegin begins' begins
      (Nat.le_antisymm (longest line' (by simp [split']) e'.key r' splits' begins')
        (longest' line (by simp [split]) e.key r splits begins))
    have sameEntry : e' = e := firstKeyed_unique accepted (by rw [← sameKey]; exact first') first
    rw [found, sameEntry]
  ascending := ⟨_, _, _, _, rfl, built, keepFirst_mergeSort_ascending _⟩

end Accepted

/-! ## Reading a whole text -/

theorem ofEntries_lineEntries (lines : List String) :
    ∃ index keyed indexed,
      Fst.build (Entry.keyIndex (keepFirst ((lines.filterMap parsedEntry).mergeSort byKey))) =
        .ok index ∧
      ofEntries (lines.filterMap parsedEntry) =
        .ok (.text (keepFirst ((lines.filterMap parsedEntry).mergeSort byKey)) index keyed
          indexed) := by
  have keyed : ¬ (lines.filterMap parsedEntry).any (·.key.isEmpty) = true := by
    simp only [List.any_eq_true, List.mem_filterMap, String.isEmpty_iff, not_exists, not_and]
    rintro e ⟨line, -, held⟩
    exact (parsedEntry_eq_some.mp held).1
  have built := build_of_ascending (keepFirst_mergeSort_ascending (lines.filterMap parsedEntry))
  unfold ofEntries
  rw [dif_neg keyed]
  dsimp only
  split
  · next failed => rw [built] at failed; cases failed
  · next index indexBuilt =>
    exact ⟨index, keyed_keepFirst keyed, Fst.build_represents indexBuilt, indexBuilt, rfl⟩

theorem filterMap_parsedEntry_blank (lines tail : List String) (blank : ∀ line ∈ tail, line = "") :
    (lines ++ tail).filterMap parsedEntry = lines.filterMap parsedEntry := by
  have nothing : tail.filterMap parsedEntry = [] :=
    List.filterMap_eq_nil_iff.mpr fun line member => by rw [blank line member, parsedEntry_empty]
  rw [List.filterMap_append, nothing, List.append_nil]

/-- Reading a text form succeeds exactly when every line is empty or has a non-empty key before
    its first tab, and the dictionary read then answers its lookups as the lines say; otherwise
    reading reports the first line that is neither, counted from one with blank lines included,
    with its fault. -/
theorem parse_reads_lines (content path : String) :
    ((∃ d, parse content path = .ok d) ↔ ∀ line ∈ textLines content, WellKeyed line) ∧
      (∀ d, parse content path = .ok d → ReadsLines d (textLines content)) ∧
      (∀ e, parse content path = .error e → ∃ before line after,
        textLines content = before ++ line :: after ∧ ¬ WellKeyed line ∧
          (∀ earlier ∈ before, WellKeyed earlier) ∧
          e = .malformedDict path (before.length + 1) (faultOf line)) := by
  obtain ⟨tail, linesEq, blank⟩ := splitOn_map_dropTrailingReturns content
  rw [← textLines] at linesEq
  obtain ⟨allRead, onlyAccepted, stopped⟩ := filterMapM_readLine path (lines content) 1
  -- the blank lines after the last line feed change neither acceptance nor entries
  have acceptedIff : (∀ line ∈ textLines content, WellKeyed line) ↔
      ∀ line ∈ (lines content).map dropTrailingReturns, WellKeyed line := by
    rw [linesEq]
    simp only [List.mem_append]
    exact ⟨fun all line member => all line (.inl member),
      fun all line member => member.elim (all line) fun later => .inl (blank line later)⟩
  have sameEntries : (textLines content).filterMap parsedEntry =
      ((lines content).map dropTrailingReturns).filterMap parsedEntry := by
    rw [linesEq, filterMap_parsedEntry_blank _ _ blank]
  rw [parse_eq]
  cases read : ((lines content).zipIdx 1).filterMapM (readLine path) with
  | ok entries =>
    have accepted := acceptedIff.mpr (onlyAccepted entries read)
    have built : entries = (textLines content).filterMap parsedEntry := by
      rw [sameEntries, ← Except.ok.inj (read.symm.trans (allRead (onlyAccepted entries read)))]
    obtain ⟨index, keyed, indexed, indexBuilt, read⟩ := ofEntries_lineEntries (textLines content)
    simp only [bind, Except.bind, built, read, Except.ok.injEq, exists_eq',
      reduceCtorEq, false_implies, implies_true, and_true, true_iff]
    exact ⟨accepted, fun d built => built ▸ readsLines_of_accepted accepted indexBuilt⟩
  | error e =>
    simp only [bind, Except.bind, reduceCtorEq, exists_false, false_iff, false_implies,
      implies_true, Except.error.injEq, true_and, forall_eq']
    refine ⟨fun accepted => ?_, ?_⟩
    · rw [allRead (acceptedIff.mp accepted)] at read
      cases read
    · obtain ⟨before, line, after, split, refused, earlier, rfl⟩ := stopped e read
      refine ⟨before, line, after ++ tail, ?_, refused, earlier, by rw [Nat.add_comm]⟩
      rw [linesEq, split]
      simp

end Dictionary

end InputMethod

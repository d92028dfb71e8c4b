import Mathlib.Data.String.Basic
import InputMethod.CodeTable
import InputMethod.Proofs.Ranking.Reranking

/-! # What a code table query proposes

A code table is built by inserting entries one after another, by hand or line by line from its
text (`parse_eq_ofInsertions`). The main statement, `query_layout`, says what a query for a code
at an offset then proposes, in terms of the insertions alone: the code's own entries, up to
`maxCompletions` entries of the codes that extend it in ascending order, and the entries of its
proper prefixes, longest first, where the entries of a code are those inserted under it, stably
sorted by weight, heaviest first.

Two invariants of the table carry it (`Holds`): its codes are kept strictly ascending, and each
bucket is the stable sort of what was inserted under its code (`stablyDescending_insertByWeight`:
an entry goes after every entry at least as heavy). The completions are read by a range scan,
the codes after the queried one for as long as they start with it; that this finds every code
extending it is the fact that the codes between a text and one of its extensions extend it too
(`isPrefix_of_between`), so the extensions form one block right after the text
(`range_eq_filter`).
-/

namespace InputMethod

namespace CodeTable

/-! ## The order of codes -/

theorem toList_lt_of_isPrefix {code key : List Char} (extends_ : code <+: key) (other : code ≠ key) :
    code < key := by
  obtain ⟨rest, rfl⟩ := extends_
  induction code with
  | nil =>
    cases rest with
    | nil => exact absurd rfl other
    | cons c rest => exact List.nil_lt_cons c rest
  | cons c code inductionHypothesis =>
    exact List.cons_lt_cons_iff.mpr (.inr ⟨rfl, inductionHypothesis (by simpa using other)⟩)

/-- A text between `code` and a text that starts with `code` starts with `code` as well. -/
theorem isPrefix_of_between : ∀ {code between key : List Char},
    code < between → between < key → code <+: key → code <+: between
  | [], _, _, _, _, _ => List.nil_prefix
  | _ :: _, [], _, after, _, _ => absurd after (List.not_lt_nil _)
  | c :: code, b :: between, key, after, before, extends_ => by
    obtain ⟨rest, rfl⟩ := extends_
    rcases List.cons_lt_cons_iff.mp after with less | ⟨rfl, tailAfter⟩
    · -- a first character above `c` would put `between` above `key` too
      rcases List.cons_lt_cons_iff.mp before with more | ⟨same, -⟩
      · exact absurd (Char.lt_trans less more) (Char.lt_irrefl c)
      · exact absurd (same ▸ less) (Char.lt_irrefl c)
    · rcases List.cons_lt_cons_iff.mp before with more | ⟨-, tailBefore⟩
      · exact absurd more (Char.lt_irrefl c)
      · exact (List.prefix_cons_inj c).mpr (isPrefix_of_between tailAfter tailBefore ⟨rest, rfl⟩)

theorem lt_and_isPrefixOf_iff {code key : String} :
    (code < key ∧ code.isPrefixOf key = true) ↔ code.toList <+: key.toList ∧ key ≠ code := by
  rw [String.isPrefixOf, String.startsWith_string_iff, String.lt_iff]
  constructor
  · rintro ⟨less, extends_⟩
    exact ⟨extends_, fun same => List.lt_irrefl _ (same ▸ less)⟩
  · rintro ⟨extends_, other⟩
    exact ⟨toList_lt_of_isPrefix extends_ (fun same => other (String.toList_injective same).symm),
      extends_⟩

def Ascending (buckets : List (String × List TableEntry)) : Prop :=
  (buckets.map (·.1)).Pairwise (· < ·)

theorem Ascending.cons {b : String × List TableEntry} {rest : List (String × List TableEntry)}
    (ascending : Ascending (b :: rest)) : (∀ c ∈ rest, b.1 < c.1) ∧ Ascending rest := by
  simpa [Ascending, List.pairwise_cons] using ascending

theorem takeWhile_eq_filter {code : String} :
    ∀ {buckets : List (String × List TableEntry)}, Ascending buckets →
      (∀ b ∈ buckets, code < b.1) →
      buckets.takeWhile (fun b => code.isPrefixOf b.1) =
        buckets.filter (fun b => code.isPrefixOf b.1)
  | [], _, _ => rfl
  | b :: rest, ascending, above => by
    obtain ⟨later, ascendingRest⟩ := ascending.cons
    by_cases extends_ : code.isPrefixOf b.1 = true
    · rw [List.takeWhile_cons_of_pos (p := fun b : String × List TableEntry => code.isPrefixOf b.1) extends_,
        List.filter_cons_of_pos (p := fun b : String × List TableEntry => code.isPrefixOf b.1) extends_,
        takeWhile_eq_filter ascendingRest (fun c member => above c (List.mem_cons_of_mem b member))]
    · rw [List.takeWhile_cons_of_neg (p := fun b : String × List TableEntry => code.isPrefixOf b.1) extends_,
        List.filter_cons_of_neg (p := fun b : String × List TableEntry => code.isPrefixOf b.1) extends_]
      -- a later code extending `code` would make `b`, which lies between them, extend it
      symm
      rw [List.filter_eq_nil_iff]
      intro c member extendsLater
      rw [String.isPrefixOf, String.startsWith_string_iff] at extendsLater
      exact extends_ (String.startsWith_string_iff.mpr (isPrefix_of_between
        (String.lt_iff.mp (above b List.mem_cons_self)) (String.lt_iff.mp (later c member))
        extendsLater))

/-- The range scan of the completions: the codes above `code`, as long as they start with it,
    are the codes that extend `code`. -/
theorem range_eq_filter (code : String) :
    ∀ {buckets : List (String × List TableEntry)}, Ascending buckets →
      ((buckets.dropWhile fun b => !decide (code < b.1)).takeWhile
          fun b => code.isPrefixOf b.1) =
        buckets.filter fun b => decide (code < b.1) && code.isPrefixOf b.1
  | [], _ => rfl
  | b :: rest, ascending => by
    obtain ⟨later, ascendingRest⟩ := ascending.cons
    by_cases above : code < b.1
    · have allAbove : ∀ c ∈ b :: rest, code < c.1 := by
        intro c member
        rcases List.mem_cons.mp member with rfl | member
        · exact above
        · exact lt_trans above (later c member)
      rw [List.dropWhile_cons_of_neg (by simpa using above), takeWhile_eq_filter ascending allAbove]
      apply List.filter_congr
      intro c member
      simp [allAbove c member]
    · rw [List.dropWhile_cons_of_pos (by simpa using above), range_eq_filter code ascendingRest,
        List.filter_cons_of_neg (by simp [above])]

/-! ## Buckets -/

def weightRank (e : TableEntry) : Nat := Decimal.keyOfBits e.weightBits

theorem perm_insertByWeight (e : TableEntry) :
    ∀ bucket : List TableEntry, (insertByWeight e bucket).Perm (e :: bucket)
  | [] => List.Perm.refl _
  | f :: rest => by
    unfold insertByWeight
    split
    · exact List.Perm.refl _
    · exact ((perm_insertByWeight e rest).cons f).trans (List.Perm.swap e f rest)

theorem pairwise_insertByWeight (e : TableEntry) : ∀ {bucket : List TableEntry},
    bucket.Pairwise (fun a b => weightRank b ≤ weightRank a) →
      (insertByWeight e bucket).Pairwise (fun a b => weightRank b ≤ weightRank a)
  | [], _ => List.pairwise_singleton _ e
  | f :: rest, sorted => by
    rw [List.pairwise_cons] at sorted
    unfold insertByWeight
    split
    · next heavier =>
      refine List.pairwise_cons.mpr ⟨fun a member => ?_, List.pairwise_cons.mpr sorted⟩
      rcases List.mem_cons.mp member with rfl | member
      · exact Nat.le_of_lt heavier
      · exact Nat.le_trans (sorted.1 a member) (Nat.le_of_lt heavier)
    · next lighter =>
      refine List.pairwise_cons.mpr ⟨fun a member => ?_, pairwise_insertByWeight e sorted.2⟩
      rcases List.mem_cons.mp ((perm_insertByWeight e rest).mem_iff.mp member) with rfl | member
      · exact Nat.le_of_not_lt lighter
      · exact sorted.1 a member

theorem filter_insertByWeight (e : TableEntry) (k : Nat) : ∀ {bucket : List TableEntry},
    bucket.Pairwise (fun a b => weightRank b ≤ weightRank a) →
      (insertByWeight e bucket).filter (fun a => weightRank a == k) =
        bucket.filter (fun a => weightRank a == k) ++ [e].filter (fun a => weightRank a == k)
  | [], _ => rfl
  | f :: rest, sorted => by
    rw [List.pairwise_cons] at sorted
    unfold insertByWeight
    split
    · next heavier =>
      by_cases same : weightRank e = k
      · -- nothing in the bucket weighs as much as `e`
        have none : (f :: rest).filter (fun a => weightRank a == k) = [] := by
          rw [List.filter_eq_nil_iff]
          intro a member
          rcases List.mem_cons.mp member with rfl | member
          · simp only [weightRank] at same ⊢; simp; omega
          · have lighter := sorted.1 a member
            simp only [weightRank] at same lighter ⊢; simp; omega
        rw [List.filter_cons_of_pos (by simpa using same), none]
        simp [same]
      · rw [List.filter_cons_of_neg (by simpa using same)]
        simp [same]
    · rw [List.filter_cons, List.filter_cons, filter_insertByWeight e k sorted.2]
      split <;> simp

theorem stablyDescending_insertByWeight {added bucket : List TableEntry} (e : TableEntry)
    (sorted : StablyDescending weightRank added bucket) :
    StablyDescending weightRank (added ++ [e]) (insertByWeight e bucket) :=
  ⟨pairwise_insertByWeight e sorted.1, fun k => by
    rw [filter_insertByWeight e k sorted.1, sorted.2 k, List.filter_append]⟩

/-! ## Codes in ascending order -/

theorem ascending_cons_iff {b : String × List TableEntry} {rest : List (String × List TableEntry)} :
    Ascending (b :: rest) ↔ (∀ c ∈ rest, b.1 < c.1) ∧ Ascending rest := by
  simp [Ascending, List.pairwise_cons]

theorem mem_keys_insertBucket (code : String) (e : TableEntry) (k : String) :
    ∀ buckets : List (String × List TableEntry),
      k ∈ (insertBucket code e buckets).map (·.1) ↔ k = code ∨ k ∈ buckets.map (·.1)
  | [] => by simp [insertBucket]
  | (key, bucket) :: rest => by
    unfold insertBucket
    split
    · simp
    · split
      · next same =>
        rw [beq_iff_eq] at same
        subst same
        simp
      · simp only [List.map_cons, List.mem_cons, mem_keys_insertBucket code e k rest]
        tauto

theorem ascending_insertBucket (code : String) (e : TableEntry) :
    ∀ {buckets : List (String × List TableEntry)}, Ascending buckets →
      Ascending (insertBucket code e buckets)
  | [], _ => by simp [insertBucket, Ascending]
  | (key, bucket) :: rest, ascending => by
    obtain ⟨later, ascendingRest⟩ := ascending_cons_iff.mp ascending
    unfold insertBucket
    split
    · next below =>
      refine ascending_cons_iff.mpr ⟨fun c member => ?_, ascending⟩
      rcases List.mem_cons.mp member with rfl | member
      · exact below
      · exact lt_trans below (later c member)
    · split
      · exact ascending_cons_iff.mpr ⟨later, ascendingRest⟩
      · next notBelow other =>
        -- the new code goes after `key`, which is below it
        have above : key < code := by
          rw [beq_iff_eq] at other
          exact lt_of_le_of_ne (not_lt.mp notBelow) (Ne.symm other)
        refine ascending_cons_iff.mpr ⟨fun c member => ?_, ascending_insertBucket code e ascendingRest⟩
        rcases (mem_keys_insertBucket code e c.1 rest).mp (List.mem_map_of_mem member) with same | old
        · exact same ▸ above
        · obtain ⟨d, member, same⟩ := List.mem_map.mp old
          exact same ▸ later d member

theorem find?_insertBucket_of_ne {code k : String} (e : TableEntry) (other : k ≠ code) :
    ∀ buckets : List (String × List TableEntry),
      (insertBucket code e buckets).find? (·.1 == k) = buckets.find? (·.1 == k)
  | [] => by simp [insertBucket, Ne.symm other]
  | (key, bucket) :: rest => by
    unfold insertBucket
    split
    · simp [Ne.symm other]
    · split
      · next same =>
        rw [beq_iff_eq] at same
        subst same
        simp [Ne.symm other]
      · simp only [List.find?_cons, find?_insertBucket_of_ne e other rest]

theorem find?_insertBucket_self (code : String) (e : TableEntry) :
    ∀ {buckets : List (String × List TableEntry)}, Ascending buckets →
      (insertBucket code e buckets).find? (·.1 == code) =
        some (code, insertByWeight e (((buckets.find? (·.1 == code)).map Prod.snd).getD []))
  | [], _ => by simp [insertBucket, insertByWeight]
  | (key, bucket) :: rest, ascending => by
    obtain ⟨later, ascendingRest⟩ := ascending_cons_iff.mp ascending
    unfold insertBucket
    split
    · next below =>
      -- a code below the first one is not in the table yet
      have absent : ((key, bucket) :: rest).find? (·.1 == code) = none := by
        rw [List.find?_eq_none]
        intro c member
        rcases List.mem_cons.mp member with rfl | member
        · simpa using (ne_of_lt below).symm
        · simpa using (ne_of_lt (lt_trans below (later c member))).symm
      simp [absent, insertByWeight]
    · split
      · next same =>
        rw [beq_iff_eq] at same
        subst same
        simp
      · next notBelow other =>
        have otherKey : key ≠ code := fun same => other (by simp [same])
        rw [List.find?_cons_of_neg (by simpa using otherKey),
          find?_insertBucket_self code e ascendingRest,
          List.find?_cons_of_neg (by simpa using otherKey)]

theorem bucket_of_mem {t : CodeTable} (ascending : Ascending t.buckets) {b : String × List TableEntry}
    (member : b ∈ t.buckets) : t.bucket b.1 = b.2 := by
  obtain ⟨buckets⟩ := t
  simp only [bucket]
  induction buckets with
  | nil => simp at member
  | cons first rest inductionHypothesis =>
    obtain ⟨later, ascendingRest⟩ := ascending_cons_iff.mp ascending
    rcases List.mem_cons.mp member with rfl | member
    · simp
    · rw [List.find?_cons_of_neg (by simpa using ne_of_lt (later b member))]
      exact inductionHypothesis ascendingRest member

/-! ## Tables built by insertion -/

def added (inserts : List (String × TableEntry)) (code : String) : List TableEntry :=
  (inserts.filter (·.1 == code)).map (·.2)

def ofInsertions (inserts : List (String × TableEntry)) : CodeTable :=
  inserts.foldl (fun t x => t.insert x.1 x.2.text x.2.weightBits) {}

/-- What a table built by `inserts` keeps: its codes strictly ascending, the codes inserted and
    no other, and in each bucket what was inserted under its code, heaviest first and in the
    order of insertion among equal weights. -/
structure Holds (inserts : List (String × TableEntry)) (t : CodeTable) : Prop where
  ascending : Ascending t.buckets
  keys : ∀ k, k ∈ t.buckets.map (·.1) ↔ k ∈ inserts.map (·.1)
  sorted : ∀ k, StablyDescending weightRank (added inserts k) (t.bucket k)

theorem holds_empty : Holds [] {} :=
  ⟨by simp [Ascending], by simp, fun k => ⟨by simp [bucket], by simp [added, bucket]⟩⟩

theorem Holds.insert {inserts : List (String × TableEntry)} {t : CodeTable} (holds : Holds inserts t)
    (code : String) (e : TableEntry) :
    Holds (inserts ++ [(code, e)]) (t.insert code e.text e.weightBits) := by
  refine ⟨ascending_insertBucket code _ holds.ascending, fun k => ?_, fun k => ?_⟩
  · rw [CodeTable.insert, mem_keys_insertBucket, holds.keys k]
    simp [or_comm]
  · by_cases same : k = code
    · subst same
      have grown : added (inserts ++ [(k, e)]) k = added inserts k ++ [e] := by simp [added]
      rw [grown]
      simp only [bucket, CodeTable.insert, find?_insertBucket_self k _ holds.ascending,
        Option.map_some, Option.getD_some]
      exact stablyDescending_insertByWeight e (holds.sorted k)
    · have kept : added (inserts ++ [(code, e)]) k = added inserts k := by
        simp [added, Ne.symm same]
      rw [kept]
      simp only [bucket, CodeTable.insert, find?_insertBucket_of_ne _ same]
      exact holds.sorted k

theorem holds_foldl {inserts : List (String × TableEntry)} {t : CodeTable} (holds : Holds inserts t) :
    ∀ more : List (String × TableEntry),
      Holds (inserts ++ more) (more.foldl (fun t x => t.insert x.1 x.2.text x.2.weightBits) t)
  | [] => by simpa using holds
  | x :: more => by
    have next := holds.insert x.1 x.2
    rw [List.foldl_cons, ← List.singleton_append, ← List.append_assoc]
    exact holds_foldl next more

theorem holds_ofInsertions (inserts : List (String × TableEntry)) :
    Holds inserts (ofInsertions inserts) := by
  have built := holds_foldl holds_empty inserts
  rwa [List.nil_append] at built

theorem addLine_cases (t : CodeTable) (line : String) :
    t.addLine line = t ∨ ∃ (code text : String) (bits : UInt64), t.addLine line = t.insert code text bits := by
  unfold addLine
  dsimp only
  split
  · exact .inl rfl
  · split
    · split
      · exact .inl rfl
      · exact .inr ⟨_, _, _, rfl⟩
    · exact .inl rfl

theorem foldl_addLine (lines : List String) :
    ∀ t : CodeTable, ∃ more : List (String × TableEntry),
      lines.foldl addLine t = more.foldl (fun t x => t.insert x.1 x.2.text x.2.weightBits) t := by
  induction lines with
  | nil => exact fun t => ⟨[], rfl⟩
  | cons line lines inductionHypothesis =>
    intro t
    rw [List.foldl_cons]
    rcases addLine_cases t line with same | ⟨code, text, bits, inserted⟩
    · rw [same]
      exact inductionHypothesis t
    · obtain ⟨more, rest⟩ := inductionHypothesis (t.insert code text bits)
      exact ⟨(code, ⟨text, bits⟩) :: more, by rw [inserted, rest]; rfl⟩

/-- A table read from text is built by insertions. -/
theorem parse_eq_ofInsertions (content : String) :
    ∃ inserts, parse content = ofInsertions inserts :=
  foldl_addLine (Text.lines content) {}

/-! ## Proper prefixes -/

theorem properPrefixes_eq (code : String) :
    properPrefixes code =
      (List.range' 1 (code.length - 1)).reverse.map fun n => String.ofList (code.toList.take n) := by
  simp [properPrefixes, List.range_eq_range']

theorem mem_properPrefixes {code p : String} :
    p ∈ properPrefixes code ↔ p ≠ "" ∧ p.toList <+: code.toList ∧ p ≠ code := by
  rw [properPrefixes_eq]
  simp only [List.mem_map, List.mem_reverse, List.mem_range'_1]
  constructor
  · rintro ⟨n, ⟨low, high⟩, rfl⟩
    have counted : (code.toList.take n).length = n := by
      rw [List.length_take, String.length_toList]
      omega
    refine ⟨fun empty => ?_, by simpa using List.take_prefix n code.toList, fun whole => ?_⟩
    · have none := congrArg String.toList empty
      rw [String.toList_ofList] at none
      simp [none] at counted
      omega
    · have sameLength := congrArg String.length whole
      rw [String.length_ofList, counted] at sameLength
      omega
  · rintro ⟨nonempty, begins, other⟩
    have shorter : p.toList.length < code.length := by
      rw [← String.length_toList]
      refine Nat.lt_of_le_of_ne begins.length_le fun same => other ?_
      exact String.toList_injective (begins.eq_of_length same)
    have someChar : 0 < p.toList.length :=
      List.length_pos_iff.mpr fun empty => nonempty (String.toList_eq_nil_iff.mp empty)
    refine ⟨p.toList.length, ⟨someChar, by omega⟩, ?_⟩
    rw [← List.prefix_iff_eq_take.mp begins, String.ofList_toList]

theorem pairwise_properPrefixes (code : String) :
    (properPrefixes code).Pairwise fun p q => q.length < p.length := by
  rw [properPrefixes_eq, List.pairwise_map, List.pairwise_reverse]
  refine List.Pairwise.imp_of_mem (fun first second shorter => ?_)
    (List.pairwise_lt_range' (s := 1) (n := code.length - 1))
  simp only [List.mem_range'_1] at first second
  simp only [String.length_ofList, List.length_take, String.length_toList]
  omega

/-! ## Sorted buckets -/

theorem eq_of_pairwise_of_filter {α : Type} {key : α → Nat} : ∀ {s t : List α},
    s.Pairwise (fun a b => key b ≤ key a) → t.Pairwise (fun a b => key b ≤ key a) →
      (∀ k, s.filter (fun a => key a == k) = t.filter (fun a => key a == k)) → s = t
  | [], [], _, _, _ => rfl
  | [], b :: t, _, _, same => by simpa using same (key b)
  | a :: s, [], _, _, same => by simpa using same (key a)
  | a :: s, b :: t, sortedS, sortedT, same => by
    rw [List.pairwise_cons] at sortedS sortedT
    -- each head carries the highest key of its list, and both lists hold the same keys
    have lowerB : key b ≤ key a := by
      have held : b ∈ (a :: s).filter (fun x => key x == key b) := by simp [same]
      rcases List.mem_cons.mp (List.mem_filter.mp held).1 with rfl | later
      · exact Nat.le_refl _
      · exact sortedS.1 b later
    have lowerA : key a ≤ key b := by
      have held : a ∈ (b :: t).filter (fun x => key x == key a) := by simp [← same]
      rcases List.mem_cons.mp (List.mem_filter.mp held).1 with rfl | later
      · exact Nat.le_refl _
      · exact sortedT.1 a later
    have heads := same (key a)
    simp only [List.filter_cons, beq_self_eq_true, if_true, show key b = key a by omega,
      List.cons.injEq] at heads
    obtain ⟨rfl, -⟩ := heads
    rw [eq_of_pairwise_of_filter sortedS.2 sortedT.2 fun k => ?_]
    have tails := same k
    by_cases keyed : key a = k
    · simpa [List.filter_cons, keyed] using tails
    · simpa [List.filter_cons, keyed] using tails

/-- A stable sort by a key, highest first, is unique. -/
theorem StablyDescending.unique {α : Type} {key : α → Nat} {l s t : List α}
    (first : StablyDescending key l s) (second : StablyDescending key l t) : s = t :=
  eq_of_pairwise_of_filter first.1 second.1 fun k => (first.2 k).trans (second.2 k).symm

/-! ## The query -/

def sortedBucket (inserts : List (String × TableEntry)) (code : String) : List TableEntry :=
  (added inserts code).mergeSort fun a b => decide (weightRank b ≤ weightRank a)

def QueryLayout (inserts : List (String × TableEntry)) (t : CodeTable) : Prop :=
  ∀ code offset,
    (code = "" → t.query code offset = .ofList []) ∧
    (code ≠ "" → ∃ extensions prefixes : List String,
      extensions.Pairwise (· < ·) ∧
      (∀ k, k ∈ extensions ↔ k ∈ inserts.map (·.1) ∧ code.toList <+: k.toList ∧ k ≠ code) ∧
      prefixes.Pairwise (fun p q => q.length < p.length) ∧
      (∀ p, p ∈ prefixes ↔ p ≠ "" ∧ p.toList <+: code.toList ∧ p ≠ code) ∧
      t.query code offset = .ofList
        ((sortedBucket inserts code).map
            (entryCandidate "table" offset (offset + code.utf8ByteSize) "") ++
          (extensions.flatMap fun k => (sortedBucket inserts k).map
            (entryCandidate "completion" offset (offset + code.utf8ByteSize)
              ("~" ++ String.ofList (k.toList.drop code.length)))).take maxCompletions ++
          prefixes.flatMap fun p => (sortedBucket inserts p).map
            (entryCandidate "table" offset (offset + p.utf8ByteSize) "")))

theorem Holds.queryLayout {inserts : List (String × TableEntry)} {t : CodeTable}
    (holds : Holds inserts t) : QueryLayout inserts t := by
  intro code offset
  have buckets : ∀ k, t.bucket k = sortedBucket inserts k := fun k =>
    StablyDescending.unique (holds.sorted k) (mergeSort_stablyDescending weightRank _)
  refine ⟨fun empty => by simp [query, candidates, empty], fun nonempty => ?_⟩
  refine ⟨(t.buckets.filter fun b => decide (code < b.1) && code.isPrefixOf b.1).map (·.1),
    properPrefixes code, ?_, fun k => ?_, pairwise_properPrefixes code, fun p => mem_properPrefixes, ?_⟩
  · exact List.Pairwise.sublist (List.filter_sublist.map _) holds.ascending
  · rw [← holds.keys k, ← lt_and_isPrefixOf_iff]
    simp only [List.mem_map, List.mem_filter, Bool.and_eq_true, decide_eq_true_eq]
    constructor
    · rintro ⟨b, ⟨member, less, begins⟩, rfl⟩
      exact ⟨⟨b, member, rfl⟩, less, begins⟩
    · rintro ⟨⟨b, member, rfl⟩, less, begins⟩
      exact ⟨b, ⟨member, less, begins⟩, rfl⟩
  · have scanned := range_eq_filter code holds.ascending
    have notEmpty : code.isEmpty = false := by simpa [String.isEmpty_iff] using nonempty
    simp only [query, candidates, notEmpty, Bool.false_eq_true, if_false]
    rw [scanned]
    -- a bucket listed in the table is the sorted bucket of its code
    have listed : ∀ b ∈ t.buckets.filter (fun b => decide (code < b.1) && code.isPrefixOf b.1),
        b.2 = sortedBucket inserts b.1 := fun b member =>
      (bucket_of_mem holds.ascending (List.mem_filter.mp member).1).symm.trans (buckets b.1)
    simp only [buckets, List.flatMap_map]
    congr 4
    apply List.flatMap_congr
    intro b member
    rw [listed b member]

/-- What a code table query proposes, for every table built by insertions and every table read
    from text: see `QueryLayout`. -/
theorem query_layout :
    (∀ inserts, QueryLayout inserts (ofInsertions inserts)) ∧
      ∀ content, ∃ inserts, QueryLayout inserts (parse content) := by
  refine ⟨fun inserts => (holds_ofInsertions inserts).queryLayout, fun content => ?_⟩
  obtain ⟨inserts, read⟩ := parse_eq_ofInsertions content
  exact ⟨inserts, read ▸ (holds_ofInsertions inserts).queryLayout⟩

end CodeTable

end InputMethod

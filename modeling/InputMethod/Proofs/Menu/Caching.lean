import InputMethod.Segmentation.Segment
import InputMethod.Proofs.Stream.Playback

/-! # Menus cache a prefix of their stream

A menu over a stream is asked again and again for more candidates. The main statement,
`prepare_caches_leading`, says what it holds after any sequence of requests: the largest number
`K` asked for so far decides everything. The menu has cached what a consumer taking `K`
candidates would draw (`Stream.take K`), so as many as there are when the stream has fewer, and
each request answers that number. The stream is left exactly where that consumer would leave
it, just past the last cached candidate, unless it ran dry before `K` and was let go. Hence a
cached candidate keeps its index, two requests act as one for the larger count, and selecting
index `i` succeeds exactly when `i + 1` fits a word and the stream has more than `i`
candidates.

Two facts carry it. Pulling `n + k` candidates is pulling `n` and then `k` (`fill_add`),
which makes `prepare` a maximum whatever the menu (`prepare_prepare`). And pulling from a fresh
stream is `Stream.take` (`fill_some`), which names the cache and the stream position. Over a
sequence of slots, empty ones among them, that position is the slots after the slot of the last
cached candidate (`prepare_slots_past_last`).
-/

namespace InputMethod

namespace Menu

/-! ## Pulling into the cache -/

@[simp] theorem fill_zero (cached : List Candidate) (source : Option Stream) :
    fill 0 cached source = (cached, source) := rfl

/-- A menu whose stream was let go caches nothing more. -/
@[simp] theorem fill_none (wanted : Nat) (cached : List Candidate) :
    fill wanted cached none = (cached, none) := by
  cases wanted <;> rfl

/-- Pulling `n + k` candidates is pulling `n`, then `k` more from where that left off. -/
theorem fill_add (n k : Nat) (cached : List Candidate) (source : Option Stream) :
    fill (n + k) cached source = fill k (fill n cached source).1 (fill n cached source).2 := by
  induction n generalizing cached source with
  | zero => simp
  | succ n inductionHypothesis =>
    cases source with
    | none => simp
    | some s =>
      rw [Nat.add_right_comm]
      rcases pulled : s.pull with ⟨_ | c, s'⟩
      · simp [fill, pulled]
      · simp only [fill, pulled]
        exact inductionHypothesis (cached ++ [c]) (some s')

/-- Pulling from a stream caches what a consumer taking as many candidates draws, and keeps
    the stream as that consumer leaves it, unless it came back short and was let go. -/
theorem fill_some (n : Nat) (cached : List Candidate) (s : Stream) :
    fill n cached (some s) =
      (cached ++ (s.take n).1, if (s.take n).1.length < n then none else some (s.take n).2) := by
  induction n generalizing cached s with
  | zero => simp
  | succ n inductionHypothesis =>
    rcases pulled : s.pull with ⟨_ | c, s'⟩
    · simp [fill, pulled, Stream.take_succ_of_pull_none pulled]
    · simp only [fill, pulled, Stream.take_succ_of_pull_some pulled, inductionHypothesis,
        List.append_assoc, List.singleton_append, List.length_cons, Nat.add_lt_add_iff_right]

theorem length_fill (wanted : Nat) (cached : List Candidate) (source : Option Stream)
    (kept : (fill wanted cached source).2.isSome) :
    (fill wanted cached source).1.length = cached.length + wanted := by
  cases source with
  | none => simp at kept
  | some s =>
    rw [fill_some] at kept ⊢
    split at kept
    · simp at kept
    · next enough =>
      have taken := Stream.length_take_le wanted s
      simp only [List.length_append]
      omega

/-! ## Requests -/

theorem prepare_of_le {count : Nat} {m : Menu} (cachedAlready : count ≤ m.cached.length) :
    m.prepare count = (m.cached.length, m) := by
  simp [prepare, Nat.sub_eq_zero_of_le cachedAlready]

/-- Two requests act as one request for the larger count, whatever the menu holds. -/
theorem prepare_prepare (m : Menu) (a b : Nat) :
    (m.prepare a).2.prepare b = m.prepare (max a b) := by
  obtain ⟨source, cached⟩ := m
  simp only [prepare]
  -- the larger request pulls what the first one pulled, then what the second one adds
  cases kept : (fill (a - cached.length) cached source).2 with
  | none =>
    have split : max a b - cached.length =
        (a - cached.length) + (max a b - cached.length - (a - cached.length)) := by omega
    rw [split, fill_add, kept, fill_none, fill_none]
  | some s =>
    have grown := length_fill (a - cached.length) cached source (by simp [kept])
    have split : max a b - cached.length =
        (a - cached.length) + (b - (fill (a - cached.length) cached source).1.length) := by
      omega
    rw [split, fill_add, kept]

def cachedFrom (s : Stream) (count : Nat) : Menu :=
  { source := if (s.take count).1.length < count then none else some (s.take count).2
    cached := (s.take count).1 }

theorem prepare_ofStream (s : Stream) (count : Nat) :
    (ofStream s).prepare count = ((s.take count).1.length, cachedFrom s count) := by
  simp [prepare, ofStream, cachedFrom, fill_some]

theorem prepare_cachedFrom (s : Stream) (asked count : Nat) :
    (cachedFrom s asked).prepare count =
      ((s.take (max asked count)).1.length, cachedFrom s (max asked count)) := by
  have made : cachedFrom s asked = ((ofStream s).prepare asked).2 := by rw [prepare_ofStream]
  rw [made, prepare_prepare, prepare_ofStream]

theorem cached_grows (s : Stream) {a b : Nat} (le : a ≤ b) :
    (cachedFrom s a).cached <+: (cachedFrom s b).cached := by
  obtain ⟨more, rfl⟩ := Nat.exists_eq_add_of_le le
  exact Stream.take_prefix a more s

theorem foldl_prepare (m : Menu) (first : Nat) (counts : List Nat) :
    counts.foldl (fun m count => (m.prepare count).2) (m.prepare first).2 =
      (m.prepare (counts.foldl max first)).2 := by
  induction counts generalizing first with
  | nil => rfl
  | cons count counts inductionHypothesis =>
    rw [List.foldl_cons, List.foldl_cons, prepare_prepare, inductionHypothesis]

theorem foldl_prepare_ofStream (s : Stream) (counts : List Nat) :
    counts.foldl (fun m count => (m.prepare count).2) (ofStream s) =
      cachedFrom s (counts.foldl max 0) := by
  have fresh : ofStream s = ((ofStream s).prepare 0).2 := by simp [prepare_of_le]
  rw [fresh, foldl_prepare, prepare_ofStream]

end Menu

namespace Segment

theorem select_cachedFrom (seg : Segment) (s : Stream) (asked index : Nat)
    (wraps : seg.menu = some (Menu.cachedFrom s asked)) :
    (seg.select index).1 = true ↔ index < wordMax ∧ index < (s.take (index + 1)).1.length := by
  have prepared := Menu.prepare_cachedFrom s asked (index + 1)
  -- the candidates up to `index` are the same whether `asked` is larger or not
  have firstOnes := Stream.take_fst_take (Nat.le_max_right asked (index + 1)) s
  have sameCount : index < (s.take (max asked (index + 1))).1.length ↔
      index < (s.take (index + 1)).1.length := by
    rw [← firstOnes, List.length_take]
    omega
  unfold select
  rw [wraps]
  by_cases fits : wordMax < index + 1
  · simp only [fits, if_true]
    simp only [Bool.false_eq_true, false_iff, not_and, Nat.not_lt]
    intro _
    omega
  · simp only [fits, if_false, prepared]
    split
    · next short => simp only [Bool.false_eq_true, false_iff, not_and]; omega
    · next enough => simp only [true_iff]; omega

end Segment

namespace Menu

/-- Menus cache a prefix of their stream. After requests for `earlier` and then for `count`,
    for every stream `s` whatever its empty slots, finite or endless, and with `K` the largest
    count asked for so far:
    * the request answers the number of cached candidates, and the menu holds what a consumer
      taking `K` candidates of `s` draws, so the first `min K N` of the `N` candidates of `s`,
      and the stream just past the last of them, or no stream when it came back short;
    * what was cached before stays cached at its index;
    * two requests act as one for the larger count, on every menu;
    * selecting `index` in a segment over that menu succeeds exactly when `index` is below
      `wordMax` and `s` has more than `index` candidates. -/
theorem prepare_caches_leading (s : Stream) (earlier : List Nat) (count : Nat) :
    (earlier.foldl (fun m k => (m.prepare k).2) (ofStream s)).prepare count =
        ((s.take (max (earlier.foldl max 0) count)).1.length,
          { source := if (s.take (max (earlier.foldl max 0) count)).1.length <
                max (earlier.foldl max 0) count then none
              else some (s.take (max (earlier.foldl max 0) count)).2
            cached := (s.take (max (earlier.foldl max 0) count)).1 }) ∧
      (earlier.foldl (fun m k => (m.prepare k).2) (ofStream s)).cached <+:
        ((earlier.foldl (fun m k => (m.prepare k).2) (ofStream s)).prepare count).2.cached ∧
      (∀ (m : Menu) (a b : Nat), (m.prepare a).2.prepare b = m.prepare (max a b)) ∧
      ∀ (seg : Segment) (index : Nat),
        seg.menu = some (earlier.foldl (fun m k => (m.prepare k).2) (ofStream s)) →
        ((seg.select index).1 = true ↔ index < wordMax ∧ index < (s.take (index + 1)).1.length) := by
  have after := foldl_prepare_ofStream s earlier
  refine ⟨by rw [after, prepare_cachedFrom]; rfl, ?_, prepare_prepare, ?_⟩
  · rw [after, prepare_cachedFrom]
    exact cached_grows s (Nat.le_max_left _ _)
  · intro seg index wraps
    exact Segment.select_cachedFrom seg s _ index (wraps.trans (congrArg some after))

/-- A menu over five slots, two of them empty, asked for two candidates and then one: it holds
    the first two candidates and the stream past the second, and index `2` is selectable. -/
theorem caches_two_of_five_slots :
    let s := Stream.slots [none, some (.make "test" 0 2 "a" 0.0), none,
      some (.make "test" 0 2 "b" 0.0), some (.make "test" 0 2 "c" 0.0)]
    let seg : Segment := { Segment.new 0 2 with
      menu := some ([2].foldl (fun m k => (m.prepare k).2) (ofStream s)) }
    seg.menu = some ([2].foldl (fun m k => (m.prepare k).2) (ofStream s)) ∧
      ((seg.select 2).1 = true ↔ 2 < wordMax ∧ 2 < (s.take (2 + 1)).1.length) :=
  ⟨rfl, (prepare_caches_leading _ [2] 1).2.2.2 _ 2 rfl⟩

end Menu

/-! ## Where a sequence of slots is left -/

namespace Stream

theorem pullSlots_split : ∀ pending : List (Option Candidate),
    ∃ empties : List (Option Candidate), (∀ slot ∈ empties, slot = none) ∧
      ((∃ c rest, pending = empties ++ some c :: rest ∧ pullSlots pending = (some c, rest)) ∨
        (pending = empties ∧ pullSlots pending = (none, [])))
  | [] => ⟨[], by simp, .inr ⟨rfl, rfl⟩⟩
  | none :: pending => by
    obtain ⟨empties, allEmpty, found⟩ := pullSlots_split pending
    refine ⟨none :: empties, by simpa using allEmpty, ?_⟩
    rcases found with ⟨c, rest, rfl, pulled⟩ | ⟨rfl, pulled⟩
    · exact .inl ⟨c, rest, rfl, pulled⟩
    · exact .inr ⟨rfl, pulled⟩
  | some c :: pending => ⟨[], by simp, .inl ⟨c, pending, rfl, rfl⟩⟩

theorem take_slots (n : Nat) (pending : List (Option Candidate)) :
    ∃ front rest, pending = front ++ rest ∧
      (Stream.slots pending).take n = (front.filterMap id, .slots rest) ∧
      (front.getLast?.all Option.isSome ∨ (front.filterMap id).length < n) := by
  induction n generalizing pending with
  | zero => exact ⟨[], pending, rfl, rfl, .inl rfl⟩
  | succ n inductionHypothesis =>
    obtain ⟨empties, allEmpty, found⟩ := pullSlots_split pending
    have skipped : empties.filterMap id = [] := by
      rw [List.filterMap_eq_nil_iff]
      intro slot member
      simp [allEmpty slot member]
    rcases found with ⟨c, rest, rfl, pulled⟩ | ⟨rfl, pulled⟩
    · obtain ⟨front, after, rfl, taken, ends⟩ := inductionHypothesis rest
      have pulledSlots : (Stream.slots (empties ++ some c :: (front ++ after))).pull =
          (some c, .slots (front ++ after)) := by simp [pull, pulled]
      refine ⟨empties ++ some c :: front, after, by simp, ?_, ?_⟩
      · rw [take_succ_of_pull_some pulledSlots, taken, List.filterMap_append, skipped,
          List.nil_append, List.filterMap_cons_some (f := id) rfl]
      · -- the front now ends with the last candidate of the rest, or with `c` itself
        rcases ends with ends | short
        · left
          rw [List.getLast?_append, List.getLast?_cons]
          cases last : front.getLast? with
          | none => rfl
          | some slot => simpa [last] using ends
        · right
          rw [List.filterMap_append, skipped, List.nil_append,
            List.filterMap_cons_some (f := id) rfl, List.length_cons]
          omega
    · have pulledSlots : (Stream.slots pending).pull = (none, .slots []) := by simp [pull, pulled]
      exact ⟨pending, [], by simp, by rw [take_succ_of_pull_none pulledSlots, skipped],
        .inr (by rw [skipped]; exact Nat.succ_pos n)⟩

end Stream

namespace Menu

/-- A menu over a sequence of slots, whatever its empty slots, after requests for `earlier` and
    then for `count`: it caches the candidates of a front part of the slots, and unless the
    slots came back short and were let go, it holds the slots after that part, the front ending
    with the slot of the last cached candidate. -/
theorem prepare_slots_past_last (pending : List (Option Candidate)) (earlier : List Nat)
    (count : Nat) :
    let menu := ((earlier.foldl (fun m k => (m.prepare k).2)
      (ofStream (.slots pending))).prepare count).2
    ∃ front rest, pending = front ++ rest ∧ menu.cached = front.filterMap id ∧
      (menu.source = none ∨
        menu.source = some (.slots rest) ∧ front.getLast?.all Option.isSome) := by
  intro menu
  -- the menu holds what a consumer taking the largest count asked for leaves of the slots
  have held : menu = cachedFrom (.slots pending) (max (earlier.foldl max 0) count) := by
    simp only [menu, foldl_prepare_ofStream, prepare_cachedFrom]
  obtain ⟨front, rest, split, taken, ends⟩ :=
    Stream.take_slots (max (earlier.foldl max 0) count) pending
  refine ⟨front, rest, split, by rw [held, cachedFrom, taken], ?_⟩
  rw [held, cachedFrom, taken]
  dsimp only
  split
  · exact .inl rfl
  · next enough => exact .inr ⟨rfl, ends.resolve_right enough⟩

end Menu

end InputMethod
